import ComponentGate.Repair.Pass
import ComponentGate.Text.Blank
import ComponentGate.Text.Lines

/-!
Moving a module's own variable declarations into the first function that it exports. A function whose
body is an expression gets a block for them; without such a function the declarations stay.
-/

namespace ComponentGate

open Syntax

namespace Repair

def indentStep : String := "  "

/-- A function that a module exports, under the name it is known by. -/
structure ExportedFunction where
  name : String
  function : Tree

def isFunctionDeclaration (tree : Tree) : Bool :=
  tree.isOneOf [.functionDeclaration, .generatorFunctionDeclaration]

/-- The function that a declarator binds to its name. -/
def boundFunction? (document : Document) (declarator : Tree) : Option ExportedFunction :=
  if !declarator.isKind .variableDeclarator then none
  else
    match declarator.child? .value with
    | some value =>
      if value.unwrapped.isFunction then
        some ⟨((declarator.child? .name).map document.text).getD "", value.unwrapped⟩
      else none
    | none => none

/-- The function that an export statement defines. -/
def exportedFunction? (document : Document) (statement : Tree) : Option ExportedFunction :=
  match statement.child? .declaration with
  | some declaration =>
    if isFunctionDeclaration declaration then
      some ⟨((declaration.child? .name).map document.text).getD "default", declaration⟩
    else if declaration.isDeclaration then
      declaration.namedChildren.findSome? (boundFunction? document)
    else none
  | none =>
    match statement.child? .value with
    | some value =>
      if value.unwrapped.isFunction then some ⟨"default", value.unwrapped⟩ else none
    | none => none

/-- The first function that the module exports. -/
def hoistTarget? (document : Document) : Option ExportedFunction :=
  (document.root.namedChildren.filter (·.isKind .exportStatement)).findSome?
    (exportedFunction? document)

/-- The word that opens a declaration. -/
def declarationWord (document : Document) (declaration : Tree) : String :=
  if declaration.isKind .variableDeclaration then "var"
  else ((declaration.children.head?).map document.text).getD ""

/-- The names, or patterns, that a declaration binds. -/
def declaredNames (document : Document) (declaration : Tree) : List String :=
  (declaration.namedChildren.filter (·.isKind .variableDeclarator)).filterMap fun declarator =>
    (declarator.child? .name).map document.text

/-- Shifts lines right, the first of which starts at `offset`; blank lines and lines that start inside
one of the `literals` stay as they are. -/
def shiftLines (indent : String) (literals : List (Nat × Nat)) : Nat → List (List Char) → List String
  | _, [] => []
  | offset, line :: rest =>
    let text := String.ofList line
    let inLiteral := literals.any fun range => range.1 < offset && offset < range.2
    let shifted := if inLiteral || line.all Text.isBlank then text else indent ++ text
    shifted :: shiftLines indent literals (offset + text.utf8ByteSize + 1) rest

/-- A node's text shifted right, except for what stands in template strings. -/
def reindented (document : Document) (tree : Tree) (indent : String) : String :=
  let literals := (tree.nodes.filter (·.isKind .templateString)).map fun node =>
    (node.start, node.stop)
  match Text.splitAtLineFeeds (document.text tree).toList with
  | [] => indent
  | first :: rest =>
    let text := String.ofList first
    "\n".intercalate
      ((indent ++ text) ::
        shiftLines indent literals (tree.start + text.utf8ByteSize + 1) rest)

/-- The edit that puts declarations in front of a function's own statements. -/
def hoistEdit (document : Document) (function body : Tree) (declarations : List Tree) : Edit :=
  if body.isKind .statementBlock then
    let indent :=
      match body.significantChildren.head? with
      | some statement =>
        if statement.line ≠ body.line then document.lineIndent statement.start
        else document.lineIndent body.start ++ indentStep
      | none => document.lineIndent body.start ++ indentStep
    let moved := declarations.map fun declaration => "\n" ++ reindented document declaration indent
    .insert ((body.children.head?.getD body).stop) ("".intercalate moved)
  else
    let base := document.lineIndent function.start
    let indent := base ++ indentStep
    let moved := declarations.map fun declaration => reindented document declaration indent
    .replace body ("\x7b\n" ++ "\n".intercalate moved ++ "\n" ++ indent ++ "return " ++
      document.text body ++ ";\n" ++ base ++ "\x7d")

def hoistRecord (document : Document) (target : String) (declaration : Tree) : String :=
  let listed := ", ".intercalate (declaredNames document declaration)
  let names := if listed.isEmpty then "<pattern>" else listed
  s!"Hoisted top-level {declarationWord document declaration} declaration of {names} into {target}"

def hoistDeclarations : Pass where
  name := "hoist-declarations"
  plan document :=
    let declarations := document.root.namedChildren.filter (·.isDeclaration)
    match declarations, hoistTarget? document with
    | [], _ => .none
    | _, none => .none
    | _, some target =>
      match target.function.functionBody? with
      | none => .none
      | some body =>
        { edits :=
            hoistEdit document target.function body declarations ::
              declarations.map document.removeStatement
          records := declarations.map (hoistRecord document target.name) }

end Repair

end ComponentGate
