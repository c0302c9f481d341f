import ComponentGate.Proofs.Review.Graft
import ComponentGate.Repair.Staged

/-! Prospects. Each pass edits the text with one change of the tree in mind. Its prospect is that change
as a graft: what the parser should make of the edited text, place by place. -/

namespace ComponentGate

open Syntax

namespace Outline

/-- A construct that spells no name. -/
def part (kind : Kind) (children : List Outline) : Outline := .node (.construct kind) none none children

def named (name : String) : Outline := .node (.construct .identifier) none (some name) []

def inRole (role : Option Role) : Outline → Outline
  | node symbol _ text children => node symbol role text children

end Outline

namespace Repair

open Outline

section Hoisting

/-- The block that a function answers from, in place of the expression that it answered. -/
def answering (moved : List Outline) (value : Outline) : Outline :=
  (part .statementBlock (moved ++ [part .returnStatement [value.inRole none]])).inRole value.role

/-- The module's declarations stand in front of the exported function's own statements. -/
def hoistGraft (document : Document) : Graft := fun tree below =>
  let moved := (document.root.namedChildren.filter (·.isDeclaration)).map document.sketch
  let function? := (hoistTarget? document).map ExportedFunction.function
  let block? := (function?.bind Tree.functionBody?).filter (·.isKind .statementBlock)
  if tree.label = document.root.label then
    below.filter fun part => !part.isOneOf declarationKinds
  else if block?.any (·.label = tree.label) then moved ++ below
  else if block?.isNone && function?.any (·.label = tree.label) then
    below.map fun part => if part.role == some .body then answering moved part else part
  else below

end Hoisting

section Keys

/-- A callback whose element gets a key: its parameters, the element's tag and the position's name. -/
structure Keying where
  callback : Tree
  opening : Tree
  name : String

def keying? (document : Document) (call : Tree) : Option Keying := do
  let callback ← mapCallback? document call
  let element ← mappedElement? callback
  let _ ← element.tagNode?
  if (document.attribute? element "key").isSome then none
  else
    let position ← position? document callback
    return ⟨callback, element.openingTag, position.name⟩

def keyings (document : Document) : List Keying :=
  (document.root.nodes.filter (·.isKind .callExpression)).filterMap (keying? document)

/-- An attribute whose value is a template around a name. -/
def keyPart (name : String) : Outline :=
  part .markupAttribute
    [part .propertyIdentifier [],
      part .markupExpression
        [part .templateString [part .stringFragment [], part .templateSubstitution [named name]]]]

/-- A tag's parts with the key behind its name and its type arguments. -/
def withKey (name : String) : List Outline → List Outline
  | tag :: next :: rest =>
    if next.kind? == some .typeArguments then tag :: next :: keyPart name :: rest
    else tag :: keyPart name :: next :: rest
  | few => few ++ [keyPart name]

def parameterPart (name : Outline) (more : List Outline) : Outline :=
  part .requiredParameter (name.inRole (some .pattern) :: more)

def numberPart : Outline := (part .typeAscription [part .predefinedType []]).inRole (some .type)

/-- The parts of a list of parameters with one for the position, where there is none. -/
def withPosition (parameters : Tree) (name : String) (below : List Outline) : List Outline :=
  match parameters.significantChildren with
  | [] => below ++ [parameterPart (named "_item") [], parameterPart (named name) []]
  | [only] =>
    below ++ [parameterPart (named name) (if (only.child? .type).isSome then [numberPart] else [])]
  | _ => below

/-- A list of parameters in place of a bare one. -/
def listed (name : String) (bare : Outline) : Outline :=
  (part .formalParameters [parameterPart bare [], parameterPart (named name) []]).inRole
    (some .parameters)

def Keying.graft (keying : Keying) : Graft := fun tree below =>
  if keying.opening.label = tree.label then withKey keying.name below
  else if keying.callback.label = tree.label then
    below.map fun part => if part.role == some .parameter then listed keying.name part else part
  else if (keying.callback.child? .parameters).any (·.label = tree.label) then
    withPosition tree keying.name below
  else below

def keyGraft (document : Document) : Graft := fun tree below =>
  (keyings document).foldl (fun below keying => keying.graft tree below) below

end Keys

section BaseImport

def importPart : Outline :=
  part .importStatement
    [part .importClause [named "React"],
      .node (.construct .string) (some .source) (some "'react'") [part .stringFragment []]]

/-- The import stands behind the directives that open the module. -/
def importGraft (document : Document) : Graft := fun tree below =>
  if tree.label = document.root.label then
    let count := (document.root.significantChildren.takeWhile isDirective).length
    below.take count ++ importPart :: below.drop count
  else below

end BaseImport

/-- A pass with the change of the tree that its edits are meant for. -/
structure Prospect where
  pass : Pass
  graft : Document → Graft

/-- The prospects of the passes in front of the import. Other names of handlers are none that a rule
looks at. -/
def innerProspects : List Prospect :=
  [⟨hoistDeclarations, hoistGraft⟩, ⟨listKeys, keyGraft⟩, ⟨eventHandlers, fun _ => .none⟩]

def prospects : List Prospect := innerProspects ++ [⟨ensureBaseImport, importGraft⟩]

theorem passes_eq : passes = prospects.map Prospect.pass := rfl

/-- Whether a pass has led from one document to the other as it was meant to. -/
def Prospect.isMet (prospect : Prospect) (before after : Document) : Bool :=
  after.root.isPlain && !before.root.isSearched &&
    after.sketch after.root == before.grafted Tree.isTold (prospect.graft before) before.root

/-- Whether all passes that take effect, one after the other, lead where they were meant to. -/
def isForeseen (parse : Parse) : Progress → List Prospect → Bool
  | _, [] => true
  | progress, prospect :: rest =>
    (attempt? parse progress.document (prospect.pass.plan progress.document).edits).all
        (fun made => prospect.isMet progress.document made.2) &&
      isForeseen parse (progress.step parse prospect.pass) rest

end Repair

end ComponentGate
