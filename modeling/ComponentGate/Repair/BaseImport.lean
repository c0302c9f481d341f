import ComponentGate.Repair.Pass

/-!
The import of the library that markup needs. It comes behind the directives that open a module, since
a directive counts only in front of all other statements.
-/

namespace ComponentGate

open Syntax

namespace Repair

def baseLibrary : String := "react"

def baseImport : String := "import React from 'react';"

/-- Whether the module imports the base library. -/
def importsBase (document : Document) : Bool :=
  document.root.namedChildren.any fun statement =>
    statement.isKind .importStatement &&
      (statement.child? .source).any fun source =>
        document.stringValue? source == some baseLibrary

/-- A statement that is nothing but a string. -/
def isDirective (statement : Tree) : Bool :=
  statement.isKind .expressionStatement &&
    match statement.significantChildren with
    | [part] => part.isKind .string
    | _ => false

/-- The last of the directives that open a module. -/
def lastDirective? (document : Document) : Option Tree :=
  (document.root.significantChildren.takeWhile isDirective).getLast?

def importEdit (document : Document) : Edit :=
  match lastDirective? document with
  | some directive => .insert directive.stop ("\n" ++ baseImport)
  | none => .insert 0 (baseImport ++ "\n")

def hasMarkup (document : Document) : Bool := document.root.nodes.any Tree.isElement

def ensureBaseImport : Pass where
  name := "base-import"
  plan document :=
    if hasMarkup document && !importsBase document then
      ⟨[importEdit document], ["Added missing React import"]⟩
    else .none

end Repair

end ComponentGate
