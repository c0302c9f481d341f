import ComponentGate.Document.Names

/-!
A survey of a parsed text: its elements, calls, constructions, accesses, literal strings, assignments
and names, each list in the order of a walk.
-/

namespace ComponentGate

open Syntax

structure ElementSummary where
  tag : Option String
  line : Nat
  attributes : List (String × Option String)
  inLabel : Bool
  deriving DecidableEq, Repr

structure CallSummary where
  callee : Option String
  line : Nat
  arguments : List String
  indent : String
  deriving DecidableEq, Repr

structure Survey where
  elements : List ElementSummary
  calls : List CallSummary
  constructions : List (Option String × Nat)
  accesses : List (Option String)
  strings : List String
  assignments : List (Option String)
  identifiers : List String
  deriving DecidableEq, Repr

namespace Document

def summarizeElement (document : Document) (place : Place) : ElementSummary where
  tag := document.tagName? place.tree
  line := place.tree.line
  attributes := (document.attributes place.tree).map fun entry =>
    (entry.1, document.attributeValue? entry.2)
  inLabel := document.isInsideLabel place

def summarizeCall (document : Document) (call : Tree) : CallSummary where
  callee := document.calleeName? call
  line := call.line
  arguments := call.callArguments.map fun argument => document.text argument.unwrapped
  indent := document.lineIndent call.start

/-- Distinct texts in the order of their characters. -/
def sortedDistinct (names : List String) : List String :=
  (names.mergeSort fun first second => first ≤ second).eraseDups

def survey (document : Document) : Survey :=
  let places := document.root.places
  let nodes := places.map Place.tree
  let ofKinds := fun (kinds : List Kind) => nodes.filter fun node => node.isOneOf kinds
  { elements :=
      (places.filter fun place => place.tree.isElement).map document.summarizeElement
    calls := (ofKinds [.callExpression]).map document.summarizeCall
    constructions := (ofKinds [.newExpression]).map fun construction =>
      (document.constructorName? construction, construction.callArguments.length)
    accesses := (ofKinds [.memberExpression, .subscriptExpression]).map document.dottedName?
    strings := nodes.filterMap document.stringValue?
    assignments := (ofKinds [.assignmentExpression, .augmentedAssignment]).map fun assignment =>
      (assignment.child? .left).bind document.dottedName?
    identifiers := sortedDistinct (document.identifierNames document.root) }

end Document

end ComponentGate
