import ComponentGate.Document.Basic
import ComponentGate.Text.Entries

/-!
What a document's nodes are called: literal strings, dotted paths, the names that calls resolve to,
tags and attributes of markup.
-/

namespace ComponentGate

open Syntax

def functionKinds : List Kind :=
  [.arrowFunction, .functionExpression, .functionDeclaration, .generatorFunctionDeclaration]

def elementKinds : List Kind := [.markupElement, .markupSelfClosing]

def declarationKinds : List Kind := [.lexicalDeclaration, .variableDeclaration]

/-- Receivers through which a global name can also be reached. -/
def globalReceivers : List String := ["window", "globalThis", "self"]

namespace Syntax.Tree

def isElement (tree : Tree) : Bool := tree.isOneOf elementKinds

def isFunction (tree : Tree) : Bool := tree.isOneOf functionKinds

def isDeclaration (tree : Tree) : Bool := tree.isOneOf declarationKinds

mutual

/-- The expression inside any number of parentheses. -/
def unwrapped : Tree → Tree
  | node label children =>
    if label.symbol == .construct .parenthesized then
      (unwrappedFirst children).getD (node label children)
    else node label children

/-- The first of `trees` that is neither a token nor a comment, without its parentheses. -/
def unwrappedFirst : List Tree → Option Tree
  | [] => none
  | tree :: rest =>
    if tree.isNamed && !tree.isComment then some (unwrapped tree) else unwrappedFirst rest

end

/-- The tag that carries an element's name and attributes. -/
def openingTag (element : Tree) : Tree :=
  if element.isKind .markupElement then
    ((element.child? .openTag).orElse fun _ => element.children.head?).getD element
  else element

/-- The name of an element's tag; fragments have none. -/
def tagNode? (element : Tree) : Option Tree :=
  let opening := element.openingTag
  (opening.child? .name).orElse fun _ =>
    opening.namedChildren.head?.filter fun child =>
      child.isOneOf [.identifier, .memberExpression, .nestedIdentifier, .markupNamespaceName]

/-- The body of a function: a block or an expression. -/
def functionBody? (tree : Tree) : Option Tree :=
  if tree.isFunction then tree.child? .body else none

/-- The arguments of a call or of a `new` expression. -/
def callArguments (call : Tree) : List Tree :=
  match call.child? .arguments with
  | some arguments => arguments.significantChildren
  | none => []

/-- Whether a node is a string literal or the keyword `string`, which goes by the same name. -/
def isSpelledString (tree : Tree) : Bool := tree.isKind .string || tree.isToken "string"

/-- Whether an element takes attributes from a value. -/
def hasSpread (element : Tree) : Bool :=
  element.openingTag.namedChildren.any fun child => child.isKind .markupExpression

end Syntax.Tree

namespace Document

/-- The contents of a string literal, escapes untouched. -/
def stringValue? (document : Document) (tree : Tree) : Option String :=
  if tree.isSpelledString then
    some (String.ofList (((document.text tree).toList.drop 1).dropLast))
  else none

def tagName? (document : Document) (element : Tree) : Option String :=
  element.tagNode?.map document.text

/-- Whether an element around a place is a label. -/
def isInsideLabel (document : Document) (place : Place) : Bool :=
  place.ancestors.any fun ancestor =>
    ancestor.isKind .markupElement && document.tagName? ancestor == some "label"

/-- An element's attributes by name. -/
def attributes (document : Document) (element : Tree) : List (String × Tree) :=
  Entries.ofPairs (element.openingTag.namedChildren.filterMap named?)
where
  named? (child : Tree) : Option (String × Tree) :=
    if child.isKind .markupAttribute then
      child.namedChildren.head?.map fun name => (document.text name, child)
    else none

def attribute? (document : Document) (element : Tree) (name : String) : Option Tree :=
  Entries.get? (document.attributes element) name

/-- The value of an attribute that is given as a literal string. -/
def attributeValue? (document : Document) (given : Tree) : Option String :=
  given.namedChildren[1]?.bind document.stringValue?

mutual

/-- `a.b.c` for a chain of accesses by plain names or literal keys. -/
def dottedName? (document : Document) : Tree → Option String
  | .node label children =>
    match label.symbol with
    | .construct .identifier => some (document.text (.node label children))
    | .construct .thisName => some (document.text (.node label children))
    | .construct .memberExpression =>
      match dottedChild? document .object children, Tree.child? (.node label children) .property with
      | some object, some property =>
        if property.isKind .propertyIdentifier then
          some s!"{object}.{document.text property}"
        else none
      | _, _ => none
    | .construct .subscriptExpression =>
      match dottedChild? document .object children,
          (Tree.child? (.node label children) .index).bind document.stringValue? with
      | some object, some key => some s!"{object}.{key}"
      | _, _ => none
    | _ => none

/-- The dotted name of the first of `trees` that plays `role`. -/
def dottedChild? (document : Document) (role : Role) : List Tree → Option String
  | [] => none
  | tree :: rest =>
    if tree.role == some role then dottedName? document tree else dottedChild? document role rest

end

/-- A dotted name's first part, and the rest behind the first point. -/
def splitReceiver (name : String) : String × String :=
  let receiver := name.toList.takeWhile (· ≠ '.')
  (String.ofList receiver, String.ofList ((name.toList.dropWhile (· ≠ '.')).drop 1))

/-- The name that a call resolves to: a global called through a receiver is the global itself. -/
def calleeName? (document : Document) (call : Tree) : Option String :=
  ((call.child? .function).bind document.dottedName?).map fun name =>
    let (receiver, rest) := splitReceiver name
    if !rest.isEmpty && globalReceivers.contains receiver && !rest.toList.contains '.' then rest
    else name

def constructorName? (document : Document) (construction : Tree) : Option String :=
  ((construction.child? .constructor).bind document.dottedName?).map fun name =>
    let (receiver, rest) := splitReceiver name
    if !rest.isEmpty && globalReceivers.contains receiver then rest else name

def identifierKinds : List Kind :=
  [.identifier, .shorthandProperty, .shorthandPropertyPattern]

/-- The names that identifiers inside a node spell, in order and with repetitions. -/
def identifierNames (document : Document) (tree : Tree) : List String :=
  (tree.nodes.filter fun node => node.isOneOf identifierKinds).map document.text

end Document

end ComponentGate
