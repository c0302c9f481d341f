import ComponentGate.Document.Edit

/-!
Which parts of a program are types only, and the edits that erase them. The walk over the tree does
not enter what is erased as a whole; behind a cast it goes on with the value.
-/

namespace ComponentGate

open Syntax

namespace Erasure

/-- Constructs that are erased wherever they stand. -/
def erasedKinds : List Kind :=
  [.typeAscription, .optingTypeAscription, .assertsAscription, .typePredicateAscription,
    .typeParameters, .typeArguments, .implementsClause]

def modifierKinds : List Kind := [.accessibilityModifier, .overrideModifier]

/-- Statements that declare types only. -/
def typeStatementKinds : List Kind :=
  [.interfaceDeclaration, .typeAliasDeclaration, .functionSignature, .ambientDeclaration]

def castKinds : List Kind := [.asExpression, .satisfiesExpression, .nonNullExpression]

/-- Marks and words that only a typed program has, by the construct that holds them. -/
def typedMarks (kind : Kind) : List String :=
  match kind with
  | .requiredParameter => ["readonly"]
  | .optionalParameter => ["?", "readonly"]
  | .fieldDefinition => ["?", "!", "readonly"]
  | .variableDeclarator => ["!"]
  | _ => []

/-- Removes a node with what stands between it and the next one. -/
def removeWithGap (place : Place) : Edit :=
  .delete place.tree.start ((place.following.map Tree.start).getD place.tree.stop)

/-- Whether an import, export or specifier is marked as one of types. -/
def isTypeOnly (tree : Tree) : Bool := tree.children.any (·.isToken "type")

/-- The edit that removes typed specifiers from a clause. A clause without other specifiers goes with
its statement, unless the statement also imports something else. -/
def specifierEdits (document : Document) (place : Place) : List Edit :=
  let clause := place.tree
  let specifiers := clause.namedChildren.filter (·.isOneOf [.importSpecifier, .exportSpecifier])
  let kept := specifiers.filter (!isTypeOnly ·)
  if kept.length = specifiers.length then []
  else if !kept.isEmpty then
    [.replace clause ("\x7b " ++ ", ".intercalate (kept.map document.text) ++ " \x7d")]
  else
    match clause.isKind .namedImports, place.ancestors with
    | true, parent :: rest =>
      if 1 < parent.namedChildren.length then [.replace clause "\x7b\x7d"]
      else (rest.head?.map document.removeStatement).toList
    | false, parent :: _ => [document.removeStatement parent]
    | _, [] => []

/-- The edits for the typed marks among a node's children. -/
def markEdits (place : Place) (marks : List String) : List Edit :=
  (place.children.filter fun child => marks.any child.tree.isToken).map fun child =>
    if child.tree.isToken "readonly" then removeWithGap child else .remove child.tree

/-- What is done at a place. -/
inductive Action where
  /-- Nothing below the place is looked at. -/
  | cut (edits : List Edit)
  /-- The walk goes on with the value alone. -/
  | unwrap (value : Tree) (edits : List Edit)
  | descend (edits : List Edit)

def Action.edits : Action → List Edit
  | .cut edits => edits
  | .unwrap _ edits => edits
  | .descend edits => edits

def castAction (cast : Tree) : Action :=
  match cast.namedChildren.head? with
  | some value => .unwrap value [.delete value.stop cast.stop]
  | none => .cut []

def action (document : Document) (place : Place) : Action :=
  let tree := place.tree
  match tree.kind? with
  | none => .descend []
  | some kind =>
    if erasedKinds.contains kind then .cut [.remove tree]
    else if modifierKinds.contains kind then .cut [removeWithGap place]
    else if typeStatementKinds.contains kind then
      let exported := place.parent?.filter (·.isKind .exportStatement)
      .cut [document.removeStatement (exported.getD tree)]
    else if castKinds.contains kind then castAction tree
    else if (kind = .importStatement ∨ kind = .exportStatement) ∧ isTypeOnly tree then
      .cut [document.removeStatement tree]
    else if kind = .namedImports ∨ kind = .exportClause then
      .cut (specifierEdits document place)
    else .descend (markEdits place (typedMarks kind))

/-- Whether the walk goes on from a place to one of its children. -/
def descends (document : Document) (place child : Place) : Bool :=
  match action document place with
  | .cut _ => false
  | .unwrap value _ => child.tree.label = value.label
  | .descend _ => true

/-- The edits that erase a document's types. -/
def edits (document : Document) : List Edit :=
  ((Place.ofRoot document.root).walkWhere (descends document)).flatMap fun place =>
    (action document place).edits

end Erasure

end ComponentGate
