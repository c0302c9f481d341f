import ComponentGate.Repair.Pass

/-!
Keys for elements that a list is mapped to. The key is made from the element's position, so the
mapping function gets a parameter for it where it has none.
-/

namespace ComponentGate

open Syntax

namespace Repair

/-- Names for a position, the preferred ones first, then numbered ones; `count` says how many of the
latter. -/
def positionNames (count : Nat) : List String :=
  ["index", "idx", "i"] ++ (List.range count).map fun number => s!"index{number + 1}"

/-- The first name for a position that is not taken. -/
def freshName (taken : List String) : String :=
  ((positionNames (taken.length + 1)).find? fun name => !taken.contains name).getD "index"

/-- The element that a mapping function answers, if it answers exactly one. -/
def mappedElement? (callback : Tree) : Option Tree :=
  match callback.functionBody? with
  | none => none
  | some body =>
    let value? :=
      if body.isKind .statementBlock then
        match body.significantChildren.filter (·.isKind .returnStatement) with
        | [statement] => statement.significantChildren.head?
        | _ => none
      else some body
    (value?.map Tree.unwrapped).filter Tree.isElement

/-- What a parameter binds. -/
def parameterPattern? (parameter : Tree) : Option Tree :=
  if parameter.isOneOf [.restPattern, .identifier] then some parameter
  else if parameter.isOneOf [.requiredParameter, .optionalParameter] then parameter.child? .pattern
  else none

/-- A name for the position, and the edits that bring it in. -/
structure PositionName where
  name : String
  edits : List Edit

/-- The position's name among the parameters between parentheses. Nothing can be added behind a
parameter that takes the rest, and a pattern in second place has no name. -/
def listedPosition? (document : Document) (callback parameters : Tree) : Option PositionName :=
  let name := freshName (document.identifierNames callback)
  match parameters.significantChildren with
  | [] => some ⟨name, [.insert ((parameters.children.head?.getD parameters).stop) s!"_item, {name}"]⟩
  | [only] =>
    if (parameterPattern? only).any (·.isKind .restPattern) then none
    else
      let typed := (only.child? .type).isSome
      some ⟨name, [.insert only.stop (if typed then s!", {name}: number" else s!", {name}")]⟩
  | _ :: second :: _ =>
    match parameterPattern? second with
    | some pattern =>
      if pattern.isKind .identifier then some ⟨document.text pattern, []⟩ else none
    | none => none

def position? (document : Document) (callback : Tree) : Option PositionName :=
  match callback.child? .parameter with
  | some bare =>
    let name := freshName (document.identifierNames callback)
    some ⟨name, [.replace bare s!"({document.text bare}, {name})"]⟩
  | none => (callback.child? .parameters).bind (listedPosition? document callback)

/-- The function that is handed to a call of `map`. -/
def mapCallback? (document : Document) (call : Tree) : Option Tree :=
  match call.child? .function with
  | none => none
  | some function =>
    let isMap := function.isKind .memberExpression &&
      (function.child? .property).any fun property => document.text property == "map"
    if isMap then call.callArguments.head?.filter Tree.isFunction else none

/-- Where a tag's attributes begin: behind its name and its type arguments. -/
def attributesStart (element tag : Tree) : Nat :=
  match (element.openingTag.children.dropWhile fun child => child.label ≠ tag.label).drop 1 with
  | next :: _ => if next.isKind .typeArguments then next.stop else tag.stop
  | [] => tag.stop

def keyAttribute (position : String) : String := " key=\x7b`item-$\x7b" ++ position ++ "\x7d`\x7d"

/-- The repairs at one call. -/
def keyRepairs (document : Document) (call : Tree) : Repairs :=
  match mapCallback? document call with
  | none => .none
  | some callback =>
    match mappedElement? callback with
    | none => .none
    | some element =>
      match element.tagNode? with
      | none => .none
      | some tag =>
        if (document.attribute? element "key").isSome then .none
        else
          match position? document callback with
          | none => .none
          | some position =>
            { edits := position.edits ++
                [.insert (attributesStart element tag) (keyAttribute position.name)]
              records := [s!"Added key to <{document.text tag}> rendered by map()"] }

def listKeys : Pass where
  name := "list-keys"
  plan document :=
    .concat ((document.root.nodes.filter (·.isKind .callExpression)).map (keyRepairs document))

end Repair

end ComponentGate
