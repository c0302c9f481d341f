import ComponentGate.Review.Rule

/-!
Rules on accessible markup. A form control with an `id` may be named by a label anywhere in the text,
so its verdict waits for all labels.
-/

namespace ComponentGate

open Syntax

namespace Rule

def keyboardHandlers : List String := ["onKeyDown", "onKeyUp", "onKeyPress"]

def labelAttributes : List String := ["aria-label", "aria-labelledby", "title"]

/-- Types of input that are shown without a label. -/
def unlabelledInputTypes : List String := ["hidden", "submit", "button", "reset", "image"]

def formControls : List String := ["input", "textarea", "select"]

private def onElements (name : String) (message? : Document → Tree → Option String) : Rule :=
  onNodes name .accessibility .warning elementKinds message?

/-- Whether an element has an attribute of one of these names. -/
def hasAttribute (document : Document) (element : Tree) (names : List String) : Bool :=
  (document.attributes element).any fun entry => names.contains entry.1

def clickableWithoutKeyboard : Rule :=
  onElements "clickable-without-keyboard" fun document element =>
    match document.tagName? element with
    | some tag =>
      if ["div", "span"].contains tag && hasAttribute document element ["onClick"] &&
          !hasAttribute document element ("role" :: keyboardHandlers) then
        some s!"<{tag}> with onClick should have a keyboard handler (onKeyDown) or a role attribute"
      else none
    | none => none

def imgAlt : Rule := onElements "img-alt" fun document element =>
  match document.tagName? element with
  | some tag =>
    if ["img", "area"].contains tag && !element.hasSpread &&
        !hasAttribute document element ["alt"] then
      some s!"<{tag}> is missing an alt attribute"
    else none
  | none => none

/-- An attribute's literal value, unless it is empty. -/
def literal? (document : Document) (element : Tree) (name : String) : Option String :=
  ((document.attribute? element name).bind document.attributeValue?).filter (· ≠ "")

/-- Whether an input of this type needs no label. -/
def isExempt (document : Document) (element : Tree) : Bool :=
  ((document.attribute? element "type").bind document.attributeValue?).any
    unlabelledInputTypes.contains

def judgeControl (document : Document) (place : Place) (tag : String) : Verdict :=
  let element := place.tree
  if !formControls.contains tag || element.hasSpread then .clean
  else if tag == "input" && isExempt document element then .clean
  else if hasAttribute document element labelAttributes || document.isInsideLabel place then .clean
  else
    let message := s!"<{tag}> should have an associated label, aria-label or aria-labelledby"
    match literal? document element "id" with
    | some target => .unlessLabelled target message
    | none => .report message

def formControlLabel : Rule where
  name := "form-control-label"
  category := .accessibility
  severity := .warning
  kinds := elementKinds
  check document _ place :=
    match document.tagName? place.tree with
    | some tag =>
      if tag == "label" then
        match literal? document place.tree "htmlFor" with
        | some target => .labels target
        | none => .clean
      else judgeControl document place tag
    | none => .clean

end Rule

end ComponentGate
