import ComponentGate.Repair.Pass

/-!
Event handler attributes in the spelling that components expect.
-/

namespace ComponentGate

open Syntax

namespace Repair

/-- Lower-case handler names with their proper spelling. -/
def handlerNames : List (String × String) :=
  [("onclick", "onClick"), ("onchange", "onChange"), ("onsubmit", "onSubmit"), ("oninput", "onInput"),
    ("onfocus", "onFocus"), ("onblur", "onBlur"), ("onkeydown", "onKeyDown"), ("onkeyup", "onKeyUp"),
    ("onkeypress", "onKeyPress"), ("onmouseenter", "onMouseEnter"), ("onmouseleave", "onMouseLeave"),
    ("onmouseover", "onMouseOver"), ("onmouseout", "onMouseOut"), ("ondoubleclick", "onDoubleClick")]

/-- The repairs at one attribute. -/
def handlerRepairs (document : Document) (given : Tree) : Repairs :=
  match given.namedChildren.head? with
  | none => .none
  | some name =>
    if !name.isKind .propertyIdentifier then .none
    else
      let spelled := document.text name
      match Entries.get? handlerNames spelled with
      | some proper => ⟨[.replace name proper], [s!"Converted {spelled} to {proper}"]⟩
      | none => .none

def eventHandlers : Pass where
  name := "event-handlers"
  plan document :=
    .concat ((document.root.nodes.filter (·.isKind .markupAttribute)).map (handlerRepairs document))

end Repair

end ComponentGate
