import ComponentGate.Erasure.Plan
import ComponentGate.Preamble.Basic

/-!
Erasing types from a source. A source that cannot be parsed, or that could not be parsed any more
without its types, stays as it is.
-/

namespace ComponentGate

/-- The source without its types; the preamble stays. -/
def eraseTypes (parse : Parse) (source : String) : String :=
  let parts := Preamble.split source
  let document := Document.read parse parts.body
  if document.hasErrors then source
  else
    let edits := Erasure.edits document
    if edits.isEmpty then source
    else
      match document.render edits with
      | .error _ => source
      | .ok erased =>
        if (Document.read parse erased).hasErrors then source
        else Preamble.attach parts.preamble erased

end ComponentGate
