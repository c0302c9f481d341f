import ComponentGate.Document.Edit
import ComponentGate.Document.Names

/-!
Repair passes. A pass looks at a parsed text and plans edits, with one record for each repair.
-/

namespace ComponentGate

/-- What a pass would change, and how it tells about it. -/
structure Repairs where
  edits : List Edit
  records : List String
  deriving DecidableEq, Repr, Inhabited

namespace Repairs

def none : Repairs := ⟨[], []⟩

def append (first second : Repairs) : Repairs :=
  ⟨first.edits ++ second.edits, first.records ++ second.records⟩

/-- The repairs of all nodes, one after the other. -/
def concat (all : List Repairs) : Repairs := all.foldr append none

end Repairs

structure Pass where
  name : String
  plan : Document → Repairs

end ComponentGate
