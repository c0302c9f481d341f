import ComponentGate.Preamble.Basic
import ComponentGate.Repair.BaseImport
import ComponentGate.Repair.EventHandlers
import ComponentGate.Repair.Hoisting
import ComponentGate.Repair.ListKeys

/-!
Running the repair passes in order. Each pass sees the text that the passes before it left behind, and
takes effect as a whole or not at all: where its edits cannot be applied, or what they make cannot be
parsed, the text stays as it was.
-/

namespace ComponentGate

namespace Repair

def passes : List Pass := [hoistDeclarations, listKeys, eventHandlers, ensureBaseImport]

/-- A source after repair, with a record for each repair. -/
structure Repaired where
  code : String
  fixes : List String
  deriving DecidableEq, Repr, Inhabited

def Repaired.changed (repaired : Repaired) : Bool := !repaired.fixes.isEmpty

/-- The text between two passes, and the records so far. -/
structure Progress where
  body : String
  document : Document
  records : List String

def Progress.start (parse : Parse) (body : String) : Progress := ⟨body, .read parse body, []⟩

/-- The text that a pass makes, where it makes one that can be parsed. -/
def attempt? (parse : Parse) (document : Document) (edits : List Edit) : Option (String × Document) :=
  if edits.isEmpty then none
  else
    match document.render edits with
    | .error _ => none
    | .ok body =>
      let reparsed := Document.read parse body
      if reparsed.hasErrors then none else some (body, reparsed)

def Progress.step (parse : Parse) (progress : Progress) (pass : Pass) : Progress :=
  let repairs := pass.plan progress.document
  match attempt? parse progress.document repairs.edits with
  | some (body, document) => ⟨body, document, progress.records ++ repairs.records⟩
  | none => progress

end Repair

open Repair in
/-- Repairs a source. One that cannot be parsed, or that needs no repair, stays as it is; the preamble
stays in any case. -/
def repair (parse : Parse) (source : String) : Repaired :=
  let parts := Preamble.split source
  let start := Progress.start parse parts.body
  if start.document.hasErrors then ⟨source, []⟩
  else
    let done := passes.foldl (Progress.step parse) start
    if done.records.isEmpty then ⟨source, []⟩
    else ⟨Preamble.attach parts.preamble done.body, done.records⟩

end ComponentGate
