import ComponentGate.Erasure.Basic
import ComponentGate.Proofs.Repair.Insertions
import ComponentGate.Proofs.Repair.Rounds
import ComponentGate.Review.Validation

/-! When rewriting a body keeps the preamble. A source that has one keeps it; one that has none gets one
when the new text begins like one, and of all repairs only moving declarations can make that happen. -/

namespace ComponentGate

open Syntax

namespace Repair

/-- Whether all documents are legible that some passes look at. -/
def isLegibleRun (parse : Parse) : Progress → List Pass → Bool
  | _, [] => true
  | progress, pass :: rest =>
    isLegible progress.document && isLegibleRun parse (progress.step parse pass) rest

end Repair

namespace Preamble

open Repair

section Runs

variable {parse : Parse} {progress : Progress} {pass : Pass} {stages : List Pass}

theorem has_of_step (member : pass ∈ stayingPasses) (read : progress.Read parse)
    (legible : isLegible progress.document = true)
    (present : has (progress.step parse pass).body = true) : has progress.body = true := by
  rw [Progress.step] at present
  split at present
  · rename_i made
    have bytes : progress.document.bytes = progress.body.toUTF8 := by
      rw [read]
      rfl
    exact has_of_plan member legible bytes (edits_of_attempt made).1 (render_of_attempt made) present
  · exact present

theorem has_of_foldl (members : ∀ pass ∈ stages, pass ∈ stayingPasses) (read : progress.Read parse)
    (legible : isLegibleRun parse progress stages = true)
    (present : has (stages.foldl (Progress.step parse) progress).body = true) :
    has progress.body = true := by
  induction stages generalizing progress with
  | nil => exact present
  | cons pass rest ih =>
    rw [isLegibleRun, Bool.and_eq_true] at legible
    have later := ih (fun pass member => members pass (List.mem_cons_of_mem _ member))
      (read_step read) legible.2 present
    exact has_of_step (members pass List.mem_cons_self) read legible.1 later

end Runs

section Sources

/-- Behind an old preamble a new text changes nothing; without one it counts how the text begins. -/
theorem preamble_kept_iff {source code : String}
    (rewritten : code = source ∨ ∃ body, code = attach (split source).preamble body) :
    (split code).preamble = (split source).preamble ↔ has source = true ∨ has code = false := by
  cases titled : has source with
  | true =>
    have kept : (split code).preamble = (split source).preamble := by
      rcases rewritten with rfl | ⟨body, rfl⟩
      · rfl
      · rw [split_attach titled]
    exact iff_of_true kept (.inl rfl)
  | false =>
    rw [(has_eq_false_iff source).1 titled, ← has_eq_false_iff]
    simp

theorem repair_rewritten (parse : Parse) (source : String) :
    (repair parse source).code = source ∨
      ∃ body, (repair parse source).code = attach (split source).preamble body := by
  by_cases fixes : (repair parse source).fixes = []
  · left
    rw [repair_of_fixes_eq_nil fixes]
  · exact .inr ⟨_, code_of_fixes fixes⟩

theorem eraseTypes_rewritten (parse : Parse) (source : String) :
    eraseTypes parse source = source ∨
      ∃ body, eraseTypes parse source = attach (split source).preamble body := by
  rw [eraseTypes]
  dsimp only
  split
  · exact .inl rfl
  split
  · exact .inl rfl
  split
  · exact .inl rfl
  split
  · exact .inl rfl
  · exact .inr ⟨_, rfl⟩

/-- The text that moving the declarations leaves to the other passes. -/
def hoisted (parse : Parse) (source : String) : Progress :=
  (Progress.start parse (split source).body).step parse hoistDeclarations

theorem ending_eq_foldl (parse : Parse) (source : String) :
    ending parse source =
      stayingPasses.foldl (Progress.step parse) (hoisted parse source) := by
  have parts : passes = hoistDeclarations :: stayingPasses := rfl
  rw [ending, parts, List.foldl_cons, hoisted]

theorem has_hoisted (parse : Parse) (source : String) (bare : has source = false)
    (legible : isLegibleRun parse (hoisted parse source) stayingPasses = true)
    (present : has (repair parse source).code = true) : has (hoisted parse source).body = true := by
  have fixes : (repair parse source).fixes ≠ [] := by
    intro none
    rw [repair_of_fixes_eq_nil none, bare] at present
    cases present
  rw [code_of_fixes fixes, attach, (has_eq_false_iff source).1 bare, String.empty_append,
    ending_eq_foldl] at present
  have read : (hoisted parse source).Read parse := read_step rfl
  exact has_of_foldl (fun _ member => member) read legible present

/-- Rewriting the body keeps the preamble if and only if the source has one or the new text does not begin
like one. A text repaired without moving declarations does not, where names and directives are legible. -/
theorem preamble_rewritten_iff (parse : Parse) (source : String) :
    ((split (repair parse source).code).preamble = (split source).preamble ↔
      has source = true ∨ has (repair parse source).code = false) ∧
    ((split (eraseTypes parse source)).preamble = (split source).preamble ↔
      has source = true ∨ has (eraseTypes parse source) = false) ∧
    (isLegibleRun parse (hoisted parse source) stayingPasses = true →
      has (hoisted parse source).body = false →
        (split (repair parse source).code).preamble = (split source).preamble) := by
  have repaired := preamble_kept_iff (repair_rewritten parse source)
  refine ⟨repaired, preamble_kept_iff (eraseTypes_rewritten parse source), ?_⟩
  intro legible untitled
  rw [repaired]
  cases bare : has source with
  | true => exact .inl rfl
  | false =>
    cases present : has (repair parse source).code with
    | false => exact .inr rfl
    | true =>
      rw [has_hoisted parse source bare legible present] at untitled
      cases untitled

def directedMarkup : String := "'use client'\nexport default () => <a/>;\n"

theorem directedMarkup_preamble_kept :
    isLegibleRun Syntax.parse (hoisted Syntax.parse directedMarkup) stayingPasses = true ∧
      has (hoisted Syntax.parse directedMarkup).body = false ∧
      (split (repair Syntax.parse directedMarkup).code).preamble = (split directedMarkup).preamble := by
  have legible : isLegibleRun Syntax.parse (hoisted Syntax.parse directedMarkup)
      stayingPasses = true := by
    decide +kernel
  have bare : has (hoisted Syntax.parse directedMarkup).body = false := by decide +kernel
  exact ⟨legible, bare, (preamble_rewritten_iff Syntax.parse directedMarkup).2.2 legible bare⟩

/-- Below the declaration stands a call between two lines of dashes. -/
def callBelow : String := "var x;\n---\neval('1');\n---\nz;\nexport default () => 1;\n"

def callBelowType : String := "type T = 1;\n---\neval('1');\n---\nz;\n"

/-- Once the statement above is gone the call is in a preamble, where no review finds it. -/
theorem callBelow_hidden :
    (split callBelow).preamble = "" ∧
      (split (repair Syntax.parse callBelow).code).preamble = "---\neval('1');\n---\n" ∧
      (review Syntax.parse callBelow .standard Rule.standard).isValid = false ∧
      (review Syntax.parse (repair Syntax.parse callBelow).code .standard Rule.standard).isValid =
        true ∧
      (split callBelowType).preamble = "" ∧
      (split (eraseTypes Syntax.parse callBelowType)).preamble = "---\neval('1');\n---\n" := by
  decide +kernel

end Sources

end Preamble

end ComponentGate
