import ComponentGate.Proofs.Preamble.Splitting
import ComponentGate.Proofs.Repair.Plans
import ComponentGate.Syntax.Parse

/-! A second round of repairs. It starts from the text that the first round left behind; whether it
changes anything is a matter of the passes that took effect before, unless that text seems to begin with
a preamble that the source did not have. -/

namespace ComponentGate

open Syntax

/-- Whether records are kept of all edits. -/
def Repairs.Told (repairs : Repairs) : Prop := repairs.records = [] → repairs.edits = []

namespace Repair

/-- Whether a pass leaves a document as it is: it plans no edits, or they come to nothing. -/
def Idle (parse : Parse) (document : Document) (pass : Pass) : Prop :=
  attempt? parse document (pass.plan document).edits = none

/-- Whether a body cannot be parsed, or no pass takes effect on it. -/
def Settled (parse : Parse) (body : String) : Prop :=
  (Document.read parse body).hasErrors = true ∨ ∀ pass ∈ passes, Idle parse (.read parse body) pass

theorem told_none : Repairs.none.Told := fun _ => rfl

theorem told_of_records (record : String) (more : List String) (edits : List Edit) :
    (Repairs.mk edits (record :: more)).Told := fun quiet => absurd quiet (List.cons_ne_nil _ _)

theorem told_concat {all : List Repairs} (each : ∀ repairs ∈ all, repairs.Told) :
    (Repairs.concat all).Told := by
  induction all with
  | nil => exact told_none
  | cons first rest ih =>
    intro quiet
    have parts : first.records = [] ∧ (Repairs.concat rest).records = [] := by
      simpa [Repairs.concat, Repairs.append] using quiet
    have noneFirst := each first List.mem_cons_self parts.1
    have noneLater := ih (fun repairs member => each repairs (List.mem_cons_of_mem _ member)) parts.2
    change first.edits ++ (Repairs.concat rest).edits = []
    rw [noneFirst, noneLater, List.append_nil]

theorem told_hoistDeclarations (document : Document) : (hoistDeclarations.plan document).Told := by
  rcases hoistDeclarations_cases document with none | ⟨target, body, -, -, filled, planned⟩
  · rw [none]
    exact told_none
  · rw [planned]
    exact fun quiet => absurd (List.map_eq_nil_iff.1 quiet) filled

theorem told_keyRepairs (document : Document) (call : Tree) : (keyRepairs document call).Told := by
  rcases keyRepairs_cases document call with none | ⟨_, _, tag, _, -, planned⟩
  · rw [none]
    exact told_none
  · rw [planned]
    exact told_of_records _ _ _

theorem told_handlerRepairs (document : Document) (given : Tree) :
    (handlerRepairs document given).Told := by
  rcases handlerRepairs_cases document given with none | ⟨name, proper, -, -, -, planned⟩
  · rw [none]
    exact told_none
  · rw [planned]
    exact told_of_records _ _ _

theorem told_ensureBaseImport (document : Document) : (ensureBaseImport.plan document).Told := by
  simp only [ensureBaseImport]
  split
  · exact told_of_records _ _ _
  · exact told_none

theorem told_of_mem_passes {pass : Pass} (member : pass ∈ passes) (document : Document) :
    (pass.plan document).Told := by
  simp only [passes, List.mem_cons, List.not_mem_nil, or_false] at member
  rcases member with rfl | rfl | rfl | rfl
  · exact told_hoistDeclarations document
  · apply told_concat
    intro repairs made
    obtain ⟨call, _, rfl⟩ := List.mem_map.1 made
    exact told_keyRepairs document call
  · apply told_concat
    intro repairs made
    obtain ⟨given, _, rfl⟩ := List.mem_map.1 made
    exact told_handlerRepairs document given
  · exact told_ensureBaseImport document

section Rounds

variable {parse : Parse} {progress : Progress} {pass : Pass} {stages : List Pass}

theorem step_of_idle (idle : Idle parse progress.document pass) :
    progress.step parse pass = progress := by
  rw [Idle] at idle
  rw [Progress.step, idle]

theorem step_of_unplanned (unplanned : (pass.plan progress.document).edits = []) :
    progress.step parse pass = progress := by
  apply step_of_idle
  rw [Idle, attempt?, unplanned]
  rfl

theorem foldl_step_of_idle (idle : ∀ pass ∈ stages, Idle parse progress.document pass) :
    stages.foldl (Progress.step parse) progress = progress := by
  induction stages with
  | nil => rfl
  | cons pass rest ih =>
    rw [List.foldl_cons, step_of_idle (idle pass List.mem_cons_self)]
    exact ih fun later member => idle later (List.mem_cons_of_mem _ member)

theorem attempt_eq_some_iff {document after : Document} {edits : List Edit} {body : String} :
    attempt? parse document edits = some (body, after) ↔
      edits ≠ [] ∧ document.render edits = .ok body ∧ after = .read parse body ∧
        after.hasErrors = false := by
  rw [attempt?]
  cases edits with
  | nil => simp
  | cons edit rest =>
    cases document.render (edit :: rest) with
    | error failure => simp
    | ok text =>
      cases broken : (Document.read parse text).hasErrors with
      | true =>
        simp only [List.isEmpty_cons, Bool.false_eq_true, ↓reduceIte, broken, reduceCtorEq, false_iff]
        rintro ⟨-, ⟨rfl⟩, rfl, sound⟩
        rw [broken] at sound
        cases sound
      | false =>
        simp only [List.isEmpty_cons, Bool.false_eq_true, ↓reduceIte, broken, Option.some.injEq,
          Prod.mk.injEq]
        constructor
        · rintro ⟨rfl, rfl⟩
          exact ⟨List.cons_ne_nil _ _, rfl, rfl, broken⟩
        · rintro ⟨-, ⟨rfl⟩, rfl, -⟩
          exact ⟨rfl, rfl⟩

theorem edits_of_attempt {document after : Document} {edits : List Edit} {body : String}
    (made : attempt? parse document edits = some (body, after)) :
    edits ≠ [] ∧ after = .read parse body ∧ after.hasErrors = false :=
  (attempt_eq_some_iff.1 made).imp_right And.right

theorem render_of_attempt {document after : Document} {edits : List Edit} {body : String}
    (made : attempt? parse document edits = some (body, after)) :
    document.render edits = .ok body :=
  (attempt_eq_some_iff.1 made).2.1

/-- A pass that plans edits to a text that can be parsed goes on with that text. -/
theorem document_step_of_render {body : String} (planned : (pass.plan progress.document).edits ≠ [])
    (rendered : progress.document.render (pass.plan progress.document).edits = .ok body)
    (readable : (Document.read parse body).hasErrors = false) :
    (progress.step parse pass).document = .read parse body := by
  rw [Progress.step, attempt_eq_some_iff.2 ⟨planned, rendered, rfl, readable⟩]

/-- Records are only ever added. -/
theorem records_le_step : progress.records <+: (progress.step parse pass).records := by
  rw [Progress.step]
  split
  · exact List.prefix_append _ _
  · exact List.prefix_refl _

theorem records_le_foldl (parse : Parse) (progress : Progress) (stages : List Pass) :
    progress.records <+: (stages.foldl (Progress.step parse) progress).records := by
  induction stages generalizing progress with
  | nil => exact List.prefix_refl _
  | cons pass rest ih => exact records_le_step.trans (ih _)

/-- A pass that takes effect leaves a record. -/
theorem length_records_step (told : ∀ document, (pass.plan document).Told)
    (active : ¬Idle parse progress.document pass) :
    progress.records.length < (progress.step parse pass).records.length := by
  rw [Idle] at active
  obtain ⟨⟨body, after⟩, made⟩ := Option.ne_none_iff_exists'.1 active
  have filled := (edits_of_attempt made).1
  have recorded : (pass.plan progress.document).records ≠ [] :=
    fun quiet => filled (told _ quiet)
  have some_records := List.length_pos_iff.2 recorded
  rw [Progress.step, made]
  simp only [List.length_append]
  omega

/-- Where no record is added, no pass takes effect. -/
theorem idle_of_records (told : ∀ pass ∈ stages, ∀ document, (pass.plan document).Told)
    (quiet : (stages.foldl (Progress.step parse) progress).records = progress.records) :
    ∀ pass ∈ stages, Idle parse progress.document pass := by
  induction stages with
  | nil => exact nofun
  | cons first rest ih =>
    by_cases idle : Idle parse progress.document first
    · rw [List.foldl_cons, step_of_idle idle] at quiet
      have later := ih (fun pass member => told pass (List.mem_cons_of_mem _ member)) quiet
      intro pass member
      rcases List.mem_cons.1 member with rfl | behind
      · exact idle
      · exact later pass behind
    · have grown := length_records_step (told first List.mem_cons_self) idle
      have kept := (records_le_foldl parse (progress.step parse first) rest).length_le
      rw [List.foldl_cons] at quiet
      rw [quiet] at kept
      omega

/-- The text between two passes is the one that the next pass looks at. -/
def Progress.Read (parse : Parse) (progress : Progress) : Prop :=
  progress.document = .read parse progress.body

theorem read_step (read : progress.Read parse) : (progress.step parse pass).Read parse := by
  rw [Progress.step]
  split
  · rename_i made
    exact (edits_of_attempt made).2.1
  · exact read

theorem read_foldl (read : progress.Read parse) :
    (stages.foldl (Progress.step parse) progress).Read parse := by
  induction stages generalizing progress with
  | nil => exact read
  | cons pass rest ih => exact ih (read_step read)

/-- The passes up to the last one that takes effect. -/
def effective (parse : Parse) : Progress → List Pass → List Pass
  | _, [] => []
  | progress, pass :: rest =>
    let later := effective parse (progress.step parse pass) rest
    if later.isEmpty && (attempt? parse progress.document (pass.plan progress.document).edits).isNone
    then [] else pass :: later

theorem idle_of_effective_eq_nil (none : effective parse progress stages = []) :
    ∀ pass ∈ stages, Idle parse progress.document pass := by
  induction stages generalizing progress with
  | nil => exact nofun
  | cons first rest ih =>
    rw [effective] at none
    split at none
    · rename_i quiet
      rw [Bool.and_eq_true, List.isEmpty_iff, Option.isNone_iff_eq_none] at quiet
      obtain ⟨later, idle⟩ := quiet
      have still := step_of_idle idle
      have others := ih later
      rw [still] at others
      intro pass member
      rcases List.mem_cons.1 member with rfl | behind
      · exact idle
      · exact others pass behind
    · cases none

/-- Behind the last pass that takes effect all passes have seen the text that is left at the end. -/
theorem exists_idle_behind (parse : Parse) (progress : Progress) (stages : List Pass) :
    ∃ behind, stages = effective parse progress stages ++ behind ∧
      ∀ pass ∈ behind,
        Idle parse (stages.foldl (Progress.step parse) progress).document pass := by
  induction stages generalizing progress with
  | nil => exact ⟨[], rfl, nofun⟩
  | cons first rest ih =>
    cases none : effective parse progress (first :: rest) with
    | nil =>
      have idle := idle_of_effective_eq_nil none
      refine ⟨first :: rest, rfl, ?_⟩
      rw [foldl_step_of_idle idle]
      exact idle
    | cons pass later =>
      obtain ⟨behind, parts, idle⟩ := ih (progress.step parse first)
      rw [effective] at none
      split at none
      · cases none
      · rw [← none]
        refine ⟨behind, ?_, idle⟩
        rw [List.cons_append, ← parts]

/-- Only the passes up to the last one that took effect need to be looked at again. -/
theorem forall_idle_iff (parse : Parse) (progress : Progress) (stages : List Pass) :
    (∀ pass ∈ stages, Idle parse (stages.foldl (Progress.step parse) progress).document pass) ↔
      ∀ pass ∈ effective parse progress stages,
        Idle parse (stages.foldl (Progress.step parse) progress).document pass := by
  obtain ⟨behind, parts, idle⟩ := exists_idle_behind parse progress stages
  generalize stages.foldl (Progress.step parse) progress = final at idle ⊢
  constructor
  · intro all pass member
    apply all
    rw [parts]
    exact List.mem_append_left _ member
  · intro before pass member
    rw [parts] at member
    rcases List.mem_append.1 member with front | back
    · exact before pass front
    · exact idle pass back

end Rounds

/-- Where a round of all passes ends. -/
def ending (parse : Parse) (source : String) : Progress :=
  passes.foldl (Progress.step parse) (.start parse (Preamble.split source).body)

theorem document_ending (parse : Parse) (source : String) :
    (ending parse source).document = .read parse (ending parse source).body :=
  read_foldl rfl

theorem records_ending_iff (parse : Parse) (source : String) :
    (ending parse source).records = [] ↔
      ∀ pass ∈ passes, Idle parse (.read parse (Preamble.split source).body) pass := by
  constructor
  · intro quiet
    exact idle_of_records (fun _ => told_of_mem_passes) quiet
  · intro idle
    rw [ending, foldl_step_of_idle idle]
    rfl

theorem repair_of_hasErrors {parse : Parse} {source : String}
    (erroneous : (Document.read parse (Preamble.split source).body).hasErrors = true) :
    repair parse source = ⟨source, []⟩ := by
  rw [repair]
  exact if_pos erroneous

theorem repair_of_readable {parse : Parse} {source : String}
    (readable : ¬(Document.read parse (Preamble.split source).body).hasErrors = true) :
    repair parse source =
      if (ending parse source).records.isEmpty then ⟨source, []⟩
      else ⟨Preamble.attach (Preamble.split source).preamble (ending parse source).body,
        (ending parse source).records⟩ := by
  rw [repair]
  exact if_neg readable

/-- Nothing is repaired in a source, and the source stays as it is, if and only if its body is settled. -/
theorem repair_eq_self_iff (parse : Parse) (source : String) :
    repair parse source = ⟨source, []⟩ ↔ Settled parse (Preamble.split source).body := by
  rw [Settled]
  by_cases erroneous : (Document.read parse (Preamble.split source).body).hasErrors = true
  · simp [repair_of_hasErrors erroneous, erroneous]
  · rw [repair_of_readable erroneous, ← records_ending_iff]
    cases records : (ending parse source).records with
    | nil => simp
    | cons record rest => simp [erroneous]

/-- A source without fixes is the source itself. -/
theorem repair_of_fixes_eq_nil {parse : Parse} {source : String}
    (none : (repair parse source).fixes = []) : repair parse source = ⟨source, []⟩ := by
  by_cases erroneous : (Document.read parse (Preamble.split source).body).hasErrors = true
  · exact repair_of_hasErrors erroneous
  · rw [repair_of_readable erroneous] at none ⊢
    split at none
    · rename_i quiet
      rw [if_pos quiet]
    · rename_i told
      dsimp only at none
      rw [none] at told
      exact absurd rfl told

/-- What a round with fixes leaves behind. -/
theorem code_of_fixes {parse : Parse} {source : String} (fixes : (repair parse source).fixes ≠ []) :
    (repair parse source).code =
      Preamble.attach (Preamble.split source).preamble (ending parse source).body := by
  by_cases erroneous : (Document.read parse (Preamble.split source).body).hasErrors = true
  · rw [repair_of_hasErrors erroneous] at fixes
    exact absurd rfl fixes
  · rw [repair_of_readable erroneous] at fixes ⊢
    split at fixes
    · exact absurd rfl fixes
    · rename_i told
      rw [if_neg told]

/-- What a body leads to can be read if the body can. -/
theorem readable_foldl {parse : Parse} {progress : Progress} (stages : List Pass)
    (readable : progress.document.hasErrors = false) :
    (stages.foldl (Progress.step parse) progress).document.hasErrors = false := by
  induction stages generalizing progress with
  | nil => exact readable
  | cons pass rest ih =>
    apply ih
    rw [Progress.step]
    split
    · rename_i made
      exact (edits_of_attempt made).2.2
    · exact readable

theorem readable_ending {parse : Parse} {source : String}
    (fixes : (repair parse source).fixes ≠ []) :
    (Document.read parse (ending parse source).body).hasErrors = false := by
  rw [← document_ending]
  apply readable_foldl
  cases erroneous : (Document.read parse (Preamble.split source).body).hasErrors with
  | false => exact erroneous
  | true =>
    rw [repair_of_hasErrors erroneous] at fixes
    exact absurd rfl fixes

/-- A second round changes nothing if and only if the first one did not, or no pass takes effect on what
it left. Of a text with the preamble of the source only those passes matter that came before the end of
the first round; a text that begins like a preamble, which the source did not, is read anew. -/
theorem repair_again_iff (parse : Parse) (source : String) :
    repair parse (repair parse source).code = ⟨(repair parse source).code, []⟩ ↔
      (repair parse source).fixes = [] ∨
        if !Preamble.has source && Preamble.has (ending parse source).body then
          Settled parse (Preamble.split (ending parse source).body).body
        else
          ∀ pass ∈ effective parse (.start parse (Preamble.split source).body) passes,
            Idle parse (.read parse (ending parse source).body) pass := by
  by_cases fixes : (repair parse source).fixes = []
  · have same := repair_of_fixes_eq_nil fixes
    have code : (repair parse source).code = source := by rw [same]
    rw [code]
    exact iff_of_true same (.inl fixes)
  have code := code_of_fixes fixes
  have readable := readable_ending fixes
  have again := forall_idle_iff parse (.start parse (Preamble.split source).body) passes
  rw [← ending, document_ending] at again
  rw [repair_eq_self_iff, or_iff_right fixes, code]
  cases titled : Preamble.has source with
  | true =>
    rw [Preamble.split_attach titled]
    simp [Settled, readable, again]
  | false =>
    have bare : Preamble.attach (Preamble.split source).preamble (ending parse source).body =
        (ending parse source).body := by
      rw [Preamble.split_of_not_has titled]
      simp [Preamble.attach]
    rw [bare]
    cases opens : Preamble.has (ending parse source).body with
    | true => simp
    | false =>
      rw [Preamble.split_of_not_has opens]
      simp [Settled, readable, again]

/-- Behind the declaration stands what looks like a preamble once the declaration is moved. -/
def rulesBelow : String :=
  "var x;\n---\ny;\nimport R from 'react';\n---\nz;\nexport default () => <a/>;\n"

theorem rulesBelow_repaired_again :
    (repair Syntax.parse (repair Syntax.parse rulesBelow).code).fixes =
        ["Added missing React import"] ∧
      repair Syntax.parse (repair Syntax.parse rulesBelow).code ≠
        ⟨(repair Syntax.parse rulesBelow).code, []⟩ := by
  have again : (repair Syntax.parse (repair Syntax.parse rulesBelow).code).fixes =
      ["Added missing React import"] := by
    decide +kernel
  refine ⟨again, ?_⟩
  intro same
  rw [same] at again
  cases again

/-- Without the declaration the text would go on behind the directive as a quotient, so that it is moved
only once an import stands between them. -/
def directiveAbove : String := "'use strict'\nvar x;\n/a/;\nexport default () => <b/>;\n"

example :
    (repair Syntax.parse directiveAbove).fixes = ["Added missing React import"] ∧
      (repair Syntax.parse (repair Syntax.parse directiveAbove).code).fixes =
        ["Hoisted top-level var declaration of x into default"] := by
  decide +kernel

end Repair

end ComponentGate
