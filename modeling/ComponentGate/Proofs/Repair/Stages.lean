import ComponentGate.Proofs.Repair.Rounds

/-! Repairs stage by stage. A stage takes effect with all that its pass plans for the text in front of it,
or it leaves text and records alone; edits that come to nothing are gone before the next stage begins. -/

namespace ComponentGate

open Syntax

/-- Whether there is an edit at least for each record. -/
def Repairs.Backed (repairs : Repairs) : Prop := repairs.records.length ≤ repairs.edits.length

namespace Repair

/-- How a pass may end that starts from the text `before`: with the text and the records that it plans
for a fresh reading of that text, or with none of it. -/
inductive Staged (parse : Parse) (pass : Pass) (before : String) : String → List String → Prop where
  | committed {after : String}
      (planned : (pass.plan (.read parse before)).edits ≠ [])
      (rendered :
        (Document.read parse before).render (pass.plan (.read parse before)).edits = .ok after)
      (readable : (Document.read parse after).hasErrors = false) :
      Staged parse pass before after (pass.plan (.read parse before)).records
  | discarded
      (refused : (pass.plan (.read parse before)).edits = [] ∨
        ∀ after,
          (Document.read parse before).render (pass.plan (.read parse before)).edits = .ok after →
            (Document.read parse after).hasErrors = true) :
      Staged parse pass before before []

/-- Stages one after the other, with all that they tell. -/
inductive Course (parse : Parse) : List Pass → String → String → List String → Prop where
  | done (body : String) : Course parse [] body body []
  | stage {pass : Pass} {rest : List Pass} {before between after : String} {told more : List String}
      (first : Staged parse pass before between told)
      (later : Course parse rest between after more) :
      Course parse (pass :: rest) before after (told ++ more)

section Stages

variable {parse : Parse} {pass : Pass} {progress : Progress}

theorem attempt_eq_none_iff {document : Document} {edits : List Edit} :
    attempt? parse document edits = none ↔
      edits = [] ∨
        ∀ body, document.render edits = .ok body → (Document.read parse body).hasErrors = true := by
  rw [attempt?]
  cases edits with
  | nil => simp
  | cons edit rest =>
    cases document.render (edit :: rest) with
    | error failure => simp
    | ok body => simp

theorem staged_step (pass : Pass) (read : progress.Read parse) :
    ∃ told, Staged parse pass progress.body (progress.step parse pass).body told ∧
      (progress.step parse pass).records = progress.records ++ told := by
  have same : progress.document = .read parse progress.body := read
  rw [Progress.step, same]
  cases made : attempt? parse (.read parse progress.body)
      (pass.plan (.read parse progress.body)).edits with
  | none => exact ⟨[], .discarded (attempt_eq_none_iff.1 made), (List.append_nil _).symm⟩
  | some outcome =>
    obtain ⟨body, document⟩ := outcome
    obtain ⟨planned, rfl, readable⟩ := edits_of_attempt made
    exact ⟨_, .committed planned (render_of_attempt made) readable, rfl⟩

theorem course_foldl (stages : List Pass) (read : progress.Read parse) :
    ∃ told, Course parse stages progress.body (stages.foldl (Progress.step parse) progress).body told ∧
      (stages.foldl (Progress.step parse) progress).records = progress.records ++ told := by
  induction stages generalizing progress with
  | nil => exact ⟨[], .done _, (List.append_nil _).symm⟩
  | cons pass rest ih =>
    have next : (progress.step parse pass).Read parse := read_step read
    obtain ⟨told, first, records⟩ := staged_step pass read
    obtain ⟨more, later, all⟩ := ih next
    refine ⟨told ++ more, .stage first later, ?_⟩
    rw [List.foldl_cons, all, records, List.append_assoc]

/-- A stage can end in one way only. -/
theorem Staged.unique {before after other : String} {told more : List String}
    (first : Staged parse pass before after told) (second : Staged parse pass before other more) :
    after = other ∧ told = more := by
  cases first with
  | committed planned rendered readable =>
    cases second with
    | committed _ rendered' _ =>
      rw [rendered] at rendered'
      exact ⟨Except.ok.inj rendered', rfl⟩
    | discarded refused =>
      rcases refused with nothing | broken
      · exact absurd nothing planned
      · exact absurd (broken _ rendered) (by simp [readable])
  | discarded refused =>
    cases second with
    | committed planned rendered readable =>
      rcases refused with nothing | broken
      · exact absurd nothing planned
      · exact absurd (broken _ rendered) (by simp [readable])
    | discarded _ => exact ⟨rfl, rfl⟩

end Stages

section Records

theorem backed_concat {all : List Repairs} (each : ∀ repairs ∈ all, repairs.Backed) :
    (Repairs.concat all).Backed := by
  induction all with
  | nil => exact Nat.le_refl 0
  | cons first rest ih =>
    have front := each first List.mem_cons_self
    have behind := ih fun repairs member => each repairs (List.mem_cons_of_mem _ member)
    change (first.records ++ (Repairs.concat rest).records).length ≤
      (first.edits ++ (Repairs.concat rest).edits).length
    rw [Repairs.Backed] at front behind
    simp only [List.length_append]
    omega

theorem backed_hoistDeclarations (document : Document) :
    (hoistDeclarations.plan document).Backed := by
  rcases hoistDeclarations_cases document with none | ⟨_, _, -, -, -, planned⟩
  · rw [none]
    exact Nat.le_refl 0
  · rw [planned]
    simp [Repairs.Backed]

theorem backed_keyRepairs (document : Document) (call : Tree) :
    (keyRepairs document call).Backed := by
  fun_cases keyRepairs document call <;> simp [Repairs.Backed, Repairs.none]

theorem backed_handlerRepairs (document : Document) (given : Tree) :
    (handlerRepairs document given).Backed := by
  fun_cases handlerRepairs document given <;> simp [Repairs.Backed, Repairs.none]

theorem backed_ensureBaseImport (document : Document) : (ensureBaseImport.plan document).Backed := by
  simp only [ensureBaseImport]
  split <;> exact Nat.le_refl _

theorem backed_of_mem_passes {pass : Pass} (member : pass ∈ passes) (document : Document) :
    (pass.plan document).Backed := by
  simp only [passes, List.mem_cons, List.not_mem_nil, or_false] at member
  rcases member with rfl | rfl | rfl | rfl
  · exact backed_hoistDeclarations document
  · apply backed_concat
    intro repairs made
    obtain ⟨call, _, rfl⟩ := List.mem_map.1 made
    exact backed_keyRepairs document call
  · apply backed_concat
    intro repairs made
    obtain ⟨given, _, rfl⟩ := List.mem_map.1 made
    exact backed_handlerRepairs document given
  · exact backed_ensureBaseImport document

/-- A pass tells of something if and only if it plans an edit. -/
theorem records_eq_nil_iff {pass : Pass} (member : pass ∈ passes) (document : Document) :
    (pass.plan document).records = [] ↔ (pass.plan document).edits = [] := by
  constructor
  · exact told_of_mem_passes member document
  · intro nothing
    have backed := backed_of_mem_passes member document
    rw [Repairs.Backed, nothing] at backed
    exact List.eq_nil_of_length_eq_zero (Nat.le_zero.1 backed)

end Records

/-- A text that is being worked on: its reading, the edits that are recorded for it and not yet applied,
and the records so far. -/
structure Desk where
  body : String
  document : Document
  pending : List Edit
  records : List String

namespace Desk

def opened (parse : Parse) (body : String) : Desk := ⟨body, .read parse body, [], []⟩

/-- The desk once all that is pending has been thrown away. -/
def cleared (parse : Parse) (desk : Desk) : Desk :=
  { desk with document := .read parse desk.body, pending := [] }

/-- A pass adds its edits to those that are pending. If there are any, they are applied all together; where
that fails, or what comes out cannot be parsed, the desk is cleared. -/
def turn (parse : Parse) (desk : Desk) (pass : Pass) : Desk :=
  let repairs := pass.plan desk.document
  let pending := desk.pending ++ repairs.edits
  if pending.isEmpty then desk
  else
    match desk.document.render pending with
    | .error _ => desk.cleared parse
    | .ok body =>
      let reparsed := Document.read parse body
      if reparsed.hasErrors then desk.cleared parse
      else ⟨body, reparsed, [], desk.records ++ repairs.records⟩

/-- What is known between two passes, with nothing pending. -/
def between (progress : Progress) : Desk := ⟨progress.body, progress.document, [], progress.records⟩

section Turns

variable {parse : Parse} {progress : Progress} {pass : Pass}

theorem cleared_between (read : progress.Read parse) :
    (between progress).cleared parse = between progress := by
  rw [cleared, between, show progress.document = .read parse progress.body from read]

theorem turn_between (read : progress.Read parse) :
    (between progress).turn parse pass = between (progress.step parse pass) := by
  have clear := cleared_between read
  rw [turn, Progress.step, attempt?, show (between progress).pending = [] from rfl, List.nil_append,
    show (between progress).document = progress.document from rfl, clear]
  dsimp only
  split
  · rfl
  · cases progress.document.render (pass.plan progress.document).edits with
    | error failure => rfl
    | ok body =>
      dsimp only
      split
      · rfl
      · rfl

/-- Between two stages nothing is ever pending. -/
theorem foldl_turn (stages : List Pass) (read : progress.Read parse) :
    stages.foldl (turn parse) (between progress) =
      between (stages.foldl (Progress.step parse) progress) := by
  induction stages generalizing progress with
  | nil => rfl
  | cons pass rest ih => rw [List.foldl_cons, turn_between read, ih (read_step read), List.foldl_cons]

end Turns

end Desk

/-- A source that can be read is repaired in four stages. -/
theorem repair_of_stages {parse : Parse} {source : String}
    (readable : (Document.read parse (Preamble.split source).body).hasErrors = false) :
    ∃ body fixes, Course parse passes (Preamble.split source).body body fixes ∧
      repair parse source = ⟨Preamble.attach (Preamble.split source).preamble body, fixes⟩ := by
  obtain ⟨fixes, course, records⟩ := course_foldl passes
    (show (Progress.start parse (Preamble.split source).body).Read parse from rfl)
  refine ⟨_, fixes, course, ?_⟩
  have told : (ending parse source).records = fixes := records
  rw [repair_of_readable (by simp [readable]), told]
  split
  · rename_i quiet
    have none : fixes = [] := List.isEmpty_iff.1 quiet
    have idle := (records_ending_iff parse source).1 (told.trans none)
    have still : passes.foldl (Progress.step parse) (.start parse (Preamble.split source).body) =
        .start parse (Preamble.split source).body := foldl_step_of_idle idle
    rw [still, none]
    exact congrArg (Repaired.mk · []) (Preamble.preamble_append_body source).symm
  · rfl

/-- Each of the four stages takes effect as a whole or not at all, on the text that the one before it left,
and the records are those of the stages that took effect. Between two stages no edit is pending, so none
of a discarded stage is ever applied by a later one. -/
theorem repair_in_stages (parse : Parse) (source : String) :
    ((Document.read parse (Preamble.split source).body).hasErrors = true →
      repair parse source = ⟨source, []⟩) ∧
    ((Document.read parse (Preamble.split source).body).hasErrors = false →
      ∃ hoisted keyed named imported hoists keys names imports,
        Staged parse hoistDeclarations (Preamble.split source).body hoisted hoists ∧
        Staged parse listKeys hoisted keyed keys ∧
        Staged parse eventHandlers keyed named names ∧
        Staged parse ensureBaseImport named imported imports ∧
        repair parse source =
          ⟨(Preamble.split source).preamble ++ imported, hoists ++ keys ++ names ++ imports⟩) ∧
    ((repair parse source).fixes = [] → (repair parse source).code = source) ∧
    (∀ pass ∈ passes, ∀ document,
      (pass.plan document).records = [] ↔ (pass.plan document).edits = []) ∧
    ∀ stages : List Pass,
      (stages.foldl (Desk.turn parse) (.opened parse (Preamble.split source).body)) =
        .between (stages.foldl (Progress.step parse) (.start parse (Preamble.split source).body)) := by
  have start : (Progress.start parse (Preamble.split source).body).Read parse := rfl
  refine ⟨repair_of_hasErrors, ?_, fun none => congrArg Repaired.code (repair_of_fixes_eq_nil none),
    fun pass member document => records_eq_nil_iff member document,
    fun stages => Desk.foldl_turn stages start⟩
  intro readable
  obtain ⟨imported, fixes, course, result⟩ := repair_of_stages readable
  rw [passes] at course
  cases course with | stage first course =>
  cases course with | stage second course =>
  cases course with | stage third course =>
  cases course with | stage fourth course =>
  cases course
  refine ⟨_, _, _, _, _, _, _, _, first, second, third, fourth, ?_⟩
  simpa [Preamble.attach] using result

/-- Hoisting comes to nothing in the text with a directive above its declaration: without the declaration
the directive goes on as a quotient. The import is added to the text as it was before. -/
theorem directiveAbove_in_stages :
    (Document.read Syntax.parse (Preamble.split directiveAbove).body).hasErrors = false ∧
      ∃ hoisted keyed named imported hoists keys names imports,
        Staged Syntax.parse hoistDeclarations (Preamble.split directiveAbove).body hoisted hoists ∧
        Staged Syntax.parse listKeys hoisted keyed keys ∧
        Staged Syntax.parse eventHandlers keyed named names ∧
        Staged Syntax.parse ensureBaseImport named imported imports ∧
        repair Syntax.parse directiveAbove =
          ⟨(Preamble.split directiveAbove).preamble ++ imported, hoists ++ keys ++ names ++ imports⟩ := by
  have readable :
      (Document.read Syntax.parse (Preamble.split directiveAbove).body).hasErrors = false := by
    decide +kernel
  exact ⟨readable, (repair_in_stages Syntax.parse directiveAbove).2.1 readable⟩

end Repair

end ComponentGate
