import Mathlib.Logic.Relation
import ComponentGate.Healing.Run

/-! Runs as sequences of steps. A step is one pass through the loop of a stage; every run is reached
from its start by steps, so what each step keeps holds at the end. -/

namespace ComponentGate.Healing

/-- What was so at some event of a grown trace: the event is the new one, or it was there before. -/
theorem Trace.add_prefix_add_iff {trace earlier : Trace} {event last : Event} :
    (earlier.add event).events <+: (trace.add last).events ↔
      (earlier = trace ∧ last = event) ∨ (earlier.add event).events <+: trace.events := by
  cases trace
  cases earlier
  simp only [events_add, List.prefix_concat_iff, Trace.mk.injEq]
  constructor
  · rintro (same | before)
    · obtain ⟨same, news⟩ := List.append_inj' same rfl
      exact .inl ⟨same, (List.cons.inj news).1.symm⟩
    · exact .inr before
  · rintro (⟨rfl, rfl⟩ | before)
    · exact .inl rfl
    · exact .inr before

/-- Where a run stands: before a review, before a call of the compiler, or at its end. -/
inductive Stand (ε : Type) where
  | reviewing (retry : Nat) (errors : List String) (current : String) (trace : Trace)
  | compiling (retry : Nat) (errors : List String) (candidate : Candidate) (trace : Trace)
  | ended (run : Run ε)

def Stand.trace : Stand ε → Trace
  | .reviewing _ _ _ trace => trace
  | .compiling _ _ _ trace => trace
  | .ended run => run.trace

namespace Setting

/-- The instruction after a review that found `errors`. -/
def afterReview (setting : Setting ε) (instruction : String) (retry : Nat) (errors : List String) :
    String :=
  setting.config.feedback ⟨.validation, retry + 1, instruction, errors⟩

/-- The instruction after a failed compilation. -/
def afterFault (setting : Setting ε) (instruction : String) (retry : Nat) (fault : CompileFault) :
    String :=
  setting.config.feedback ⟨.compile, retry + 1, instruction, [fault.feedback]⟩

/-- A failed compilation and the examination of the candidate that follows it are one step. -/
inductive Step (setting : Setting ε) (instruction : String) : Stand ε → Stand ε → Prop where
  | unanswered (failed : setting.generate trace.instructions.length current = .error error) :
      Step setting instruction (.reviewing retry errors current trace)
        (.ended ⟨.error (.generator error), trace.add (.asked current none)⟩)
  | accepted (replied : setting.generate trace.instructions.length current = .ok generated)
      (valid : (setting.examine generated).report.isValid = true) :
      Step setting instruction (.reviewing retry errors current trace)
        (.compiling 0 [] (setting.examine generated) (setting.reviewed trace current generated))
  | rejected (replied : setting.generate trace.instructions.length current = .ok generated)
      (invalid : (setting.examine generated).report.isValid = false)
      (room : retry < setting.config.validationCap) :
      Step setting instruction (.reviewing retry errors current trace)
        (.reviewing (retry + 1) (errors ++ (setting.examine generated).report.errors)
          (setting.afterReview instruction retry (setting.examine generated).report.errors)
          (setting.reviewed trace current generated))
  | exhausted (replied : setting.generate trace.instructions.length current = .ok generated)
      (invalid : (setting.examine generated).report.isValid = false)
      (spent : retry = setting.config.validationCap) :
      Step setting instruction (.reviewing retry errors current trace)
        (.ended ⟨.error (.failed (.exhausted .validation retry
            (setting.examine generated).report.errors
            (some (errors ++ (setting.examine generated).report.errors))
            (setting.reviewed trace current generated).attempts) none),
          setting.reviewed trace current generated⟩)
  | compiled (answered : setting.answerTo draft trace = .ok output) :
      Step setting instruction (.compiling retry errors draft trace)
        (.ended ⟨.ok ⟨output.artifact, output.metadata, (setting.callFor draft).source,
            (setting.compiled trace draft retry).attempts, draft.report.warnings⟩,
          setting.compiled trace draft retry⟩)
  | compilationsExhausted (answered : setting.answerTo draft trace = .error fault)
      (spent : retry = setting.config.compileCap) :
      Step setting instruction (.compiling retry errors draft trace)
        (.ended ⟨.error (.failed (.exhausted .compile retry [fault.feedback]
            (some (errors ++ [fault.feedback]))
            (setting.compiled trace draft retry).attempts) (some fault)),
          setting.compiled trace draft retry⟩)
  | regenerationUnanswered (answered : setting.answerTo draft trace = .error fault)
      (room : retry < setting.config.compileCap)
      (called : next = setting.compiled trace draft retry)
      (failed : setting.generate next.instructions.length
        (setting.afterFault instruction retry fault) = .error error) :
      Step setting instruction (.compiling retry errors draft trace)
        (.ended ⟨.error (.generator error),
          next.add (.asked (setting.afterFault instruction retry fault) none)⟩)
  | regenerated (answered : setting.answerTo draft trace = .error fault)
      (room : retry < setting.config.compileCap)
      (called : next = setting.compiled trace draft retry)
      (replied : setting.generate next.instructions.length
        (setting.afterFault instruction retry fault) = .ok generated)
      (valid : (setting.examine generated).report.isValid = true) :
      Step setting instruction (.compiling retry errors draft trace)
        (.compiling (retry + 1) (errors ++ [fault.feedback]) (setting.examine generated)
          (setting.reviewed next (setting.afterFault instruction retry fault) generated))
  | regenerationRejected (answered : setting.answerTo draft trace = .error fault)
      (room : retry < setting.config.compileCap)
      (called : next = setting.compiled trace draft retry)
      (replied : setting.generate next.instructions.length
        (setting.afterFault instruction retry fault) = .ok generated)
      (invalid : (setting.examine generated).report.isValid = false) :
      Step setting instruction (.compiling retry errors draft trace)
        (.ended ⟨.error (.failed (.regenerationRejected .compile
            (setting.examine generated).report.errors
            (setting.reviewed next (setting.afterFault instruction retry fault)
              generated).attempts) none),
          setting.reviewed next (setting.afterFault instruction retry fault) generated⟩)

/-- Any number of steps. -/
abbrev Steps (setting : Setting ε) (instruction : String) : Stand ε → Stand ε → Prop :=
  Relation.ReflTransGen (setting.Step instruction)

theorem candidate_of_error
    (failed : setting.generate trace.instructions.length current = .error error) :
    candidate setting current trace = (.error error, trace.add (.asked current none)) := by
  simp [candidate, failed]

theorem candidate_of_ok
    (replied : setting.generate trace.instructions.length current = .ok generated) :
    candidate setting current trace =
      (.ok (setting.examine generated), setting.reviewed trace current generated) := by
  simp [candidate, replied]

section Traces

variable (setting : Setting ε) (trace : Trace) (current generated : String) (draft : Candidate)
  (retry : Nat)

@[simp] theorem attempts_reviewed :
    (setting.reviewed trace current generated).attempts =
      trace.attempts ++ [(setting.examine generated).attempt (countOf .validation trace.attempts)] := by
  simp [reviewed, record]

@[simp] theorem instructions_reviewed :
    (setting.reviewed trace current generated).instructions = trace.instructions ++ [current] := by
  simp [reviewed, record]

@[simp] theorem compilations_reviewed :
    (setting.reviewed trace current generated).compilations = trace.compilations := by
  simp [reviewed, record]

@[simp] theorem attempts_compiled :
    (setting.compiled trace draft retry).attempts =
      trace.attempts ++ [compileAttempt retry (setting.answerTo draft trace)] := by
  simp [compiled, record]

@[simp] theorem instructions_compiled :
    (setting.compiled trace draft retry).instructions = trace.instructions := by
  simp [compiled, record]

@[simp] theorem compilations_compiled :
    (setting.compiled trace draft retry).compilations =
      trace.compilations ++ [setting.callFor draft] := by
  simp [compiled, record]

end Traces

/-- What an observer heard is the trail where there is one, and nothing otherwise. -/
def Heard (setting : Setting ε) (trace : Trace) : Prop :=
  trace.news = if setting.config.observed then trace.attempts else []

theorem Heard.reviewed (heard : Heard setting trace) (current generated : String) :
    setting.Heard (setting.reviewed trace current generated) := by
  unfold Heard at heard ⊢
  cases observed : setting.config.observed <;>
    simp [observed, Setting.reviewed, record] at heard ⊢ <;> exact heard

theorem Heard.compiled (heard : Heard setting trace) (draft : Candidate) (retry : Nat) :
    setting.Heard (setting.compiled trace draft retry) := by
  unfold Heard at heard ⊢
  cases observed : setting.config.observed <;>
    simp [observed, Setting.compiled, record] at heard ⊢ <;> exact heard

/-- The compile stage takes steps to its end, whatever part of its budget is left. -/
theorem compileStage_steps (setting : Setting ε) (instruction : String) {left retry : Nat}
    (budget : retry + left = setting.config.compileCap) (errors : List String)
    (draft : Candidate) (trace : Trace) :
    setting.Steps instruction (.compiling retry errors draft trace)
      (.ended (setting.compileStage instruction left retry errors draft trace)) := by
  induction left generalizing retry errors draft trace with
  | zero =>
    cases answered : setting.answerTo draft trace with
    | ok output =>
      simp only [compileStage, answered]
      exact .single (.compiled answered)
    | error fault =>
      simp only [compileStage, answered]
      exact .single (.compilationsExhausted answered budget)
  | succ left ih =>
    have room : retry < setting.config.compileCap := by omega
    cases answered : setting.answerTo draft trace with
    | ok output =>
      simp only [compileStage, answered]
      exact .single (.compiled answered)
    | error fault =>
      rw [compileStage]
      simp only [answered]
      cases replied : setting.generate (setting.compiled trace draft retry).instructions.length
          (setting.afterFault instruction retry fault) with
      | error error =>
        rw [← afterFault, candidate_of_error replied]
        exact .single (.regenerationUnanswered answered room rfl replied)
      | ok generated =>
        rw [← afterFault, candidate_of_ok replied]
        cases judged : (setting.examine generated).report.isValid with
        | true =>
          simp only [judged, ↓reduceIte]
          exact .head (.regenerated answered room rfl replied judged) (ih (by omega) _ _ _)
        | false =>
          simp only [judged, Bool.false_eq_true, ↓reduceIte]
          exact .single (.regenerationRejected answered room rfl replied judged)

/-- The validation stage takes steps to its end if it does so after a rejection. -/
theorem validationStage_steps_of_rejected (setting : Setting ε) (instruction : String)
    {left retry : Nat} {errors : List String} {current : String} {trace : Trace}
    (rejected : ∀ generated, setting.generate trace.instructions.length current = .ok generated →
      (setting.examine generated).report.isValid = false →
        setting.Steps instruction (.reviewing retry errors current trace)
          (.ended (setting.validationStage instruction left retry errors current trace))) :
    setting.Steps instruction (.reviewing retry errors current trace)
      (.ended (setting.validationStage instruction left retry errors current trace)) := by
  cases replied : setting.generate trace.instructions.length current with
  | error error =>
    unfold validationStage
    rw [candidate_of_error replied]
    exact .single (.unanswered replied)
  | ok generated =>
    cases judged : (setting.examine generated).report.isValid with
    | true =>
      unfold validationStage
      rw [candidate_of_ok replied]
      simp only [judged, ↓reduceIte]
      exact .head (.accepted replied judged) (compileStage_steps _ _ (Nat.zero_add _) _ _ _)
    | false => exact rejected generated replied judged

theorem validationStage_steps (setting : Setting ε) (instruction : String) {left retry : Nat}
    (budget : retry + left = setting.config.validationCap) (errors : List String)
    (current : String) (trace : Trace) :
    setting.Steps instruction (.reviewing retry errors current trace)
      (.ended (setting.validationStage instruction left retry errors current trace)) := by
  induction left generalizing retry errors current trace with
  | zero =>
    apply validationStage_steps_of_rejected
    intro generated replied judged
    rw [validationStage, candidate_of_ok replied]
    simp only [judged, Bool.false_eq_true, ↓reduceIte]
    exact .single (.exhausted replied judged budget)
  | succ left ih =>
    apply validationStage_steps_of_rejected
    intro generated replied judged
    rw [validationStage, candidate_of_ok replied]
    simp only [judged, Bool.false_eq_true, ↓reduceIte]
    exact .head (.rejected replied judged (by omega)) (ih (by omega) _ _ _)

/-- A run takes steps from its first instruction to its end. -/
theorem run_steps (setting : Setting ε) (composed : setting.request.compose = .ok instruction) :
    setting.Steps instruction (.reviewing 0 [] instruction .empty) (.ended setting.run) := by
  simp only [run, composed]
  exact validationStage_steps _ _ (Nat.zero_add _) _ _ _

/-- What each step keeps, any number of steps keeps. -/
theorem Steps.holds {setting : Setting ε} {property : Stand ε → Prop}
    (steps : setting.Steps instruction start last) (first : property start)
    (kept : ∀ {stand next}, property stand → setting.Step instruction stand next → property next) :
    property last := by
  induction steps with
  | refl => exact first
  | tail _ step ih => exact kept ih step

/-- What holds of the start, and is kept by each step, holds of the end. -/
theorem holds_at_end (setting : Setting ε) {property : Stand ε → Prop}
    (composed : setting.request.compose = .ok instruction)
    (start : property (.reviewing 0 [] instruction .empty))
    (kept : ∀ {stand next}, property stand → setting.Step instruction stand next → property next) :
    property (.ended setting.run) :=
  Steps.holds (setting.run_steps composed) start kept

theorem run_of_compose_error (setting : Setting ε)
    (refused : setting.request.compose = .error error) :
    setting.run = ⟨.error (.request error), .empty⟩ := by
  simp only [run, refused]

end Setting

end ComponentGate.Healing
