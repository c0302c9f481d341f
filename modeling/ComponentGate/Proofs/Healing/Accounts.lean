import ComponentGate.Healing.Outcome
import ComponentGate.Proofs.Healing.Trail

/-! What a failure says of its run. A stage that used up its retries lists all that was found at its rejected
attempts; when a component that was generated again is rejected, what the compiler said before is lost. -/

namespace ComponentGate.Healing

/-- What was found at the rejected attempts of a stage, in order. -/
def recorded (stage : Stage) (attempts : List Attempt) : List String :=
  (attempts.filter fun attempt => attempt.stage == stage && !attempt.isAccepted).flatMap
    Attempt.findings

section Attempts

variable {setting : Setting ε} {trace : Trace} {draft : Candidate} {fault : CompileFault}
  {current generated : String}

theorem recorded_reviewed_valid (valid : (setting.examine generated).report.isValid = true)
    (stage : Stage) :
    recorded stage (setting.reviewed trace current generated).attempts =
      recorded stage trace.attempts := by
  simp [recorded, Candidate.attempt, Attempt.isAccepted, valid]

theorem recorded_reviewed_invalid (invalid : (setting.examine generated).report.isValid = false) :
    recorded .validation (setting.reviewed trace current generated).attempts =
      recorded .validation trace.attempts ++ (setting.examine generated).report.errors := by
  simp [recorded, Candidate.attempt, Attempt.isAccepted, invalid]

theorem recorded_compile_reviewed (setting : Setting ε) (trace : Trace) (current generated : String) :
    recorded .compile (setting.reviewed trace current generated).attempts =
      recorded .compile trace.attempts := by
  simp [recorded, Candidate.attempt]

theorem recorded_compiled_error (answered : setting.answerTo draft trace = .error fault)
    (retry : Nat) :
    recorded .compile (setting.compiled trace draft retry).attempts =
      recorded .compile trace.attempts ++ [fault.feedback] := by
  simp [recorded, answered, compileAttempt, Attempt.isAccepted]

theorem recorded_regeneration_ne_nil (answered : setting.answerTo draft trace = .error fault) :
    recorded .compile
      (setting.reviewed (setting.compiled trace draft retry) current generated).attempts ≠ [] := by
  rw [recorded_compile_reviewed, recorded_compiled_error answered]
  exact List.append_ne_nil_of_right_ne_nil _ (List.cons_ne_nil _ _)

/-- The last attempt was rejected for certain findings. -/
def EndsRejected (attempts : List Attempt) (findings : List String) : Prop :=
  ∃ last, attempts.getLast? = some last ∧ last.isAccepted = false ∧ last.findings = findings

theorem endsRejected_reviewed (invalid : (setting.examine generated).report.isValid = false) :
    EndsRejected (setting.reviewed trace current generated).attempts
      (setting.examine generated).report.errors := by
  rw [Setting.attempts_reviewed, EndsRejected, List.getLast?_concat]
  exact ⟨_, rfl, by simp [Candidate.attempt, Attempt.isAccepted, invalid], rfl⟩

theorem endsRejected_compiled (answered : setting.answerTo draft trace = .error fault) (retry : Nat) :
    EndsRejected (setting.compiled trace draft retry).attempts [fault.feedback] := by
  rw [Setting.attempts_compiled, EndsRejected, List.getLast?_concat, answered]
  exact ⟨_, rfl, rfl, rfl⟩

end Attempts

/-- What a failure says of the run that it ended. Its errors are all that its stage found, except that
after a rejected regeneration they are those of the last review alone. -/
structure Accounts (run : Run ε) (failure : Failure) : Prop where
  trail : failure.attempts = run.trace.attempts
  ends : failure.lastErrors <:+ failure.errors
  latest : EndsRejected run.trace.attempts failure.lastErrors
  exhausted : failure.kind ≠ .regenerationRejected →
    failure.errors = recorded failure.stage run.trace.attempts
  rejected : failure.kind = .regenerationRejected →
    failure.errors = failure.lastErrors ∧ recorded failure.stage run.trace.attempts ≠ []

section Runs

variable {setting : Setting ε} {instruction : String} {stand next : Stand ε}

/-- Where a run stands whose stage has kept all that it found so far. -/
def Accounting : Stand ε → Prop
  | .reviewing _ errors _ trace =>
    errors = recorded .validation trace.attempts ∧ recorded .compile trace.attempts = []
  | .compiling _ errors _ trace => errors = recorded .compile trace.attempts
  | .ended run => ∀ failure, run.failure? = some failure → Accounts run failure

theorem Accounting.step (accounting : Accounting stand)
    (step : setting.Step instruction stand next) : Accounting next := by
  cases step with
  | unanswered failed => nofun
  | accepted replied valid =>
    obtain ⟨-, none⟩ := accounting
    exact ((recorded_reviewed_valid valid .compile).trans none).symm
  | rejected replied invalid room =>
    obtain ⟨rfl, none⟩ := accounting
    exact ⟨(recorded_reviewed_invalid invalid).symm, (recorded_compile_reviewed ..).trans none⟩
  | exhausted replied invalid spent =>
    obtain ⟨rfl, none⟩ := accounting
    rintro failure ⟨⟩
    exact ⟨rfl, List.suffix_append _ _, endsRejected_reviewed invalid,
      fun _ => (recorded_reviewed_invalid invalid).symm, nofun⟩
  | compiled answered => nofun
  | compilationsExhausted answered spent =>
    cases accounting
    rintro failure ⟨⟩
    exact ⟨rfl, List.suffix_append _ _, endsRejected_compiled answered _,
      fun _ => (recorded_compiled_error answered _).symm, nofun⟩
  | regenerationUnanswered answered room called failed => nofun
  | regenerated answered room called replied valid =>
    cases accounting
    subst called
    exact ((recorded_compile_reviewed ..).trans (recorded_compiled_error answered _)).symm
  | regenerationRejected answered room called replied invalid =>
    subst called
    rintro failure ⟨⟩
    exact ⟨rfl, List.suffix_rfl, endsRejected_reviewed invalid, fun other => absurd rfl other,
      fun _ => ⟨rfl, recorded_regeneration_ne_nil answered⟩⟩

/-- Failures account for all of a run that something was found for. -/
theorem accounts_run (setting : Setting ε) {failure : Failure}
    (failed : setting.run.failure? = some failure) :
    Accounts setting.run failure := by
  cases composed : setting.request.compose with
  | error error =>
    rw [setting.run_of_compose_error composed] at failed
    cases failed
  | ok instruction =>
    have start : Accounting (.reviewing 0 [] instruction .empty : Stand ε) := ⟨rfl, rfl⟩
    exact setting.holds_at_end composed start Accounting.step failure failed

end Runs

/-- A failure hands out the whole trail and errors that end in those of the last attempt, which was
rejected, and its outcome has just these fields. Its errors are all that the rejected attempts of its stage
found, in order, unless a regeneration was rejected: then they hold all that only if the last review found
again what the compiler had reported before. -/
theorem failure_lists_recorded_iff (setting : Setting ε) (failure : Failure)
    (failed : setting.run.failure? = some failure) :
    failure.attempts = setting.run.trace.attempts ∧
      failure.lastErrors <:+ failure.errors ∧
      setting.run.outcome =
        .ok (.failure ⟨failure.stage, failure.lastErrors, failure.errors, failure.attempts⟩) ∧
      (failure.kind ≠ .regenerationRejected →
        failure.errors = recorded failure.stage setting.run.trace.attempts) ∧
      (failure.kind = .regenerationRejected →
        recorded failure.stage setting.run.trace.attempts ≠ []) ∧
      ∃ last, setting.run.trace.attempts.getLast? = some last ∧ last.isAccepted = false ∧
        last.findings = failure.lastErrors ∧
        ((recorded failure.stage setting.run.trace.attempts).Sublist failure.errors ↔
          failure.kind ≠ .regenerationRejected ∨
            (recorded failure.stage setting.run.trace.attempts).Sublist last.findings) := by
  obtain ⟨trail, ends, ⟨last, latest, refused, findings⟩, exhausted, rejected⟩ :=
    accounts_run setting failed
  refine ⟨trail, ends, Run.outcome_of_failure failed, exhausted, fun kind => (rejected kind).2, last,
    latest, refused, findings, ?_⟩
  by_cases kind : failure.kind = .regenerationRejected
  · obtain ⟨same, -⟩ := rejected kind
    rw [same, findings]
    simp [kind]
  · rw [exhausted kind]
    simp [kind]

/-- A run whose first text is forbidden, and whose later ones do not compile. -/
def twiceUncompilable : Setting Empty :=
  { hardStart with
    config := { hardStart.config with maxCompileRetries := 1 }
    compile := fun number _ => .error ⟨"CompileError", if number = 0 then "no" else "no more", none⟩ }

theorem twiceUncompilable_lists_recorded :
    ∃ failure, twiceUncompilable.run.failure? = some failure ∧ failure.errors = ["no", "no more"] ∧
      failure.attempts = twiceUncompilable.run.trace.attempts ∧
      failure.lastErrors <:+ failure.errors ∧
      twiceUncompilable.run.outcome =
        .ok (.failure ⟨failure.stage, failure.lastErrors, failure.errors, failure.attempts⟩) ∧
      (recorded failure.stage twiceUncompilable.run.trace.attempts).Sublist failure.errors := by
  have listed : (twiceUncompilable.run.failure?.map fun failure => (failure.kind, failure.errors)) =
      some (.exhausted 1, ["no", "no more"]) := by
    decide +kernel
  obtain ⟨failure, failed, parts⟩ := Option.map_eq_some_iff.1 listed
  obtain ⟨kind, errors⟩ := Prod.mk.inj parts
  obtain ⟨trail, ends, outcome, -, -, last, -, -, -, complete⟩ :=
    failure_lists_recorded_iff twiceUncompilable failure failed
  have exhausted : failure.kind ≠ .regenerationRejected := by
    rw [kind]
    nofun
  exact ⟨failure, failed, errors, trail, ends, outcome, complete.2 (.inl exhausted)⟩

/-- A run whose text does not compile, and whose next one is forbidden. -/
def rejectedRegeneration : Setting Empty :=
  { hardStart with
    generate := fun number _ => .ok (if number = 0 then "export const A = 1;" else "eval('1')")
    compile := fun _ _ => .error ⟨"CompileError", "boom", none⟩ }

/-- What the compiler reported is not among the errors of the failure. -/
theorem rejectedRegeneration_loses_report :
    ∃ failure, rejectedRegeneration.run.failure? = some failure ∧ failure.stage = .compile ∧
      failure.errors = ["Use of eval() is forbidden (line 1)"] ∧
      recorded .compile rejectedRegeneration.run.trace.attempts = ["boom"] ∧
      ¬(recorded .compile rejectedRegeneration.run.trace.attempts).Sublist failure.errors := by
  have listed :
      (rejectedRegeneration.run.failure?.map fun failure => (failure.stage, failure.errors)) =
        some (.compile, ["Use of eval() is forbidden (line 1)"]) := by
    decide +kernel
  have reported : recorded .compile rejectedRegeneration.run.trace.attempts = ["boom"] := by
    decide +kernel
  obtain ⟨failure, failed, parts⟩ := Option.map_eq_some_iff.1 listed
  obtain ⟨stage, errors⟩ := Prod.mk.inj parts
  refine ⟨failure, failed, stage, errors, reported, ?_⟩
  rw [reported, errors]
  decide

end ComponentGate.Healing
