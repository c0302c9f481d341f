import ComponentGate.Healing.Run

/-!
Outcomes of runs. A failure for good is a value there, as a success is; whatever else stopped a run stays
an error.
-/

namespace ComponentGate.Healing

/-- A failure as a value: the stage that ended the run, the errors of the last attempt, all errors of the
stage, and the trail. -/
structure FailureReport where
  exhaustedStage : Stage
  lastErrors : List String
  errors : List String
  attempts : List Attempt
  deriving DecidableEq, Repr

def Failure.report (failure : Failure) : FailureReport :=
  ⟨failure.stage, failure.lastErrors, failure.errors, failure.attempts⟩

inductive RunOutcome where
  | success (success : Success)
  | failure (report : FailureReport)
  deriving Repr

namespace Run

def outcome (run : Run ε) : Except (RunError ε) RunOutcome :=
  match run.result with
  | .ok success => .ok (.success success)
  | .error (.failed failure _) => .ok (.failure failure.report)
  | .error error => .error error

/-- The failure that ended a run. -/
def failure? (run : Run ε) : Option Failure :=
  match run.result with
  | .error (.failed failure _) => some failure
  | _ => none

theorem failure?_eq_some_iff {run : Run ε} {failure : Failure} :
    run.failure? = some failure ↔ ∃ cause, run.result = .error (.failed failure cause) := by
  unfold failure?
  split
  · rename_i found cause failed
    simp [failed]
  · rename_i other
    simp only [reduceCtorEq, false_iff, not_exists]
    exact other failure

theorem outcome_of_failure {run : Run ε} {failure : Failure}
    (failed : run.failure? = some failure) : run.outcome = .ok (.failure failure.report) := by
  obtain ⟨cause, result⟩ := failure?_eq_some_iff.1 failed
  rw [outcome, result]

end Run

end ComponentGate.Healing
