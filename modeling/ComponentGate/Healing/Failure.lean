import ComponentGate.Healing.Attempt
import ComponentGate.Text.Search

/-!
How a run fails for good, and what a compiler's failure says.
-/

namespace ComponentGate.Healing

/-- A failure that a compiler reports: by its name, in words, and perhaps with a diagnostic. -/
structure CompileFault where
  name : String
  message : String
  diagnostic : Option String
  deriving DecidableEq, Repr, Inhabited

/-- What is told about a failed compilation: its message with its diagnostic, one of them where the
other is empty or the diagnostic is part of the message, or else the failure's name. -/
def CompileFault.feedback (fault : CompileFault) : String :=
  let diagnostic := fault.diagnostic.getD ""
  if diagnostic.isEmpty then if fault.message.isEmpty then fault.name else fault.message
  else if !fault.message.isEmpty &&
      !Text.occursIn diagnostic.toList fault.message.toList then
    s!"{fault.message}: {diagnostic}"
  else diagnostic

inductive FailureKind where
  /-- A stage used up its retries. -/
  | exhausted (retries : Int)
  /-- A component that was generated again after a failed compilation did not pass the review. -/
  | regenerationRejected
  deriving DecidableEq, Repr

/-- A run's failure: the stage that ended it, the errors of the last attempt, all errors of the stage,
and the whole trail. -/
structure Failure where
  kind : FailureKind
  stage : Stage
  lastErrors : List String
  errors : List String
  attempts : List Attempt
  deriving DecidableEq, Repr

namespace Failure

def exhausted (stage : Stage) (retries : Int) (lastErrors : List String)
    (errors : Option (List String)) (attempts : List Attempt) : Failure :=
  ⟨.exhausted retries, stage, lastErrors, errors.getD lastErrors, attempts⟩

def regenerationRejected (stage : Stage) (lastErrors : List String) (attempts : List Attempt) :
    Failure :=
  ⟨.regenerationRejected, stage, lastErrors, lastErrors, attempts⟩

def message (failure : Failure) : String :=
  match failure.kind with
  | .exhausted retries =>
    let noun := if retries = 1 then "retry" else "retries"
    let detail :=
      if failure.errors.isEmpty then "no diagnostics" else "; ".intercalate failure.errors
    s!"{failure.stage.title} failed after {retries} {noun}: {detail}"
  | .regenerationRejected =>
    "Regenerated code failed validation: " ++ "; ".intercalate failure.lastErrors

end Failure

end ComponentGate.Healing
