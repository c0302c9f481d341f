import ComponentGate.Healing.Attempt
import ComponentGate.Prompt.Feedback

/-!
Strategies for another attempt. A strategy makes the next instruction from the first one and the
errors of the attempt that was rejected; which one is asked depends on the number of the retry.
-/

namespace ComponentGate.Healing

/-- What a strategy knows about a rejection. Retries are numbered from one. -/
structure FeedbackContext where
  stage : Stage
  retry : Nat
  instruction : String
  errors : List String
  deriving DecidableEq, Repr, Inhabited

abbrev Strategy := FeedbackContext → String

/-- The same task with the errors to mend. -/
def targetedFix : Strategy := fun context =>
  match context.stage with
  | .validation => Prompt.validationFix context.instruction context.errors
  | .compile => Prompt.compileFix context.instruction context.errors

/-- The simplest component instead. -/
def minimalVersion : Strategy := fun context => Prompt.minimal context.instruction context.errors

def standardStrategies : List Strategy := [targetedFix, minimalVersion]

/-- Why there is no strategy for a retry. -/
inductive StrategyError where
  | noStrategy
  | retryBelowOne (retry : Int)
  deriving DecidableEq, Repr

def StrategyError.message : StrategyError → String
  | .noStrategy => "At least one feedback strategy is required"
  | .retryBelowOne retry => s!"retry must be >= 1, got {retry}"

theorem pred_min_length_lt {strategies : List α} (filled : strategies ≠ []) (retry : Nat) :
    min retry strategies.length - 1 < strategies.length := by
  have := List.length_pos_iff.2 filled
  omega

/-- The strategy for a retry; past the end of the list the last one stays. -/
def strategyFor (strategies : List Strategy) (filled : strategies ≠ []) (retry : Nat) : Strategy :=
  strategies.get ⟨min retry strategies.length - 1, pred_min_length_lt filled retry⟩

def selectStrategy (strategies : List Strategy) (retry : Int) : Except StrategyError Strategy :=
  if filled : strategies ≠ [] then
    if retry < 1 then .error (.retryBelowOne retry)
    else .ok (strategyFor strategies filled retry.toNat)
  else .error .noStrategy

end ComponentGate.Healing
