import ComponentGate.Healing.Strategy

/-!
How often a run may try again, and what is done to a source before it is compiled.
-/

namespace ComponentGate.Healing

/-- No stage is retried more often, whatever is asked for. -/
def retryCeiling : Nat := 2

/-- A configuration as it is asked for. -/
structure Settings where
  selfHealing : Bool := true
  maxRetries : Int := 1
  maxCompileRetries : Int := 2
  strategies : List Strategy := standardStrategies
  ensurePreamble : Bool := true
  eraseTypes : Bool := false
  observed : Bool := false

/-- `observed` says that someone is told of each attempt. -/
structure Config where
  selfHealing : Bool
  maxRetries : Nat
  maxCompileRetries : Nat
  strategies : List Strategy
  ensurePreamble : Bool
  eraseTypes : Bool
  observed : Bool
  filled : strategies ≠ []

inductive ConfigError where
  | negativeBudget
  | noStrategy
  deriving DecidableEq, Repr

def ConfigError.message : ConfigError → String
  | .negativeBudget => "Retry budgets must be non-negative"
  | .noStrategy => StrategyError.noStrategy.message

def Settings.check (settings : Settings) : Except ConfigError Config :=
  if settings.maxRetries < 0 ∨ settings.maxCompileRetries < 0 then .error .negativeBudget
  else if filled : settings.strategies ≠ [] then
    .ok
      { selfHealing := settings.selfHealing
        maxRetries := settings.maxRetries.toNat
        maxCompileRetries := settings.maxCompileRetries.toNat
        strategies := settings.strategies
        ensurePreamble := settings.ensurePreamble
        eraseTypes := settings.eraseTypes
        observed := settings.observed
        filled := filled }
  else .error .noStrategy

namespace Config

/-- How many retries a budget stands for. -/
def cap (config : Config) (budget : Nat) : Nat :=
  if config.selfHealing then min budget retryCeiling else 0

def validationCap (config : Config) : Nat := config.cap config.maxRetries

def compileCap (config : Config) : Nat := config.cap config.maxCompileRetries

/-- The instruction for the next attempt after a rejection. -/
def feedback (config : Config) (context : FeedbackContext) : String :=
  strategyFor config.strategies config.filled context.retry context

end Config

end ComponentGate.Healing
