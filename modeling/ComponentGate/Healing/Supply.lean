import ComponentGate.Request.Basic

/-!
Where a run gets its generator: one that all runs share, or one made for the provider that the request
selects.
-/

namespace ComponentGate.Healing

inductive Supply (γ : Type) where
  | shared (generator : γ)
  | perRequest (make : ProviderSelection → γ)

/-- Why there is no supply: none or both of the ways were given. -/
inductive SupplyError where
  | notExactlyOne
  deriving DecidableEq, Repr

def SupplyError.message : SupplyError → String
  | .notExactlyOne => "Pass exactly one of generator= or generator_factory="

namespace Supply

def ofOptions : Option γ → Option (ProviderSelection → γ) → Except SupplyError (Supply γ)
  | some generator, none => .ok (.shared generator)
  | none, some make => .ok (.perRequest make)
  | _, _ => .error .notExactlyOne

def generatorFor (selection : ProviderSelection) : Supply γ → γ
  | .shared generator => generator
  | .perRequest make => make selection

/-- The selections for which a run makes a generator. -/
def selections (selection : ProviderSelection) : Supply γ → List ProviderSelection
  | .shared _ => []
  | .perRequest _ => [selection]

end Supply

end ComponentGate.Healing
