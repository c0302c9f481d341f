import ComponentGate.Policy.Basic
import ComponentGate.Prompt.Catalog
import ComponentGate.Prompt.Instruction

/-!
Requests for a component: what a user asks for, which model answers, what may be imported, and what
the project has to offer.
-/

namespace ComponentGate

/-- The providers of models. -/
inductive Provider where
  | openai | anthropic | google
  deriving DecidableEq, Repr, Inhabited

def Provider.name : Provider → String
  | .openai => "openai"
  | .anthropic => "anthropic"
  | .google => "google"

def Provider.all : List Provider := [.openai, .anthropic, .google]

/-- A provider, and one of its models instead of the usual one. -/
structure ProviderSelection where
  provider : Provider
  model : Option String
  deriving DecidableEq, Repr, Inhabited

def ProviderSelection.standard : ProviderSelection := ⟨.openai, none⟩

structure Request where
  instruction : String
  selection : ProviderSelection
  policy : Policy
  catalog : List CatalogEntry
  projectPath : Option String
  deriving DecidableEq, Repr, Inhabited

/-- Why no instruction can be made of a request. -/
inductive RequestError where
  | emptyInstruction
  deriving DecidableEq, Repr

def RequestError.message : RequestError → String
  | .emptyInstruction => "Instruction is empty once markup is removed"

namespace Request

/-- The instruction for the model: the user's own, without markup, and the catalog below it. -/
def compose (request : Request) : Except RequestError String :=
  let instruction := Prompt.sanitized request.instruction
  if instruction.isEmpty then .error .emptyInstruction
  else
    let catalog := Prompt.catalogSection request.catalog
    .ok (if catalog.isEmpty then instruction else s!"{instruction}\n\n{catalog}")

end Request

end ComponentGate
