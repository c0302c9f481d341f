import ComponentGate.Policy.Intake
import ComponentGate.Request.Basic
import ComponentGate.Request.Path

/-!
Requests from loosely typed values. Entries that a record does not know are ignored, but for those of
a policy.
-/

namespace ComponentGate

open Intake

/-- A text under a key that may be null or absent. -/
def Intake.textPart (entries : List (String × Json)) (key : String) : Checked (Option String) :=
  part entries key (.ok none) (asOptional asText)

namespace ProviderSelection

def ofEntries (entries : List (String × Json)) : Checked ProviderSelection :=
  Checked.combine ProviderSelection.mk
    (part entries "provider" (.ok standard.provider) (asChoice Provider.all Provider.name))
    (textPart entries "model")

def ofValue (value : Json) : Checked ProviderSelection := asRecord ofEntries value

end ProviderSelection

namespace CatalogEntry

def ofEntries (entries : List (String × Json)) : Checked CatalogEntry := do
  let named := Checked.both
    (part entries "name" (.fail .missing) (asFilledText none))
    (part entries "description" (.ok "") asText)
  let kind := part entries "kind" (.ok .component) (asChoice EntryKind.all EntryKind.name)
  let placed := Checked.both (textPart entries "import_path") (textPart entries "category")
  let typed := Checked.both (textPart entries "signature") (textPart entries "return_type")
  let shown := Checked.both (textPart entries "props") (textPart entries "example")
  let ((name, description), kind, (importPath, category), (signature, returnType), (props, usage)) ←
    named.both (kind.both (placed.both (typed.both shown)))
  return { name, description, kind, importPath, category, signature, returnType, props, usage }

def ofValue (value : Json) : Checked CatalogEntry := asRecord ofEntries value

end CatalogEntry

namespace Request

/-- A directory in its plain spelling. -/
def asPath : Json → Checked String
  | .string text => .ok (plainPath text)
  | _ => .fail .notPath

def ofEntries (entries : List (String × Json)) : Checked Request := do
  let instruction :=
    part entries "instruction" (.fail .missing) (asFilledText (some Prompt.instructionLimit))
  let selection := part entries "provider" (.ok .standard) ProviderSelection.ofValue
  let policy := part entries "policy" (.ok .standard) Policy.ofValue
  let catalog := part entries "catalog" (.ok []) (asListOf CatalogEntry.ofValue)
  let projectPath := part entries "project_path" (.ok none) (asOptional asPath)
  let (instruction, selection, policy, catalog, projectPath) ←
    instruction.both (selection.both (policy.both (catalog.both projectPath)))
  return { instruction, selection, policy, catalog, projectPath }

def ofValue (value : Json) : Checked Request := asRecord ofEntries value

end Request

end ComponentGate
