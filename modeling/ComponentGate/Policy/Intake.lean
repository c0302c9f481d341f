import ComponentGate.Intake.Issue
import ComponentGate.Json.Reader
import ComponentGate.Policy.Basic

/-!
Policies from loosely typed values. What a value leaves out is as in the standard policy; no entry of
the two lists may be empty.
-/

namespace ComponentGate.Policy

open Intake

/-- A list of texts none of which is empty. -/
def asEntries (value : Json) : Checked (List String) :=
  match asListOf asText value with
  | .ok entries => if entries.any String.isEmpty then .fail .badValue else .ok entries
  | .error issues => .error issues

def ofEntries (entries : List (String × Json)) : Checked Policy :=
  let lists := Checked.both
    (part entries "allowed_imports" (.ok standard.allowedImports) asEntries)
    (part entries "alias_prefixes" (.ok standard.aliasPrefixes) asEntries)
  let aliases := part entries "aliases" (.ok standard.aliases) (asEntriesOf asText)
  let known := onlyKnown ["allowed_imports", "alias_prefixes", "aliases"] entries
  ((lists.both aliases).both known).map fun (((allowed, prefixes), aliases), _) =>
    ⟨allowed, prefixes, aliases⟩

def ofValue (value : Json) : Checked Policy := asRecord ofEntries value

/-- The policy that a JSON text spells. -/
def ofText (text : String) : Checked Policy :=
  match Json.read? text with
  | some value => ofValue value
  | none => .fail .unreadable

end ComponentGate.Policy
