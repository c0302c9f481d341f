import ComponentGate.Json.Value

/-!
Checking loosely typed values. A check answers a value or all that is wrong with its parts, in the
order of the parts, each issue with the way to the part that it is about.
-/

namespace ComponentGate.Intake

/-- One step from a value to a part of it. -/
inductive Step where
  | key (name : String)
  | index (position : Nat)
  deriving DecidableEq, Repr

inductive IssueKind where
  | missing | notText | textTooShort | textTooLong | notList | notObject | notRecord | notPath
  | unknownChoice | unknownEntry | badValue | unreadable
  deriving DecidableEq, Repr

/-- The short name of an issue's kind, as reports spell it. -/
def IssueKind.name : IssueKind → String
  | .missing => "missing"
  | .notText => "string_type"
  | .textTooShort => "string_too_short"
  | .textTooLong => "string_too_long"
  | .notList => "tuple_type"
  | .notObject => "dict_type"
  | .notRecord => "model_type"
  | .notPath => "path_type"
  | .unknownChoice => "literal_error"
  | .unknownEntry => "extra_forbidden"
  | .badValue => "value_error"
  | .unreadable => "json_invalid"

structure Issue where
  kind : IssueKind
  location : List Step
  deriving DecidableEq, Repr

/-- A checked value, or its issues. -/
abbrev Checked (α : Type) := Except (List Issue) α

namespace Checked

def fail (kind : IssueKind) : Checked α := .error [⟨kind, []⟩]

/-- Issues of a part, seen from the whole. -/
def within (step : Step) : Checked α → Checked α
  | .ok value => .ok value
  | .error issues => .error (issues.map fun issue => { issue with location := step :: issue.location })

/-- Two checks, with the issues of both. -/
def both : Checked α → Checked β → Checked (α × β)
  | .ok first, .ok second => .ok (first, second)
  | .ok _, .error issues => .error issues
  | .error issues, .ok _ => .error issues
  | .error issues, .error more => .error (issues ++ more)

/-- Combines the values of two checks. -/
def combine (f : α → β → γ) (first : Checked α) (second : Checked β) : Checked γ :=
  (both first second).map fun values => f values.1 values.2

/-- All values, or the issues of all checks. -/
def all : List (Checked α) → Checked (List α)
  | [] => .ok []
  | first :: rest => combine List.cons first (all rest)

end Checked

def asText : Json → Checked String
  | .string text => .ok text
  | _ => .fail .notText

/-- A text of at least one character and at most `limit` ones, where there is a limit. -/
def asFilledText (limit : Option Nat) (value : Json) : Checked String :=
  match asText value with
  | .ok text =>
    if text.isEmpty then .fail .textTooShort
    else if limit.any (· < text.length) then .fail .textTooLong
    else .ok text
  | .error issues => .error issues

/-- One of some values by its name. -/
def asChoice (choices : List α) (name : α → String) : Json → Checked α
  | .string text =>
    match choices.find? fun choice => name choice == text with
    | some choice => .ok choice
    | none => .fail .unknownChoice
  | _ => .fail .unknownChoice

/-- An object whose entries are the parts of a record. -/
def asRecord (check : List (String × Json) → Checked α) : Json → Checked α
  | .object entries => check entries
  | _ => .fail .notRecord

/-- A list whose items all pass. -/
def asListOf (check : Json → Checked α) : Json → Checked (List α)
  | .array items =>
    .all (items.mapIdx fun position item => (check item).within (.index position))
  | _ => .fail .notList

/-- An object whose values all pass. -/
def asEntriesOf (check : Json → Checked α) : Json → Checked (List (String × α))
  | .object entries =>
    .all (entries.map fun entry =>
      ((check entry.2).within (.key entry.1)).map fun value => (entry.1, value))
  | _ => .fail .notObject

/-- A value that may be null instead. -/
def asOptional (check : Json → Checked α) : Json → Checked (Option α)
  | .null => .ok none
  | value => (check value).map some

/-- The checked part under a key; `absent` is the answer where there is none. -/
def part (entries : List (String × Json)) (key : String) (absent : Checked α)
    (check : Json → Checked α) : Checked α :=
  match Entries.get? entries key with
  | some value => (check value).within (.key key)
  | none => absent.within (.key key)

/-- Entries under keys that are not `known` are issues. -/
def onlyKnown (known : List String) (entries : List (String × Json)) : Checked Unit :=
  (Checked.all ((entries.filter fun entry => !known.contains entry.1).map fun entry =>
    (Checked.fail .unknownEntry : Checked Unit).within (.key entry.1))).map fun _ => ()

end ComponentGate.Intake
