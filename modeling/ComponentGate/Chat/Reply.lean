import ComponentGate.Json.Shown

/-!
The reply in the body of a chat completion: the content of the message of the first choice. Content in
parts is joined; content that is absent or says nothing is the empty text.
-/

namespace ComponentGate.Chat

/-- Why a value does not have a part that a completion has. -/
inductive Misshape where
  /-- An object without an entry under `key`. -/
  | noEntry (key : String)
  /-- An object where a list was looked for. -/
  | notOrdered
  | emptyList
  | emptyText
  /-- A list where an object was looked for. -/
  | listWithoutKeys
  | textWithoutKeys
  /-- A value without parts. -/
  | noParts (type : String)
  /-- A message that is no object. -/
  | noMessage (type : String)
  deriving DecidableEq, Repr

def Misshape.message : Misshape → String
  | .noEntry key => s!"KeyError({Text.quoted key})"
  | .notOrdered => "KeyError(0)"
  | .emptyList => "IndexError('list index out of range')"
  | .emptyText => "IndexError('string index out of range')"
  | .listWithoutKeys => "TypeError('list indices must be integers or slices, not str')"
  | .textWithoutKeys => "TypeError(\"string indices must be integers, not 'str'\")"
  | .noParts type => s!"TypeError(\"'{type}' object is not subscriptable\")"
  | .noMessage type => s!"AttributeError(\"'{type}' object has no attribute 'get'\")"

inductive ReplyError where
  | malformed (misshape : Misshape) (body : Json)
  /-- The text of a part, counted among the parts that are objects, is none. -/
  | partNotText (position : Nat) (type : String)
  deriving Repr

/-- Messages quote at most this many characters of a body. -/
def excerptLimit : Nat := 500

def excerpt (text : String) : String := String.ofList (text.toList.take excerptLimit)

def ReplyError.message : ReplyError → String
  | .malformed misshape body =>
    s!"Not a chat completion ({misshape.message}): {excerpt body.shownAlone}"
  | .partNotText position type =>
    s!"sequence item {position}: expected str instance, {type} found"

/-- The part of a value under a key. -/
def entryUnder (key : String) : Json → Except Misshape Json
  | .object entries =>
    match Entries.get? entries key with
    | some value => .ok value
    | none => .error (.noEntry key)
  | .array _ => .error .listWithoutKeys
  | .string _ => .error .textWithoutKeys
  | value => .error (.noParts value.typeName)

/-- The first part of a value. -/
def firstOf : Json → Except Misshape Json
  | .object _ => .error .notOrdered
  | .array items =>
    match items with
    | item :: _ => .ok item
    | [] => .error .emptyList
  | .string text =>
    match text.toList with
    | c :: _ => .ok (.string (String.singleton c))
    | [] => .error .emptyText
  | value => .error (.noParts value.typeName)

/-- The content of a message; null where it has none. -/
def contentOf : Json → Except Misshape Json
  | .object entries => .ok ((Entries.get? entries "content").getD .null)
  | value => .error (.noMessage value.typeName)

/-- The content of the first choice's message. -/
def content (body : Json) : Except Misshape Json := do
  contentOf (← entryUnder "message" (← firstOf (← entryUnder "choices" body)))

/-- The texts of the parts that are objects; a part without a text has an empty one. -/
def partTexts (parts : List Json) : List Json :=
  parts.filterMap fun part =>
    match part with
    | .object entries => some ((Entries.get? entries "text").getD (.string ""))
    | _ => none

/-- Joins texts, the first of which stands at `position`. -/
def joinTexts (position : Nat) : List Json → Except ReplyError String
  | [] => .ok ""
  | .string text :: rest => (joinTexts (position + 1) rest).map (text ++ ·)
  | value :: _ => .error (.partNotText position value.typeName)

/-- Whether a value says nothing: null, false, zero, or without characters or entries. -/
def saysNothing : Json → Bool
  | .null => true
  | .bool value => !value
  | .integer value => value == 0
  | .binary value => value.isZero
  | .string text => text.isEmpty
  | .array items => items.isEmpty
  | .object entries => entries.isEmpty

/-- The reply in a body. It is a text unless the content is a value of another kind that says
something. -/
def reply (body : Json) : Except ReplyError Json :=
  match content body with
  | .error misshape => .error (.malformed misshape body)
  | .ok (.array parts) => (joinTexts 0 (partTexts parts)).map Json.string
  | .ok value => .ok (if saysNothing value then .string "" else value)

end ComponentGate.Chat
