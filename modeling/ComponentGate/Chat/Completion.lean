import ComponentGate.Chat.Exchange
import ComponentGate.Chat.Fences
import ComponentGate.Prompt.System

/-!
Asking a model: a system prompt and a user's message go out, a reply comes back. `generate` asks for
code and takes it out of its fences.
-/

namespace ComponentGate.Chat

/-- Numbers that the provider takes as they are; absent ones are not sent. -/
structure Sampling where
  temperature : Option Json
  maxTokens : Option Json
  deriving Repr, Inhabited

def roleMessage (role text : String) : Json :=
  .object [("role", .string role), ("content", .string text)]

/-- The body of a request. -/
def payload (model system user : String) (sampling : Sampling) : Json :=
  let numbers :=
    (sampling.temperature.map fun value => ("temperature", value)).toList ++
      (sampling.maxTokens.map fun value => ("max_tokens", value)).toList
  .object ([("model", .string model),
    ("messages", .array [roleMessage "system" system, roleMessage "user" user])] ++ numbers)

/-- The reply in a body, if it has a length. -/
def measuredReply (body : Json) : Except ChatError Json :=
  match reply body with
  | .error error => .error (.noReply error)
  | .ok (.bool value) => .error (.noLength (Json.bool value).typeName)
  | .ok (.integer value) => .error (.noLength (Json.integer value).typeName)
  | .ok (.binary value) => .error (.noLength (Json.binary value).typeName)
  | .ok value => .ok value

/-- A model that is asked over a connection; `arrivals` says what comes of its requests, counted from
the first one of the session. -/
structure Session where
  connection : Connection
  attempts : Int
  jitter : Binary64
  arrivals : Nat → Arrival

/-- What comes of a request of one exchange, after `sent` earlier requests of the session. -/
def Session.outcome (session : Session) (sent number : Nat) : Except ChatError Json :=
  bodyOf session.connection.profile.name (session.arrivals (sent + number - 1))

/-- Asks once, after `sent` earlier requests of the session; each wait has its own jitter. -/
def Session.completeWith (session : Session) (jitters : Nat → Binary64) (sent : Nat) :
    Exchange Json :=
  let done := exchange (session.outcome sent) jitters session.attempts
  ⟨done.requests, done.waits, done.result.bind measuredReply⟩

/-- Asks once, with the jitter of the session for every wait. -/
def Session.complete (session : Session) (sent : Nat) : Exchange Json :=
  session.completeWith (fun _ => session.jitter) sent

/-- The code in a reply. -/
def codeOf : Json → Except ChatError String
  | .string text =>
    let code := withoutFences text
    if code.isEmpty then .error .emptyReply else .ok code
  | value => .error (.noText value.typeName)

def Session.generate (session : Session) (sent : Nat) : Exchange String :=
  let done := session.complete sent
  ⟨done.requests, done.waits, done.result.bind codeOf⟩

/-- The system prompt that a caller sets, or the usual one. -/
def systemPrompt (given : Option String) (typed : Bool) : String :=
  (firstFilled [given]).getD (Prompt.system typed)

end ComponentGate.Chat
