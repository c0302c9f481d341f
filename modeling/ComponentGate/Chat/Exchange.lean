import ComponentGate.Chat.Profile
import ComponentGate.Chat.Reply
import ComponentGate.Json.Reader
import ComponentGate.Number.Reading

/-!
Exchanges with a provider. A request is sent again after failures that may pass: rate limits, failures
of the server and of the network. Between two requests there is one wait, as long as the provider asks
for, or else growing with the number of requests; the last request decides the result.
-/

namespace ComponentGate.Chat

structure Response where
  status : Nat
  headers : List (String × String)
  text : String
  deriving DecidableEq, Repr, Inhabited

/-- The values of a header, whose name counts without its case. -/
def Response.header? (response : Response) (name : String) : Option String :=
  let lower := fun (text : String) => text.toList.map Char.toLower
  match response.headers.filter fun header => lower header.1 == lower name with
  | [] => none
  | values => some (", ".intercalate (values.map (·.2)))

/-- What kind of failure a transport reports. -/
inductive FaultKind where
  | timeout | network | other
  deriving DecidableEq, Repr, Inhabited

/-- A failure before any response, by the name that the transport gives it. -/
structure Fault where
  name : String
  message : String
  deriving DecidableEq, Repr, Inhabited

def timeoutNames : List String :=
  ["TimeoutException", "ConnectTimeout", "ReadTimeout", "WriteTimeout", "PoolTimeout"]

def networkNames : List String :=
  ["NetworkError", "ConnectError", "ReadError", "WriteError", "CloseError"]

def Fault.kind (fault : Fault) : FaultKind :=
  if timeoutNames.contains fault.name then .timeout
  else if networkNames.contains fault.name then .network
  else .other

/-- What comes of one request. -/
inductive Arrival where
  | response (response : Response)
  | fault (fault : Fault)
  deriving DecidableEq, Repr, Inhabited

inductive ChatError where
  | unauthorized (status : Nat) (detail : String)
  | rateLimited (detail : String) (retryAfter : Option Binary64)
  | serverFailed (status : Nat) (detail : String)
  | refused (status : Nat) (detail : String)
  | unreadable (provider text : String)
  | noReply (error : ReplyError)
  /-- The reply is a value that has no length. -/
  | noLength (type : String)
  /-- The reply is a value, but no text, where code is looked for. -/
  | noText (type : String)
  | emptyReply
  | transport (fault : Fault)
  deriving Repr

def ChatError.message : ChatError → String
  | .unauthorized _ detail => detail
  | .rateLimited detail retryAfter =>
    match retryAfter with
    | some seconds => s!"{detail} (retry after {seconds.toText}s)"
    | none => detail
  | .serverFailed _ detail => detail
  | .refused _ detail => detail
  | .unreadable provider text => s!"{provider} returned a non-JSON body: {excerpt text}"
  | .noReply error => error.message
  | .noLength type => s!"object of type '{type}' has no len()"
  | .noText type => s!"expected string or bytes-like object, got '{type}'"
  | .emptyReply => "Model returned no source text"
  | .transport fault => fault.message

/-- The seconds that a provider asks to wait. -/
def Response.retryAfter? (response : Response) : Option Binary64 :=
  (response.header? "Retry-After").bind Binary64.ofText?

/-- The error that a response's status stands for. -/
def statusError? (provider : String) (response : Response) : Option ChatError :=
  let status := response.status
  let detail := s!"{provider} returned HTTP {status}: {excerpt response.text}"
  if status < 400 then none
  else if status = 401 ∨ status = 403 then some (.unauthorized status detail)
  else if status = 429 then some (.rateLimited detail response.retryAfter?)
  else if 500 ≤ status then some (.serverFailed status detail)
  else some (.refused status detail)

/-- Whether another request may fare better. -/
def ChatError.isTransient : ChatError → Bool
  | .rateLimited .. => true
  | .serverFailed .. => true
  | .transport fault => fault.kind ≠ .other
  | _ => false

/-- A mark of the encoding that a body may begin with. -/
def byteOrderMark : Char := '\ufeff'

def readBody (text : String) : Option Json :=
  match text.toList with
  | c :: rest => if c = byteOrderMark then Json.read? (String.ofList rest) else Json.read? text
  | [] => none

/-- The body that a request brings, or what went wrong. -/
def bodyOf (provider : String) : Arrival → Except ChatError Json
  | .fault fault => .error (.transport fault)
  | .response response =>
    match statusError? provider response with
    | some error => .error error
    | none =>
      match readBody response.text with
      | some body => .ok body
      | none => .error (.unreadable provider response.text)

/-- No wait that is asked for is longer. -/
def longestWait : Nat := 30

/-- The wait after the request of a number: twice as long each time, but at least one second and at
most the longest wait, and twice the jitter on top. -/
def backoff (number : Nat) (jitter : Binary64) : Binary64 :=
  Binary64.add (.ofNat (max 1 (min (Nat.pow 2 (number - 1)) longestWait))) jitter.double

/-- The wait after an error of the request of a number. -/
def waitAfter (error : ChatError) (number : Nat) (jitter : Binary64) : Binary64 :=
  match error with
  | .rateLimited _ (some seconds) => Binary64.least seconds (.ofNat longestWait)
  | _ => backoff number jitter

/-- All requests of an exchange, the waits between them, and what the last one brought. -/
structure Exchange (α : Type) where
  requests : Nat
  waits : List Binary64
  result : Except ChatError α

/-- Sends the request of a number, and as often again as `retries` says while errors are transient.
`outcome` says what comes of each request, the first of which has number one, and `jitters` what is
drawn for the wait after it. -/
def exchangeFrom (outcome : Nat → Except ChatError α) (jitters : Nat → Binary64) :
    Nat → Nat → Exchange α
  | number, 0 => ⟨1, [], outcome number⟩
  | number, retries + 1 =>
    match outcome number with
    | .error error =>
      if error.isTransient then
        let later := exchangeFrom outcome jitters (number + 1) retries
        ⟨later.requests + 1, waitAfter error number (jitters number) :: later.waits, later.result⟩
      else ⟨1, [], .error error⟩
    | .ok value => ⟨1, [], .ok value⟩

/-- An exchange of at most `attempts` requests, and of one at least. -/
def exchange (outcome : Nat → Except ChatError α) (jitters : Nat → Binary64) (attempts : Int) :
    Exchange α :=
  exchangeFrom outcome jitters 1 (attempts - 1).toNat

end ComponentGate.Chat
