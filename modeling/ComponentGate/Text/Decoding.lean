import ComponentGate.Text.Quoted

/-!
Reading text from bytes in the encoding UTF-8. Bytes that encode nothing are reported with their place
and with what is wrong with the first of them.
-/

namespace ComponentGate.Text

inductive DecodingFault where
  | invalidStart
  | invalidContinuation
  | unexpectedEnd
  deriving DecidableEq, Repr

def DecodingFault.message : DecodingFault → String
  | .invalidStart => "invalid start byte"
  | .invalidContinuation => "invalid continuation byte"
  | .unexpectedEnd => "unexpected end of data"

/-- The bytes from `start` up to `stop` encode nothing; `byte` is the first of them. -/
structure DecodingError where
  fault : DecodingFault
  start : Nat
  stop : Nat
  byte : UInt8
  deriving DecidableEq, Repr

def DecodingError.message (error : DecodingError) : String :=
  let place :=
    if error.stop = error.start + 1 then
      s!"byte 0x{String.ofList (hexadecimal 2 error.byte.toNat)} in position {error.start}"
    else s!"bytes in position {error.start}-{error.stop - 1}"
  s!"'utf-8' codec can't decode {place}: {error.fault.message}"

/-- How many bytes follow the first one of a character. -/
def followers? (lead : UInt8) : Option Nat :=
  if lead < 0x80 then some 0
  else if lead < 0xC2 then none
  else if lead < 0xE0 then some 1
  else if lead < 0xF0 then some 2
  else if lead < 0xF5 then some 3
  else none

/-- Whether a byte may come second: some first bytes leave out characters that have a shorter form or
that are none. -/
def maySecond (lead byte : UInt8) : Bool :=
  let least : UInt8 := if lead = 0xE0 then 0xA0 else if lead = 0xF0 then 0x90 else 0x80
  let greatest : UInt8 := if lead = 0xED then 0x9F else if lead = 0xF4 then 0x8F else 0xBF
  least ≤ byte && byte ≤ greatest

def mayFollow (byte : UInt8) : Bool := 0x80 ≤ byte && byte ≤ 0xBF

/-- How many of the first `count` bytes may follow a first byte one after the other. -/
def followersPresent (lead : UInt8) (count : Nat) (bytes : List UInt8) : Nat :=
  match bytes.take count with
  | [] => 0
  | second :: rest =>
    if maySecond lead second then 1 + (rest.takeWhile mayFollow).length else 0

/-- What is wrong with bytes, the first of which stands at `offset`. -/
def decodingError? (offset : Nat) : List UInt8 → Option DecodingError
  | [] => none
  | lead :: rest =>
    match followers? lead with
    | none => some ⟨.invalidStart, offset, offset + 1, lead⟩
    | some count =>
      let present := followersPresent lead count rest
      if present = count then decodingError? (offset + 1 + count) (rest.drop count)
      else if present = rest.length then
        some ⟨.unexpectedEnd, offset, offset + 1 + present, lead⟩
      else some ⟨.invalidContinuation, offset, offset + 1 + present, lead⟩
termination_by bytes => bytes.length
decreasing_by all_goals grind

def decode (bytes : ByteArray) : Except DecodingError String :=
  match String.fromUTF8? bytes with
  | some text => .ok text
  | none =>
    match decodingError? 0 bytes.toList with
    | some error => .error error
    | none => .ok ""

/-- A text in which all line ends are line feeds: a carriage return, alone or with a line feed behind
it, is one, too. -/
def withLineFeeds : List Char → List Char
  | [] => []
  | '\r' :: '\n' :: rest => '\n' :: withLineFeeds rest
  | c :: rest => (if c = '\r' then '\n' else c) :: withLineFeeds rest

end ComponentGate.Text
