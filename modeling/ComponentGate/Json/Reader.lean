import ComponentGate.Json.Value
import ComponentGate.Number.Reading

/-!
Reading JSON text. Besides the format's own numbers, the words for infinity and for no number are
taken. Of an object's entries under one key the last one counts.
-/

namespace ComponentGate.Json

/-- What is left of a text. -/
abbrev Rest := List Char

def isSpace (c : Char) : Bool := c == ' ' || c == '\t' || c == '\n' || c == '\r'

def skipSpace (text : List Char) : List Char := text.dropWhile isSpace

def hexDigit? (c : Char) : Option Nat :=
  if '0' ≤ c ∧ c ≤ '9' then some (c.toNat - '0'.toNat)
  else if 'a' ≤ c ∧ c ≤ 'f' then some (c.toNat - 'a'.toNat + 10)
  else if 'A' ≤ c ∧ c ≤ 'F' then some (c.toNat - 'A'.toNat + 10)
  else none

/-- The four hexadecimal digits of an escaped unit. -/
def unit? : List Char → Option (Nat × Rest)
  | a :: b :: c :: d :: rest => do
    let a ← hexDigit? a
    let b ← hexDigit? b
    let c ← hexDigit? c
    let d ← hexDigit? d
    return (((a * 16 + b) * 16 + c) * 16 + d, rest)
  | _ => none

def isHighSurrogate (unit : Nat) : Bool := 0xD800 ≤ unit && unit < 0xDC00

def isLowSurrogate (unit : Nat) : Bool := 0xDC00 ≤ unit && unit < 0xE000

/-- The character of one escaped unit or of two that belong together. -/
def escapedUnit? (text : List Char) : Option (Char × Rest) := do
  let (unit, rest) ← unit? text
  if isHighSurrogate unit then
    match rest with
    | '\\' :: 'u' :: more => do
      let (low, rest) ← unit? more
      if isLowSurrogate low then
        some (Char.ofNat (0x10000 + (unit - 0xD800) * 0x400 + (low - 0xDC00)), rest)
      else none
    | _ => none
  else if isLowSurrogate unit then none
  else some (Char.ofNat unit, rest)

def escape? : List Char → Option (Char × Rest)
  | '"' :: rest => some ('"', rest)
  | '\\' :: rest => some ('\\', rest)
  | '/' :: rest => some ('/', rest)
  | 'b' :: rest => some ('\x08', rest)
  | 'f' :: rest => some ('\x0c', rest)
  | 'n' :: rest => some ('\n', rest)
  | 'r' :: rest => some ('\r', rest)
  | 't' :: rest => some ('\t', rest)
  | 'u' :: rest => escapedUnit? rest
  | _ => none

/-- The characters of a text up to its closing quote; `fuel` bounds their number. -/
def characters : Nat → List Char → List Char → Option (List Char × Rest)
  | 0, _, _ => none
  | _, _, [] => none
  | _, done, '"' :: rest => some (done.reverse, rest)
  | fuel + 1, done, '\\' :: rest =>
    match escape? rest with
    | some (c, rest) => characters fuel (c :: done) rest
    | none => none
  | fuel + 1, done, c :: rest => if c.toNat < 0x20 then none else characters fuel (c :: done) rest

def text? (text : List Char) : Option (String × Rest) :=
  (characters (text.length + 1) [] text).map fun (characters, rest) =>
    (String.ofList characters, rest)

/-- Digits behind a mark that asks for at least one. -/
def digits? (text : List Char) : Option (List Char × Rest) :=
  let digits := text.takeWhile Binary64.isDigit
  if digits.isEmpty then none else some (digits, text.dropWhile Binary64.isDigit)

/-- The exponent that may follow a number's digits. -/
def numberExponent (text : List Char) : Option Int × Rest :=
  match text with
  | mark :: rest =>
    if mark = 'e' ∨ mark = 'E' then
      let (negative, behind) := Binary64.splitSign rest
      match digits? behind with
      | some (digits, rest) =>
        let size : Int := digitsValue digits
        (some (if negative then -size else size), rest)
      | none => (none, text)
    else (none, text)
  | [] => (none, text)

/-- Whole numbers with more digits are not read. -/
def digitLimit : Nat := 4300

def unsigned? (negative : Bool) (text : List Char) : Option (Json × Rest) := do
  let (whole, rest) ← digits? text
  if whole.head? = some '0' ∧ 1 < whole.length then none
  else
    let (fraction, rest) :=
      match rest with
      | '.' :: behind =>
        match digits? behind with
        | some (fraction, rest) => (fraction, rest)
        | none => ([], rest)
      | _ => ([], rest)
    let (exponent, rest) := numberExponent rest
    let digits := digitsValue (whole ++ fraction)
    if fraction.isEmpty && exponent.isNone then
      let size : Int := digits
      if digitLimit < whole.length then none
      else some (.integer (if negative then -size else size), rest)
    else
      some (.binary (Binary64.ofDecimal negative digits (exponent.getD 0 - fraction.length)), rest)

/-- A fixed word at the front of a text. -/
def word? (word : String) (value : Json) (text : List Char) : Option (Json × Rest) :=
  if word.toList.isPrefixOf text then some (value, text.drop word.length) else none

def atom? (text : List Char) : Option (Json × Rest) :=
  match text with
  | 'n' :: _ => word? "null" .null text
  | 't' :: _ => word? "true" (.bool true) text
  | 'f' :: _ => word? "false" (.bool false) text
  | 'N' :: _ => word? "NaN" (.binary .nan) text
  | 'I' :: _ => word? "Infinity" (.binary (.infinite false)) text
  | '-' :: 'I' :: _ => word? "-Infinity" (.binary (.infinite true)) text
  | '-' :: rest => unsigned? true rest
  | '"' :: rest => (text? rest).map fun (text, rest) => (.string text, rest)
  | _ => unsigned? false text

mutual

/-- One value at the front of a text; `fuel` bounds the number of values. -/
def value? : Nat → List Char → Option (Json × Rest)
  | 0, _ => none
  | fuel + 1, text =>
    match skipSpace text with
    | '[' :: rest =>
      match skipSpace rest with
      | ']' :: rest => some (.array [], rest)
      | rest => items? fuel [] rest
    | '\x7b' :: rest =>
      match skipSpace rest with
      | '\x7d' :: rest => some (.object [], rest)
      | rest => entries? fuel [] rest
    | text => atom? text

/-- The items of an array, behind those already read. -/
def items? : Nat → List Json → List Char → Option (Json × Rest)
  | 0, _, _ => none
  | fuel + 1, items, text =>
    match value? fuel text with
    | none => none
    | some (item, rest) =>
      match skipSpace rest with
      | ',' :: rest => items? fuel (item :: items) rest
      | ']' :: rest => some (.array (item :: items).reverse, rest)
      | _ => none

/-- The entries of an object, behind those already read. -/
def entries? : Nat → List (String × Json) → List Char → Option (Json × Rest)
  | 0, _, _ => none
  | fuel + 1, entries, text =>
    match skipSpace text with
    | '"' :: rest =>
      match text? rest with
      | none => none
      | some (key, rest) =>
        match skipSpace rest with
        | ':' :: rest =>
          match value? fuel rest with
          | none => none
          | some (value, rest) =>
            match skipSpace rest with
            | ',' :: rest => entries? fuel ((key, value) :: entries) rest
            | '\x7d' :: rest =>
              some (.object (Entries.ofPairs ((key, value) :: entries).reverse), rest)
            | _ => none
        | _ => none
    | _ => none

end

/-- The value that a whole text spells. -/
def read? (text : String) : Option Json :=
  let characters := text.toList
  match value? (2 * characters.length + 2) characters with
  | some (value, rest) => if (skipSpace rest).isEmpty then some value else none
  | none => none

end ComponentGate.Json
