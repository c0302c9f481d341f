import ComponentGate.Syntax.Blank

/-!
Lexemes: how many characters at the front of a text belong to one token. A scanner answers `none`
where no such token starts.
-/

namespace ComponentGate.Syntax.Lexeme

/-- Digits with single underscores between them. -/
def digitsAfter (isDigit : Char → Bool) : List Char → Nat
  | '_' :: c :: rest => if isDigit c then 2 + digitsAfter isDigit rest else 0
  | c :: rest => if isDigit c then 1 + digitsAfter isDigit rest else 0
  | [] => 0

def digits (isDigit : Char → Bool) : List Char → Option Nat
  | c :: rest => if isDigit c then some (1 + digitsAfter isDigit rest) else none
  | [] => none

/-- An exponent with its mark and sign; zero where there is none. -/
def exponent : List Char → Nat
  | mark :: rest =>
    if mark = 'e' ∨ mark = 'E' then
      match rest with
      | sign :: more =>
        if sign = '+' ∨ sign = '-' then ((digits isDecimalDigit more).map (· + 2)).getD 0
        else ((digits isDecimalDigit rest).map (· + 1)).getD 0
      | [] => 0
    else 0
  | [] => 0

/-- A digit sequence behind a base mark, with the mark of a big integer where it stands. -/
def based (isDigit : Char → Bool) (rest : List Char) : Option Nat :=
  (digits isDigit rest).map fun count =>
    if (rest.drop count).head? = some 'n' then count + 3 else count + 2

def decimalNumber (text : List Char) : Option Nat :=
  match text with
  | '.' :: rest => (digits isDecimalDigit rest).map fun count =>
      1 + count + exponent (rest.drop count)
  | _ => (digits isDecimalDigit text).map fun count =>
      match text.drop count with
      | 'n' :: _ => count + 1
      | '.' :: rest =>
        let fraction := (digits isDecimalDigit rest).getD 0
        count + 1 + fraction + exponent (rest.drop fraction)
      | rest => count + exponent rest

def number : List Char → Option Nat
  | '0' :: mark :: rest =>
    let plain := decimalNumber ('0' :: mark :: rest)
    if mark = 'x' ∨ mark = 'X' then (based isHexDigit rest).orElse fun _ => plain
    else if mark = 'b' ∨ mark = 'B' then
      (based (fun c => c == '0' || c == '1') rest).orElse fun _ => plain
    else if mark = 'o' ∨ mark = 'O' then (based isOctalDigit rest).orElse fun _ => plain
    else plain
  | text => decimalNumber text

/-- The body of a `\u` escape. -/
def unicodeEscape : List Char → Option Nat
  | '\x7b' :: rest =>
    let count := (rest.takeWhile isHexDigit).length
    if 0 < count ∧ (rest.drop count).head? = some '\x7d' then some (count + 2) else none
  | rest => if 4 ≤ ((rest.take 4).takeWhile isHexDigit).length then some 4 else none

/-- One character of a name, spelled plainly or as an escape. -/
def nameUnit (accepts : Char → Bool) : List Char → Option Nat
  | '\\' :: 'u' :: rest => (unicodeEscape rest).map (· + 2)
  | c :: _ => if accepts c then some 1 else none
  | [] => none

/-- The characters of a name after its first; `fuel` bounds their number. -/
def nameTail : Nat → List Char → Nat
  | 0, _ => 0
  | fuel + 1, text =>
    match nameUnit isNamePart text with
    | some count => count + nameTail fuel (text.drop count)
    | none => 0

def name (text : List Char) : Option Nat :=
  (nameUnit isNameStart text).map fun count => count + nameTail text.length (text.drop count)

def privateName : List Char → Option Nat
  | '#' :: rest => (name rest).map (· + 1)
  | _ => none

/-- A name that holds a hyphen after its ASCII opening, as attributes and tags may. -/
def hyphenatedName (text : List Char) : Option Nat :=
  let isPlain := fun (c : Char) => isAsciiLetter c || isDecimalDigit c || c == '_' || c == '$'
  match text with
  | c :: rest =>
    if isPlain c ∧ ¬ isDecimalDigit c then
      let opening := (rest.takeWhile isPlain).length
      let tail := (rest.drop opening).takeWhile fun c => isPlain c || c == '-'
      if tail.isEmpty then none else some (1 + opening + tail.length)
    else none
  | [] => none

/-- An escape in a string or template, its backslash included. -/
def escape : List Char → Option Nat
  | '\\' :: 'x' :: rest => if 2 ≤ ((rest.take 2).takeWhile isHexDigit).length then some 4 else none
  | '\\' :: 'u' :: rest => (unicodeEscape rest).map (· + 2)
  | '\\' :: '\r' :: '\n' :: _ => some 3
  | '\\' :: c :: rest =>
    if isOctalDigit c then some (2 + ((rest.take 2).takeWhile isOctalDigit).length) else some 2
  | _ => none

/-- A run of a string's plain characters. -/
def stringFragment (quote : Char) (text : List Char) : Option Nat :=
  let count := (text.takeWhile fun c => c ≠ quote ∧ c ≠ '\\' ∧ c ≠ '\r' ∧ c ≠ '\n').length
  if 0 < count then some count else none

/-- How many plain characters of a template come before its next escape, hole or end. -/
def templateRun : List Char → Nat
  | [] => 0
  | '`' :: _ => 0
  | '\\' :: _ => 0
  | '$' :: '\x7b' :: _ => 0
  | _ :: rest => 1 + templateRun rest

def templateFragment (text : List Char) : Option Nat :=
  let count := templateRun text
  if 0 < count ∧ count < text.length then some count else none

/-- The state while a regular expression is scanned: inside a class, and after a backslash. -/
def regexRun : Bool → Bool → List Char → Option Nat
  | _, _, [] => none
  | inClass, escaped, c :: rest =>
    if c = '\n' then none
    else if escaped then (regexRun inClass false rest).map (· + 1)
    else if c = '\\' then (regexRun inClass true rest).map (· + 1)
    else if inClass then (regexRun (c ≠ ']') false rest).map (· + 1)
    else if c = '/' then some 0
    else (regexRun (c = '[') false rest).map (· + 1)

/-- The pattern of a regular expression, up to its closing slash. -/
def regexPattern (text : List Char) : Option Nat :=
  match regexRun false false text with
  | some (count + 1) => some (count + 1)
  | _ => none

/-- A character reference of markup, such as the one for an ampersand. -/
def characterReference : List Char → Option Nat
  | '&' :: '#' :: mark :: rest =>
    let body := if mark = 'x' ∨ mark = 'X' then
        let count := (rest.takeWhile isHexDigit).length
        if 0 < count ∧ count ≤ 6 then some (count + 3) else none
      else
        let count := ((mark :: rest).takeWhile isDecimalDigit).length
        if 0 < count ∧ count ≤ 5 then some (count + 2) else none
    body.bind fun count =>
      if (('&' :: '#' :: mark :: rest).drop count).head? = some ';' then some (count + 1) else none
  | '&' :: rest =>
    let count := (rest.takeWhile isAsciiLetter).length
    if 0 < count ∧ count ≤ 30 ∧ (rest.drop count).head? = some ';' then some (count + 2) else none
  | _ => none

/-- A run of plain characters in an attribute's string: an ampersand belongs to it only where no
character reference can start. -/
def attributeRun (quote : Char) : List Char → Nat
  | '&' :: c :: rest =>
    if c ≠ '#' ∧ !isAsciiLetter c then
      if c = quote then 2 else 2 + attributeRun quote rest
    else 0
  | c :: rest => if c = quote ∨ c = '&' then 0 else 1 + attributeRun quote rest
  | [] => 0

def attributeFragment (quote : Char) (text : List Char) : Option Nat :=
  let count := attributeRun quote text
  if 0 < count then some count else none

/-- Scans running text between tags. Blanks that follow a line feed do not count as text: `atLine`
says that only such blanks were seen since the last one, `seen` that something else was. -/
def markupRun : Bool → Bool → List Char → Nat → Option Nat
  | _, seen, [], count => if seen then some count else none
  | atLine, seen, c :: rest, count =>
    if "<>\x7b\x7d&".toList.contains c then (if seen then some count else none)
    else if c = '\n' then markupRun true seen rest (count + 1)
    else
      let atLine := atLine && isLineBlank c
      markupRun atLine (seen || !atLine) rest (count + 1)

def markupText (text : List Char) : Option Nat := markupRun false false text 0

end ComponentGate.Syntax.Lexeme
