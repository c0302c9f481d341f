import ComponentGate.Number.Binary64
import ComponentGate.Text.Blank

/-!
Reading numbers from text. `ofText?` takes what people write for a quantity: blanks around it,
underscores between digits, the words for infinity and for no number.
-/

namespace ComponentGate

/-- A run of decimal digits as a number. -/
def digitsValue (digits : List Char) : Nat :=
  digits.foldl (fun value c => value * 10 + (c.toNat - '0'.toNat)) 0

namespace Binary64

def isDigit (c : Char) : Bool := '0' ≤ c && c ≤ '9'

/-- Removes underscores that stand between digits; fails on any other underscore. -/
def withoutUnderscores (previousIsDigit : Bool) : List Char → Option (List Char)
  | [] => some []
  | '_' :: rest =>
    if previousIsDigit && rest.head?.any isDigit then withoutUnderscores false rest else none
  | c :: rest => (withoutUnderscores (isDigit c) rest).map (c :: ·)

/-- The sign in front of a text, and the text behind it. -/
def splitSign : List Char → Bool × List Char
  | '-' :: rest => (true, rest)
  | '+' :: rest => (false, rest)
  | text => (false, text)

/-- A signed whole number and nothing behind it. -/
def exponent? (text : List Char) : Option Int :=
  let (negative, digits) := splitSign text
  if digits.isEmpty || !digits.all isDigit then none
  else some (if negative then -(digitsValue digits : Int) else digitsValue digits)

/-- Digits with at most one point, and perhaps an exponent. -/
def decimal? (negative : Bool) (text : List Char) : Option Binary64 :=
  let whole := text.takeWhile isDigit
  let afterWhole := text.dropWhile isDigit
  let (fraction, afterFraction) :=
    match afterWhole with
    | '.' :: rest => (rest.takeWhile isDigit, rest.dropWhile isDigit)
    | _ => ([], afterWhole)
  if whole.isEmpty && fraction.isEmpty then none
  else
    let digits := digitsValue (whole ++ fraction)
    match afterFraction with
    | [] => some (ofDecimal negative digits (-fraction.length))
    | mark :: rest =>
      if mark = 'e' ∨ mark = 'E' then
        (exponent? rest).map fun exponent => ofDecimal negative digits (exponent - fraction.length)
      else none

def ofText? (text : String) : Option Binary64 := do
  let plain ← withoutUnderscores false (Text.trim text.toList)
  let (negative, rest) := splitSign plain
  let word := String.ofList (rest.map Char.toLower)
  if word = "inf" ∨ word = "infinity" then some (.infinite negative)
  else if word = "nan" then some .nan
  else decimal? negative rest

end Binary64

end ComponentGate
