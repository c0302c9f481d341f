/-!
Removing what matches a pattern from a text. The text is read once from the front; what a removal
brings together is not looked at again.
-/

namespace ComponentGate.Text

/-- How many characters a pattern takes from the front of a text, where it matches there. A match
takes at least one. -/
abbrev Pattern := List Char → Option Nat

/-- The text without the matches, the first of which is taken wherever two overlap. -/
def removeMatches (pattern : Pattern) : List Char → List Char
  | [] => []
  | c :: rest =>
    match pattern (c :: rest) with
    | some count => removeMatches pattern (rest.drop (count - 1))
    | none => c :: removeMatches pattern rest
termination_by text => text.length
decreasing_by all_goals grind

/-- The text without the matches that begin a line. -/
def removeAtLineStarts (pattern : Pattern) : Bool → List Char → List Char
  | _, [] => []
  | atLineStart, c :: rest =>
    match if atLineStart then pattern (c :: rest) else none with
    | some count =>
      let taken := (c :: rest).take count
      removeAtLineStarts pattern (taken.getLast? == some '\n') (rest.drop (count - 1))
    | none => c :: removeAtLineStarts pattern (c == '\n') rest
termination_by _ text => text.length
decreasing_by all_goals grind

/-- Letters without their case. The long s and the i with and without a dot count as the plain
letters, too. -/
def folded (c : Char) : Char :=
  if c = 'ſ' then 's' else if c = 'İ' ∨ c = 'ı' then 'i' else c.toLower

/-- Whether a text begins with a word in any case; the word is given in lower case. -/
def beginsWithWord (word : String) (text : List Char) : Bool :=
  (text.take word.length).map folded == word.toList

/-- The number of characters before the first place where a text has a word, in any case. -/
def wordOffset? (word : String) : List Char → Option Nat
  | [] => if word.isEmpty then some 0 else none
  | c :: rest =>
    if beginsWithWord word (c :: rest) then some 0 else (wordOffset? word rest).map (· + 1)

end ComponentGate.Text
