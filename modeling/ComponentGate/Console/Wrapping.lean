import ComponentGate.Console.Width
import ComponentGate.Text.Blank

/-!
Lines broken between words so that they fit a number of cells. Blanks stay with the word before them;
a word that fits no line is folded over several ones, or stands on a line of its own and loses its
end.
-/

namespace ComponentGate.Console

/-- What becomes of a word that fits no line. -/
inductive Overflow where
  | fold
  | ellipsis
  deriving DecidableEq, Repr

/-- The words of a line with the blanks behind them; the first one also has the blanks before it. -/
def spacedWords : List Char → List (List Char)
  | [] => []
  | c :: rest =>
    let word := if Text.isBlank c then rest.dropWhile Text.isBlank else rest
    let next := (word.dropWhile (!Text.isBlank ·)).dropWhile Text.isBlank
    let here := c :: rest.take (rest.length - next.length)
    if next.isEmpty then [here] else here :: spacedWords next
termination_by line => line.length
decreasing_by
  have := (List.dropWhile_suffix (l := rest) Text.isBlank).length_le
  have := (List.dropWhile_suffix (l := word) (!Text.isBlank ·)).length_le
  have := (List.dropWhile_suffix (l := word.dropWhile (!Text.isBlank ·)) Text.isBlank).length_le
  grind

/-- Parts of a word that take at most `limit` cells each, behind the characters of the part that has
begun, which take `cells` cells. -/
def foldedParts (limit : Nat) (begun : List Char) (cells : Nat) : List Cluster → List (List Char)
  | [] => [begun]
  | cluster :: rest =>
    if cells + cluster.cells ≤ limit then
      foldedParts limit (begun ++ cluster.characters) (cells + cluster.cells) rest
    else begun :: foldedParts limit cluster.characters cluster.cells rest

/-- Lines that are done, the last one first, and the line that has begun. -/
structure Wrapping where
  finished : List (List Char)
  begun : List Char
  deriving DecidableEq, Repr

namespace Wrapping

def lines (wrapping : Wrapping) : List (List Char) := (wrapping.begun :: wrapping.finished).reverse

/-- Begins a line with a text; the first line of all needs no break before it. -/
def startLine (wrapping : Wrapping) (text : List Char) : Wrapping :=
  match wrapping with
  | ⟨[], []⟩ => ⟨[], text⟩
  | ⟨finished, begun⟩ => ⟨begun :: finished, text⟩

/-- Puts a word behind the line that has begun if its characters but the last blanks fit there. -/
def addWord (overflow : Overflow) (limit : Nat) (wrapping : Wrapping) (word : List Char) : Wrapping :=
  let cells := width (Text.trimEnd word)
  if width wrapping.begun + cells ≤ limit then ⟨wrapping.finished, wrapping.begun ++ word⟩
  else if overflow = .fold ∧ limit < cells then
    (foldedParts limit [] 0 (clusters word)).foldl startLine wrapping
  else wrapping.startLine word

end Wrapping

/-- A line without those blanks at its end that stand beyond a number of characters. -/
def withoutExcess (limit : Nat) (line : List Char) : List Char :=
  let blanks := (line.reverse.takeWhile Text.isBlank).length
  line.take (line.length - min blanks (line.length - limit))

/-- A line broken between its words. -/
def brokenLines (overflow : Overflow) (limit : Nat) (line : List Char) : List (List Char) :=
  let wrapping := (spacedWords line).foldl (Wrapping.addWord overflow limit) ⟨[], []⟩
  wrapping.lines.map (withoutExcess limit)

/-- A line without what stands beyond a number of cells. -/
def truncated (overflow : Overflow) (limit : Nat) (line : List Char) : List Char :=
  if width line ≤ limit then line
  else
    match overflow with
    | .fold => cropped limit line
    | .ellipsis => cropped (limit - 1) line ++ ['…']

end ComponentGate.Console
