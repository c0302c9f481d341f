/-!
Likeness of words. Two words are alike when runs that they share, taken from the longest one on, make
up most of them.
-/

namespace ComponentGate.Text

/-- How many characters two texts share from their start on. -/
def commonStart : List Char → List Char → Nat
  | a :: first, b :: second => if a = b then commonStart first second + 1 else 0
  | _, _ => 0

/-- A run that two texts share: where it starts in each, and its length. -/
structure SharedRun where
  first : Nat
  second : Nat
  length : Nat
  deriving DecidableEq, Repr

/-- All pairs of places in two texts, with the run that starts there. -/
def sharedRuns (first second : List Char) : List SharedRun :=
  (List.range first.length).flatMap fun i =>
    (List.range second.length).map fun j => ⟨i, j, commonStart (first.drop i) (second.drop j)⟩

/-- The longest shared run; of several the one that comes first. -/
def longestRun (first second : List Char) : SharedRun :=
  (sharedRuns first second).foldl
    (fun best run => if best.length < run.length then run else best) ⟨0, 0, 0⟩

/-- The characters in shared runs: the longest one, and those before and behind it. `fuel` bounds the
number of runs that lie inside each other. -/
def sharedWithin : Nat → List Char → List Char → Nat
  | 0, _, _ => 0
  | fuel + 1, first, second =>
    let run := longestRun first second
    if run.length = 0 then 0
    else
      sharedWithin fuel (first.take run.first) (second.take run.second) + run.length +
        sharedWithin fuel (first.drop (run.first + run.length)) (second.drop (run.second + run.length))

def sharedCount (first second : String) : Nat :=
  sharedWithin (first.length + 1) first.toList second.toList

/-- Whether at least six tenths of two words are shared. -/
def isAlike (first second : String) : Bool :=
  6 * (first.length + second.length) ≤ 10 * (2 * sharedCount first second)

/-- Whether `first` is not less like a word than `second`; of equally like ones the later in the order
of characters comes first. -/
def notLessLike (word first second : String) : Bool :=
  let forFirst := sharedCount first word * (second.length + word.length)
  let forSecond := sharedCount second word * (first.length + word.length)
  forSecond < forFirst || (forFirst == forSecond && second ≤ first)

/-- No more words than this are proposed. -/
def proposalLimit : Nat := 3

/-- The words like a given one, the most like ones first. -/
def alike (word : String) (known : List String) : List String :=
  ((known.filter fun candidate => isAlike candidate word).mergeSort (notLessLike word)).take
    proposalLimit

end ComponentGate.Text
