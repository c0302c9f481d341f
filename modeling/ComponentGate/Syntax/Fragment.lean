import ComponentGate.Syntax.Cursor
import ComponentGate.Syntax.Lexeme

/-!
Grammar fragments: a fragment reads part of the text and answers the trees it read and the place
after them, or nothing. Comments travel with the token they precede, and `construct` leaves those in
front of its first token outside the node, so a comment belongs to the innermost construct with
tokens on both sides of it.
-/

namespace ComponentGate.Syntax

abbrev Fragment := Cursor → Option (List Tree × Cursor)

namespace Fragment

/-- Reads nothing. -/
def nothing : Fragment := fun cursor => some ([], cursor)

def fail : Fragment := fun _ => none

/-- One fragment after the other. -/
def seq : List Fragment → Fragment
  | [], cursor => some ([], cursor)
  | fragment :: rest, cursor =>
    match fragment cursor with
    | none => none
    | some (trees, cursor) =>
      match seq rest cursor with
      | none => none
      | some (more, cursor) => some (trees ++ more, cursor)

/-- The first fragment that succeeds. -/
def choice : List Fragment → Fragment
  | [], _ => none
  | fragment :: rest, cursor =>
    match fragment cursor with
    | some result => some result
    | none => choice rest cursor

def optional (fragment : Fragment) : Fragment := fun cursor =>
  some ((fragment cursor).getD ([], cursor))

/-- Repeats `fragment` while it moves on; `fuel` bounds the number of repetitions. -/
def repeatWithin (fragment : Fragment) : Nat → Fragment
  | 0, cursor => some ([], cursor)
  | fuel + 1, cursor =>
    match fragment cursor with
    | none => some ([], cursor)
    | some (trees, after) =>
      if after.offset ≤ cursor.offset then some ([], cursor)
      else (repeatWithin fragment fuel after).map fun (more, cursor) => (trees ++ more, cursor)

/-- As often as possible: each repetition takes at least one character. -/
def many (fragment : Fragment) : Fragment := fun cursor =>
  repeatWithin fragment (cursor.rest.length + 1) cursor

/-- Continues only where `accepts` holds of the place. -/
def guarded (accepts : Cursor → Bool) : Fragment := fun cursor =>
  if accepts cursor then some ([], cursor) else none

/-- Succeeds without reading where `fragment` would. -/
def ahead (fragment : Fragment) : Fragment := fun cursor =>
  if (fragment cursor).isSome then some ([], cursor) else none

/-- Succeeds without reading where `fragment` would not. -/
def notAhead (fragment : Fragment) : Fragment := fun cursor =>
  if (fragment cursor).isSome then none else some ([], cursor)

/-- Gives the last tree read, which is never a comment in front of it, a role. -/
def asLast (role : Role) : List Tree → List Tree
  | [] => []
  | [tree] => [tree.withRole role]
  | tree :: rest => tree :: asLast role rest

def role (role : Role) (fragment : Fragment) : Fragment := fun cursor =>
  (fragment cursor).map fun (trees, cursor) => (asLast role trees, cursor)

/-- Wraps trees in a node of `kind`, leaving comments at the front outside. -/
def wrap (kind : Kind) (trees : List Tree) : List Tree :=
  let comments := trees.takeWhile Tree.isComment
  match trees.dropWhile Tree.isComment with
  | [] => comments
  | first :: rest =>
    let stop := (rest.getLast?.getD first).stop
    comments ++ [.node ⟨.construct kind, none, first.start, stop, first.label.row⟩ (first :: rest)]

def construct (kind : Kind) (parts : List Fragment) : Fragment := fun cursor =>
  (seq parts cursor).map fun (trees, cursor) => (wrap kind trees, cursor)

/-- A token: what comes next after filler and comments, as `scan` measures it. -/
def token (symbol : Symbol) (scan : List Char → Option Nat) : Fragment := fun cursor =>
  let (comments, start) := cursor.nextToken
  match scan start.rest with
  | none => none
  | some count =>
    let (leaf, after) := start.leaf symbol count
    some (comments ++ [leaf], after)

/-- A token that has to follow at once, without filler. -/
def adjacent (symbol : Symbol) (scan : List Char → Option Nat) : Fragment := fun cursor =>
  (scan cursor.rest).map fun count =>
    let (leaf, after) := cursor.leaf symbol count
    ([leaf], after)

def scanText (text : String) (rest : List Char) : Option Nat :=
  if text.toList.isPrefixOf rest then some text.length else none

def mark (text : String) : Fragment := token (.token text) (scanText text)

def adjacentMark (text : String) : Fragment := adjacent (.token text) (scanText text)

/-- A whole name spelled `text`. -/
def scanWord (text : String) (rest : List Char) : Option Nat :=
  match Lexeme.name rest with
  | some count => if rest.take count = text.toList then some count else none
  | none => none

def word (text : String) : Fragment := token (.token text) (scanWord text)

/-- Any name, as a leaf of `kind`. -/
def nameAs (kind : Kind) : Fragment := token (.construct kind) Lexeme.name

/-- Any name but `excluded` ones. -/
def nameExcept (kind : Kind) (excluded : List String) : Fragment :=
  token (.construct kind) fun rest =>
    match Lexeme.name rest with
    | some count => if excluded.contains (String.ofList (rest.take count)) then none else some count
    | none => none

/-- The word `text` as a leaf of `kind`. -/
def wordAs (kind : Kind) (text : String) : Fragment := token (.construct kind) (scanWord text)

/-- `fragment` where the word `text` comes next, and nothing anywhere else. -/
def whereWord (text : String) (fragment : Fragment) : Fragment := fun cursor =>
  if (scanWord text cursor.nextToken.2.rest).isSome then fragment cursor else some ([], cursor)

/-- `fragment` once or more, with `separator` between. -/
def separated (separator fragment : Fragment) : Fragment :=
  seq [fragment, many (seq [separator, fragment])]

/-- A list in which commas separate places that may be empty. -/
def sparseList (fragment : Fragment) : Fragment :=
  seq [optional fragment, many (seq [mark ",", optional fragment])]

/-- A list of at least one item, with commas between and perhaps one after. -/
def commaList (fragment : Fragment) : Fragment :=
  seq [separated (mark ",") fragment, optional (mark ",")]

end Fragment

/-- The name that comes next, empty where no name does. -/
def Cursor.peekWord (cursor : Cursor) : String :=
  let rest := cursor.nextToken.2.rest
  match Lexeme.name rest with
  | some count => String.ofList (rest.take count)
  | none => ""

/-- The characters that come next. -/
def Cursor.peek (cursor : Cursor) : List Char := cursor.nextToken.2.rest

/-- What is still to be read, as the whole grammar names it. -/
inductive Goal where
  | statement
  | block
  /-- An expression whose operators bind at least as tightly as `level`; `line` says that a line end
  may close it, `typed` that its arrow functions may declare a result type. -/
  | expression (level : Nat) (line typed : Bool)
  /-- An expression or several with commas between. -/
  | expressions (line : Bool)
  | type (line : Bool)
  | pattern
  | element
  deriving DecidableEq, Repr, Inhabited

/-- How a fragment reads a goal that may contain the fragment itself. -/
abbrev Reader := Goal → Fragment

end ComponentGate.Syntax
