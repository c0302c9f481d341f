import ComponentGate.Syntax.Blank
import ComponentGate.Syntax.Tree

/-!
A place in the text that is being read, and the filler and comments that may stand before a token.
-/

namespace ComponentGate.Syntax

structure Cursor where
  rest : List Char
  offset : Nat
  row : Nat
  deriving Repr, Inhabited

namespace Cursor

def ofString (text : String) : Cursor := ⟨text.toList, 0, 0⟩

/-- Moves past `count` characters. -/
def advance : Nat → Cursor → Cursor
  | 0, cursor => cursor
  | count + 1, cursor =>
    match cursor.rest with
    | [] => cursor
    | c :: rest =>
      advance count ⟨rest, cursor.offset + c.utf8Size, if c = '\n' then cursor.row + 1 else cursor.row⟩

/-- The leaf for the next `count` characters. -/
def leaf (cursor : Cursor) (symbol : Symbol) (count : Nat) : Tree × Cursor :=
  let after := cursor.advance count
  (.node ⟨symbol, none, cursor.offset, after.offset, cursor.row⟩ [], after)

def skipFiller (cursor : Cursor) : Cursor :=
  cursor.advance (cursor.rest.takeWhile isFiller).length

end Cursor

/-- How many characters the rest of a block comment takes, its closing mark included. -/
def blockCommentLength : List Char → Option Nat
  | [] => none
  | '*' :: '/' :: _ => some 2
  | _ :: rest => (blockCommentLength rest).map (· + 1)

/-- Line ends that close a line comment. -/
def endsLineComment (c : Char) : Bool :=
  c == '\n' || c == '\r' || c.toNat == 0x2028 || c.toNat == 0x2029

def commentLength : List Char → Option Nat
  | '/' :: '/' :: rest => some (2 + (rest.takeWhile fun c => !endsLineComment c).length)
  | '/' :: '*' :: rest => (blockCommentLength rest).map (· + 2)
  | _ => none

/-- Reads filler and comments; `fuel` bounds the number of comments. -/
def trivia : Nat → Cursor → List Tree × Cursor
  | 0, cursor => ([], cursor.skipFiller)
  | fuel + 1, cursor =>
    let cursor := cursor.skipFiller
    match commentLength cursor.rest with
    | none => ([], cursor)
    | some count =>
      let (comment, after) := cursor.leaf (.construct .comment) count
      let (more, rest) := trivia fuel after
      (comment :: more, rest)

/-- The comments before the next token, and the place where that token starts. -/
def Cursor.nextToken (cursor : Cursor) : List Tree × Cursor := trivia (cursor.rest.length / 2) cursor

end ComponentGate.Syntax
