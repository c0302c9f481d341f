import ComponentGate.Grammar.Statements

/-!
Reading a whole text. The grammar's fragments name what they contain as goals; here each goal is tied
to its fragment. A goal nested in another one either comes after a token of it or is one of a few
that can stand for each other, so a bound linear in the length of the text is never reached.
-/

namespace ComponentGate.Syntax

open Fragment Grammar

/-- The fragment for a goal, given how the goals inside it are read. -/
def fragmentFor (lenient : Bool) (read : Reader) : Goal → Fragment
  | .statement => statement read lenient
  | .block => block read lenient
  | .expression level line typed => expression read level line typed
  | .expressions line => expressions read line
  | .type line => type read line
  | .pattern => pattern read
  | .element => element read

/-- Reads a goal with at most `depth` goals nested in each other, and leniently in at most `levels`
blocks nested in each other. -/
def readWithin : Nat → Nat → Goal → Cursor → Option (List Tree × Cursor)
  | 0, _, _, _ => none
  | depth + 1, levels, goal, cursor =>
    let inside := if goal = .block then levels - 1 else levels
    fragmentFor (0 < levels) (readWithin depth inside) goal cursor

def depthFor (text : List Char) : Nat := 16 * text.length + 64

/-- The trees of a whole program, with what filler and comments end it. -/
def programTrees (levels : Nat) (text : String) : Option (List Tree × Cursor) :=
  let start := Cursor.ofString text
  let read := readWithin (depthFor start.rest) levels
  match seq [optional hashBang, statements read (0 < levels) false] start with
  | none => none
  | some (trees, after) =>
    let (comments, stop) := after.nextToken
    if stop.rest.isEmpty then some (trees ++ comments, stop) else none

/-- The root of a program: it spans its children, or nothing at the end of an empty text. -/
def programNode (trees : List Tree) (stop : Cursor) : Tree :=
  match trees with
  | [] => .node ⟨.construct .program, none, stop.offset, stop.offset, stop.row⟩ []
  | first :: _ =>
    .node ⟨.construct .program, none, first.start, stop.offset, first.label.row⟩ trees

/-- The tree of a text that is certainly no program. -/
def unreadable (text : String) : Tree :=
  let start := (Cursor.ofString text).skipFiller
  .node ⟨.construct .error, none, start.offset, text.utf8ByteSize, start.row⟩ []

/-- How many blocks nested in each other a lenient reading enters. -/
def lenientLevels : Nat := 6

/-- Reads a component's source. A text with an exact reading has a tree without errors; of any other
text as much as possible is read, with the erroneous pieces marked. -/
def parse (text : String) : Tree :=
  match programTrees 0 text with
  | some (trees, stop) => programNode trees stop
  | none =>
    match programTrees lenientLevels text with
    | some (trees, stop) =>
      let root := programNode trees stop
      if root.hasError then root else unreadable text
    | none => unreadable text

end ComponentGate.Syntax
