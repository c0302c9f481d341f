import ComponentGate.Document.Basic

/-!
Edits of a document. Each one replaces a range of bytes by a text; `render` applies them all at once,
ordered by their ranges, so where they were recorded matters only among insertions at one offset.
-/

namespace ComponentGate

open Syntax

/-- A replacement of the bytes from `start` up to `stop`. -/
structure Edit where
  start : Int
  stop : Int
  text : String
  deriving DecidableEq, Repr, Inhabited

namespace Edit

def insert (offset : Int) (text : String) : Edit := ⟨offset, offset, text⟩

def delete (start stop : Int) : Edit := ⟨start, stop, ""⟩

def replace (tree : Tree) (text : String) : Edit := ⟨tree.start, tree.stop, text⟩

def remove (tree : Tree) : Edit := replace tree ""

/-- Whether `first` may be applied before `second`: it starts earlier, or ends earlier where both
start at one offset. -/
def precedes (first second : Edit) : Bool :=
  first.start < second.start || (first.start == second.start && first.stop ≤ second.stop)

/-- Puts an edit into a list in front of the first one that it may be applied before. -/
def putInto (edit : Edit) : List Edit → List Edit
  | [] => [edit]
  | first :: rest =>
    if edit.precedes first then edit :: first :: rest else first :: edit.putInto rest

/-- The edits in the order in which they are applied. -/
def ordered (edits : List Edit) : List Edit := edits.foldr putInto []

end Edit

inductive EditError where
  /-- An edit starts at `offset`, before the place `reached` that earlier ones left behind. -/
  | overlap (offset reached : Int)
  /-- The edited bytes are not the encoding of a text. -/
  | undecodable
  deriving DecidableEq, Repr

/-- The wording of an overlap; bytes that encode nothing are reported without one. -/
def EditError.message : EditError → String
  | .overlap offset reached => s!"Overlapping edits at byte {offset} (cursor {reached})"
  | .undecodable => ""

namespace Document

/-- A range of bytes, with the bounds that lie outside clipped and those below zero counted from the
end. -/
def slice (bytes : ByteArray) (start stop : Int) : ByteArray :=
  bytes.extract (place start) (place stop)
where
  place (offset : Int) : Nat :=
    if offset < 0 then (offset + bytes.size).toNat else min offset.toNat bytes.size

/-- Applies ordered edits to the bytes from `reached` on. -/
def splice (bytes : ByteArray) : Int → List Edit → Except EditError ByteArray
  | reached, [] => .ok (slice bytes reached bytes.size)
  | reached, edit :: rest =>
    if edit.start < reached then .error (.overlap edit.start reached)
    else do
      let tail ← splice bytes edit.stop rest
      return slice bytes reached edit.start ++ edit.text.toUTF8 ++ tail

/-- The edited text. -/
def render (document : Document) (edits : List Edit) : Except EditError String := do
  let bytes ← splice document.bytes 0 (Edit.ordered edits)
  match String.fromUTF8? bytes with
  | some text => .ok text
  | none => .error .undecodable

/-- Removes a statement. Where it stands alone between line ends, its lines go with it. -/
def removeStatement (document : Document) (tree : Tree) : Edit :=
  let lineStart := document.lineStart tree.start
  let start := if document.isBlankBetween lineStart tree.start then lineStart else tree.start
  let stop :=
    match document.lineFeedFrom tree.stop with
    | some lineEnd =>
      if document.isBlankBetween tree.stop lineEnd then lineEnd + 1 else tree.stop
    | none =>
      if document.isBlankBetween tree.stop document.bytes.size then document.bytes.size
      else tree.stop
  .delete start stop

end Document

end ComponentGate
