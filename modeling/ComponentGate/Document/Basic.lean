import ComponentGate.Syntax.Walk

/-!
A parsed text: its bytes and its tree. The tree speaks of the text by byte offsets.
-/

namespace ComponentGate

open Syntax

/-- A way to read a text into a tree. -/
abbrev Parse := String → Tree

structure Document where
  bytes : ByteArray
  root : Tree

namespace Document

def read (parse : Parse) (text : String) : Document := ⟨text.toUTF8, parse text⟩

def hasErrors (document : Document) : Bool := document.root.hasError

def errorLine? (document : Document) : Option Nat := document.root.errorLine?

/-- The text between two offsets that do not split a character. -/
def textBetween (document : Document) (start stop : Nat) : String :=
  (String.fromUTF8? (document.bytes.extract start stop)).getD ""

def text (document : Document) (tree : Tree) : String :=
  document.textBetween tree.start tree.stop

def lineFeed : UInt8 := 0x0A

/-- The blank bytes: space, tab, line feed, carriage return, vertical tab and form feed. -/
def isBlankByte (byte : UInt8) : Bool := byte == 0x20 || (0x09 ≤ byte && byte ≤ 0x0D)

def byteAt? (document : Document) (offset : Nat) : Option UInt8 :=
  if h : offset < document.bytes.size then some document.bytes[offset] else none

/-- Where the line begins on which `offset` lies: after the last line feed before it. -/
def lineStart (document : Document) : Nat → Nat
  | 0 => 0
  | offset + 1 =>
    if document.byteAt? offset == some lineFeed then offset + 1 else document.lineStart offset

/-- The bytes from `start` on, at most `count` of them. -/
def bytesFrom (document : Document) (start count : Nat) : List UInt8 :=
  (List.range count).filterMap fun step => document.byteAt? (start + step)

/-- The first line feed at or after `offset`. -/
def lineFeedFrom (document : Document) (offset : Nat) : Option Nat :=
  let remaining := document.bytesFrom offset (document.bytes.size - offset)
  (remaining.findIdx? (· == lineFeed)).map (offset + ·)

def isBlankBetween (document : Document) (start stop : Nat) : Bool :=
  (document.bytesFrom start (stop - start)).all isBlankByte

/-- The spaces and tabs at the start of the line on which `offset` lies. An offset below zero counts
back from the end. -/
def lineIndent (document : Document) (offset : Int) : String :=
  let size := document.bytes.size
  let place := if offset < 0 then (offset + size).toNat else min offset.toNat size
  let start := document.lineStart place
  let blanks := (document.bytesFrom start (size - start)).takeWhile fun byte =>
    byte == 0x20 || byte == 0x09
  document.textBetween start (start + blanks.length)

end Document

end ComponentGate
