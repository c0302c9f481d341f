import ComponentGate.Text.Blank
import ComponentGate.Text.Removal

/-!
Code fences: lines of three backticks with which a reply sets off its code. An opening fence may name
a language, a closing one may have blanks behind it.
-/

namespace ComponentGate.Chat

open Text

def fence : List Char := ['\x60', '\x60', '\x60']

/-- An opening fence and the end of its line. -/
def openingFence : Pattern := fun text =>
  if !fence.isPrefixOf text then none
  else
    let language := (text.drop fence.length).takeWhile Char.isAlpha
    let length := fence.length + language.length
    if (text.drop length).head? == some '\n' then some (length + 1) else none

def isFenceBlank (c : Char) : Bool := c == ' ' || c == '\t'

/-- A closing fence and the end of the line before it. -/
def closingFence : Pattern
  | '\n' :: rest =>
    if !fence.isPrefixOf rest then none
    else
      let blanks := (rest.drop fence.length).takeWhile isFenceBlank
      let length := fence.length + blanks.length
      match rest.drop length with
      | [] => some (length + 1)
      | next :: _ => if next = '\n' then some (length + 1) else none
  | _ => none

/-- A reply without its fences. -/
def withoutFences (reply : String) : String :=
  let opened := removeAtLineStarts openingFence true reply.toList
  String.ofList (trim (removeMatches closingFence opened))

end ComponentGate.Chat
