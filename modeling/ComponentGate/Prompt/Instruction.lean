import ComponentGate.Text.Blank
import ComponentGate.Text.Removal

/-!
Cleaning what a user asks for: control characters, script blocks, tags, entities and script addresses
are taken out, one after the other, before the text goes into a prompt.
-/

namespace ComponentGate.Prompt

open Text

/-- Control characters but for tabs, line feeds and carriage returns. -/
def isControl (c : Char) : Bool :=
  let n := c.toNat
  n ≤ 0x08 || n == 0x0B || n == 0x0C || (0x0E ≤ n && n ≤ 0x1F) || n == 0x7F

/-- A script element: from its opening tag to the first closing one. -/
def scriptBlock : Pattern := fun text =>
  if !beginsWithWord "<script" text then none
  else
    let openingLength := "<script".length + ((text.drop "<script".length).takeWhile (· ≠ '>')).length
    match text.drop openingLength with
    | [] => none
    | _ :: body =>
      (wordOffset? "</script>" body).map fun offset => openingLength + 1 + offset + "</script>".length

/-- Anything between angle brackets. -/
def tag : Pattern
  | '<' :: rest =>
    let name := rest.takeWhile (· ≠ '>')
    if name.length < rest.length then some (name.length + 2) else none
  | _ => none

def isEntityCharacter (c : Char) : Bool := c.isAlphanum || c == '#'

/-- A character reference: an ampersand, a name or number, and a semicolon. -/
def entity : Pattern
  | '&' :: rest =>
    let name := rest.takeWhile isEntityCharacter
    if !name.isEmpty && (rest.drop name.length).head? == some ';' then some (name.length + 2) else none
  | _ => none

/-- The scheme of addresses that run a script, with blanks before its colon. -/
def scriptScheme : Pattern := fun text =>
  if !beginsWithWord "javascript" text then none
  else
    let blanks := (text.drop "javascript".length).takeWhile isBlank
    let length := "javascript".length + blanks.length
    if (text.drop length).head? == some ':' then some (length + 1) else none

/-- What is taken out, in this order. -/
def removals : List Pattern := [scriptBlock, tag, entity, scriptScheme]

/-- An instruction has at most this many characters. -/
def instructionLimit : Nat := 5000

/-- The instruction without markup. -/
def sanitized (text : String) : String :=
  let plain := text.toList.filter (!isControl ·)
  let clean := removals.foldl (fun text pattern => removeMatches pattern text) plain
  String.ofList ((trim clean).take instructionLimit)

end ComponentGate.Prompt
