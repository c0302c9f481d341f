import ComponentGate.Preamble.Basic
import ComponentGate.Preamble.Date

/-!
The preamble of a source that came without one.
-/

namespace ComponentGate.Preamble

def standardTitle : String := "Generated Component"

def titleLimit : Nat := 50

/-- A title on one line, without double quotes and not too long. -/
def cleanTitle (title : String) : String :=
  let line := List.intercalate [' '] (Text.words title.toList)
  let plain := (line.take titleLimit).map fun c => if c = '"' then '\'' else c
  let clean := Text.trim plain
  if clean.isEmpty then standardTitle else String.ofList clean

/-- The preamble for a title and a day. -/
def standard (title : String) (today : Date) : String :=
  "---\n" ++
  s!"title: \"{cleanTitle title}\"\n" ++
  "description: \"AI-generated React component\"\n" ++
  "category: \"ui\"\n" ++
  "tags: [\"ai-generated\", \"component\"]\n" ++
  "version: \"1.0.0\"\n" ++
  s!"createdAt: \"{today.toText}\"\n" ++
  "---\n\n"

/-- The source with a preamble: its own, or the standard one in front of its first line of text. -/
def ensure (source title : String) (today : Date) : String :=
  if has source then source
  else standard title today ++ String.ofList (source.toList.dropWhile (· = '\n'))

end ComponentGate.Preamble
