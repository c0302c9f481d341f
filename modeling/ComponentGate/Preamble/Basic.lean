import ComponentGate.Text.Blank
import ComponentGate.Text.Entries
import ComponentGate.Text.Lines

/-!
Preambles: a block of metadata between two lines of dashes at the very start of a source. It is cut
off before the source is read as code and put back untouched. `fields` reads its flat entries.
-/

namespace ComponentGate.Preamble

/-- A source cut in two; the preamble is empty where the source has none. -/
structure Sectioned where
  preamble : String
  body : String
  deriving DecidableEq, Repr, Inhabited

def opening : List Char := "---\n".toList

def closing : List Char := "\n---\n".toList

/-- The text before the first closing line, and the text after that line. -/
def untilClosing : List Char → Option (List Char × List Char)
  | [] => none
  | c :: rest =>
    if closing.isPrefixOf (c :: rest) then some ([], (c :: rest).drop closing.length)
    else (untilClosing rest).map fun (content, body) => (c :: content, body)

/-- What stands between the dashes, and the rest of the source. -/
def find? (source : List Char) : Option (List Char × List Char) :=
  if opening.isPrefixOf source then untilClosing (source.drop opening.length) else none

def split (source : String) : Sectioned :=
  match find? source.toList with
  | some (content, body) => ⟨String.ofList (opening ++ content ++ closing), String.ofList body⟩
  | none => ⟨"", source⟩

def attach (preamble body : String) : String := preamble ++ body

def has (source : String) : Bool := (find? source.toList).isSome

/-- A value without the quotes around it, if the same quote opens and closes it. -/
def unquoted : List Char → List Char
  | [] => []
  | first :: rest =>
    if (first = '"' ∨ first = '\'') ∧ rest.getLast? = some first then rest.dropLast
    else first :: rest

/-- The key and the value of a flat line; nested lines and list items are none. -/
def entry? (line : List Char) : Option (String × String) :=
  match line with
  | [] => none
  | first :: _ =>
    if Text.isBlank first || first == '-' || !line.contains ':' then none
    else
      let key := line.takeWhile (· ≠ ':')
      let value := (line.dropWhile (· ≠ ':')).drop 1
      some (String.ofList (Text.trim key), String.ofList (unquoted (Text.trim value)))

def fields (source : String) : List (String × String) :=
  match find? source.toList with
  | some (content, _) => Entries.ofPairs ((Text.lines content).filterMap entry?)
  | none => []

end ComponentGate.Preamble
