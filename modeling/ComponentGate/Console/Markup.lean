import ComponentGate.Console.Pictures
import ComponentGate.Console.Wrapping
import ComponentGate.Text.Lines

/-!
Text with style tags in square brackets, as a console shows it without styles. A backslash in front of
a tag makes it plain text. `escaped` writes text in such a way that it is shown as it is, and `shown`
is what a console shows.
-/

namespace ComponentGate.Console

/-- A character, or what looks like a tag with the backslashes in front of it. -/
inductive Piece where
  | character (c : Char)
  | bracketed (backslashes : Nat) (content : List Char)
  deriving DecidableEq, Repr

def opensTag (c : Char) : Bool := ('a' ≤ c && c ≤ 'z') || c == '#' || c == '/' || c == '@'

/-- What stands between the brackets of a tag at the front of a text. -/
def tagContent? : List Char → Option (List Char)
  | '[' :: first :: rest =>
    if opensTag first then
      let content := rest.takeWhile fun c => c ≠ '[' && c ≠ ']'
      if (rest.drop content.length).head? == some ']' then some (first :: content) else none
    else none
  | _ => none

/-- The pieces of a text. -/
def pieces : List Char → List Piece
  | [] => []
  | c :: rest =>
    let backslashes := ((c :: rest).takeWhile (· = '\\')).length
    match tagContent? ((c :: rest).drop backslashes) with
    | some content =>
      .bracketed backslashes content :: pieces (rest.drop (backslashes + content.length + 1))
    | none => .character c :: pieces rest
termination_by text => text.length
decreasing_by all_goals grind

def Piece.escaped : Piece → List Char
  | .character c => [c]
  | .bracketed backslashes content =>
    List.replicate (2 * backslashes + 1) '\\' ++ '[' :: content ++ [']']

/-- A text that ends in a single backslash gets a second one, so that it escapes nothing behind it. -/
def closed (text : List Char) : List Char :=
  match text.reverse with
  | '\\' :: '\\' :: _ => text
  | '\\' :: _ => text ++ ['\\']
  | _ => text

def escaped (text : String) : String :=
  String.ofList (closed ((pieces text.toList).flatMap Piece.escaped))

/-- A run of plain text as it is shown: a backslash in front of a bracket is left out, and names of
pictures become pictures. -/
def plain (text : List Char) : List Char := withPictures (unbracketed text)
where
  unbracketed : List Char → List Char
    | '\\' :: '[' :: rest => '[' :: unbracketed rest
    | c :: rest => c :: unbracketed rest
    | [] => []

/-- What pieces show, behind the characters `before` of the current run of plain text. -/
def shownPieces (before : List Char) : List Piece → List Char
  | [] => plain before.reverse
  | .character c :: rest => shownPieces (c :: before) rest
  | .bracketed backslashes content :: rest =>
    let tag := if backslashes % 2 = 1 then plain ('[' :: content ++ [']']) else []
    plain before.reverse ++ List.replicate (backslashes / 2) '\\' ++ tag ++ shownPieces [] rest

/-- Controls that would move the cursor are not shown. -/
def isHidden (c : Char) : Bool :=
  let n := c.toNat
  n == 7 || n == 8 || n == 11 || n == 12 || n == 13

/-- The characters of a marked text that a console shows. -/
def shown (markup : String) : List Char :=
  (shownPieces [] (pieces markup.toList)).filter (!isHidden ·)

def tabStop : Nat := 8

/-- A line with blanks instead of tabs; `column` cells of it are already there. -/
def withoutTabs (column : Nat) : List Char → List Char
  | [] => []
  | c :: rest =>
    if c = '\t' then
      let blanks := tabStop - column % tabStop
      List.replicate blanks ' ' ++ withoutTabs (column + blanks) rest
    else c :: withoutTabs (column + characterWidth c) rest

/-- The lines that a console shows for a marked text. -/
def shownLines (markup : String) : List (List Char) :=
  (Text.splitAtLineFeeds (shown markup)).map (withoutTabs 0)

/-- Lines of text, each with its end. -/
def joinLines (lines : List (List Char)) : String :=
  String.ofList (lines.flatMap fun line => line ++ ['\n'])

/-- A marked text on lines of its own, none of them wider than the console. -/
def print (columns : Nat) (markup : String) : String :=
  if columns = 0 then ""
  else
    let lines := (shownLines markup).flatMap (brokenLines .fold columns)
    joinLines (lines.map (truncated .fold columns))

end ComponentGate.Console
