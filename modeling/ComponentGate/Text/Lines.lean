/-!
Lines of a text. A line feed, a carriage return, both together, and the other separators of lines and
paragraphs end a line.
-/

namespace ComponentGate.Text

def isLineEnd (c : Char) : Bool :=
  let n := c.toNat
  (0x0A ≤ n && n ≤ 0x0D) || (0x1C ≤ n && n ≤ 0x1E) || n == 0x85 || n == 0x2028 || n == 0x2029

/-- The lines of a text without their ends; a line end that closes the text opens no further line. -/
def lines : List Char → List (List Char)
  | [] => []
  | '\r' :: '\n' :: rest => [] :: lines rest
  | c :: rest =>
    if isLineEnd c then [] :: lines rest
    else
      match lines rest with
      | [] => [[c]]
      | first :: more => (c :: first) :: more

/-- The parts of a text between the places of a separator: one more than there are such places. -/
def splitAt (separator : Char) : List Char → List (List Char)
  | [] => [[]]
  | c :: rest =>
    if c = separator then [] :: splitAt separator rest
    else
      match splitAt separator rest with
      | [] => [[c]]
      | first :: more => (c :: first) :: more

/-- The lines that line feeds alone bound. -/
def splitAtLineFeeds (text : List Char) : List (List Char) := splitAt '\n' text

end ComponentGate.Text
