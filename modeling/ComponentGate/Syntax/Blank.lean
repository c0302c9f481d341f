/-!
Character classes of the component grammar. What separates tokens (`isFiller`) is a wider class than
what the search for a line end walks over (`isLineBlank`), and a name may hold any character that
neither class nor the punctuation claims.
-/

namespace ComponentGate.Syntax

/-- The space separators of the Unicode standard. -/
def isSpaceSeparator (c : Char) : Bool :=
  let n := c.toNat
  n == 0x20 || n == 0xA0 || n == 0x1680 || (0x2000 ≤ n && n ≤ 0x200A) || n == 0x202F ||
    n == 0x205F || n == 0x3000

/-- The six blank characters of ASCII. -/
def isAsciiBlank (c : Char) : Bool :=
  let n := c.toNat
  n == 0x20 || (0x09 ≤ n && n ≤ 0x0D)

/-- Characters that may stand between two tokens. -/
def isFiller (c : Char) : Bool :=
  let n := c.toNat
  isAsciiBlank c || isSpaceSeparator c || n == 0xFEFF || n == 0x2028 || n == 0x2029 ||
    n == 0x2060 || n == 0x200B

/-- Blanks that the search for a line end passes: those that may end a line of running text, so the
no-break spaces are not among them. -/
def isLineBlank (c : Char) : Bool :=
  let n := c.toNat
  isAsciiBlank c || n == 0x85 || n == 0x1680 || (0x2000 ≤ n && n ≤ 0x2006) ||
    (0x2008 ≤ n && n ≤ 0x200A) || n == 0x2028 || n == 0x2029 || n == 0x205F || n == 0x3000

def isDecimalDigit (c : Char) : Bool := '0' ≤ c && c ≤ '9'

def isHexDigit (c : Char) : Bool :=
  isDecimalDigit c || ('a' ≤ c && c ≤ 'f') || ('A' ≤ c && c ≤ 'F')

def isOctalDigit (c : Char) : Bool := '0' ≤ c && c ≤ '7'

def isAsciiLetter (c : Char) : Bool := ('a' ≤ c && c ≤ 'z') || ('A' ≤ c && c ≤ 'Z')

/-- Punctuation, quotes and brackets: the characters that end a name. -/
def isPunctuation (c : Char) : Bool :=
  ":;`\"'@#.,|^&<=>+-*/\\%?!~()[]\x7b\x7d".toList.contains c

/-- Characters of a name after its first. -/
def isNamePart (c : Char) : Bool :=
  0x20 ≤ c.toNat && !isFiller c && !isPunctuation c

/-- Characters that may open a name. -/
def isNameStart (c : Char) : Bool := isNamePart c && !isDecimalDigit c

end ComponentGate.Syntax
