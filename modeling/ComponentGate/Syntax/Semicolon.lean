import ComponentGate.Syntax.Fragment

/-!
Where a line end, a closing brace or the end of the text stands for a semicolon. Whether it does
depends on what follows: an operator or a bracket that could continue the expression keeps it open.
-/

namespace ComponentGate.Syntax

/-- What the reader could also accept at the place in question. -/
structure LineContext where
  /-- A binary operator could follow, so an opening bracket continues the expression. -/
  operator : Bool
  /-- A function body could follow, so an opening brace continues the declaration. -/
  body : Bool
  deriving DecidableEq, Repr, Inhabited

/-- After a complete expression. -/
def LineContext.expression : LineContext := ⟨true, false⟩

/-- After a name, a type or a keyword. -/
def LineContext.plain : LineContext := ⟨false, false⟩

/-- After a function signature. -/
def LineContext.signature : LineContext := ⟨false, true⟩

/-- Blanks and comments after the line end; `none` where a lone slash stands. -/
def skipToCode : Nat → List Char → Option (List Char)
  | 0, text => some text
  | fuel + 1, text =>
    let text := text.dropWhile isLineBlank
    match text with
    | '/' :: '/' :: rest => skipToCode fuel (rest.dropWhile (· ≠ '\n'))
    | '/' :: '*' :: rest =>
      match blockCommentLength rest with
      | some count => skipToCode fuel (rest.drop count)
      | none => some []
    | '/' :: _ => none
    | _ => some text

def isWordLetter (c : Char) : Bool := isAsciiLetter c || (0xAA ≤ c.toNat && isNamePart c)

/-- `in` and `instanceof` continue an expression, names that begin like them do not. -/
def continuesAsOperator (afterI : List Char) : Bool :=
  match afterI with
  | 'n' :: rest =>
    if !(rest.head?.any isWordLetter) then true
    else
      "stanceof".toList.isPrefixOf rest && !((rest.drop 8).head?.any isWordLetter)
  | _ => false

/-- Whether a line that starts with `text` begins anew. -/
def startsAnew (context : LineContext) : List Char → Bool
  | [] => true
  | c :: rest =>
    if "`,.;*%><=?^|&/:".toList.contains c then false
    else if c = '\x7b' then !context.body
    else if c = '(' ∨ c = '[' then !context.operator
    else if c = '+' then rest.head? = some '+'
    else if c = '-' then rest.head? = some '-'
    else if c = '!' then rest.head? ≠ some '='
    else if c = 'i' then !continuesAsOperator rest
    else true

/-- Whether what follows at once stands for a semicolon. -/
def closesHere (context : LineContext) (text : List Char) : Bool :=
  let beforeLine := text.dropWhile fun c => isLineBlank c && c ≠ '\n'
  match beforeLine with
  | [] => true
  | '\x7d' :: rest =>
    if (rest.dropWhile isLineBlank).head? = some ':' then context.operator else true
  | '\n' :: rest =>
    match skipToCode rest.length rest with
    | none => false
    | some code => startsAnew context code
  | _ => false

namespace Fragment

/-- An implied semicolon. Comments on the line that it closes are read with it. -/
def lineEndWithin (context : LineContext) : Nat → Fragment
  | 0, _ => none
  | fuel + 1, cursor =>
    if closesHere context cursor.rest then some ([], cursor)
    else
      let start := cursor.skipFiller
      match commentLength start.rest with
      | none => none
      | some count =>
        let (comment, after) := start.leaf (.construct .comment) count
        (lineEndWithin context fuel after).map fun (more, cursor) => (comment :: more, cursor)

def lineEnd (context : LineContext) : Fragment := fun cursor =>
  lineEndWithin context (cursor.rest.length + 1) cursor

/-- A semicolon, written or implied. -/
def semicolon (context : LineContext) : Fragment := choice [lineEnd context, mark ";"]

end Fragment

/-- Whether an expression that a line end may close ends here. -/
def Cursor.lineCloses (cursor : Cursor) (context : LineContext) : Bool :=
  (Fragment.lineEnd context cursor).isSome

end ComponentGate.Syntax
