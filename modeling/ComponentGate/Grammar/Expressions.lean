import ComponentGate.Grammar.Classes
import ComponentGate.Grammar.Markup

/-!
Expressions, by operator precedence. An operand is read first and then extended with accesses, calls
and operators as long as they bind tightly enough. Assignments and arrow functions take everything
that follows them, wherever they stand.
-/

namespace ComponentGate.Grammar

open Syntax Syntax.Fragment

/-- The binary operators, longest first, with their levels. -/
def binaryOperators : List (String × Nat) :=
  [(">>>", 10), ("===", 8), ("!==", 8), ("**", 13), ("<<", 10), (">>", 10), ("<=", 9), (">=", 9),
    ("==", 8), ("!=", 8), ("&&", 4), ("||", 3), ("??", 1), ("<", 9), (">", 9), ("+", 11), ("-", 11),
    ("*", 12), ("/", 12), ("%", 12), ("&", 7), ("^", 6), ("|", 5)]

def ternaryLevel : Nat := 1

/-- Casts bind weaker than every operator but the conditional one. -/
def castLevel : Nat := 2

def relationLevel : Nat := 9

def unaryLevel : Nat := 14

/-- Operators of assignment that also compute, longest first. -/
def augmentedOperators : List String :=
  [">>>=", "**=", "<<=", ">>=", "&&=", "||=", "??=", "+=", "-=", "*=", "/=", "%=", "&=", "^=", "|="]

/-- What the text continues with in operator position. -/
inductive Continuation where
  | assign
  | augmented (text : String)
  | binary (text : String) (level : Nat)
  | conditional
  | optionalAccess
  | update (text : String)
  | nonNull
  | access | element | call | template
  | other
  deriving DecidableEq, Repr

/-- A question mark opens a conditional unless what follows shows an optional parameter or an
optional access. -/
def opensConditional (afterMark : List Char) : Bool :=
  match afterMark with
  | '?' :: _ => false
  | '.' :: c :: _ => isDecimalDigit c
  | '.' :: [] => false
  | _ =>
    match (afterMark.dropWhile isLineBlank).head? with
    | some c => !(c = ':' || c = ')' || c = ',')
    | none => true

def continuation (text : List Char) : Continuation :=
  let starts := fun (mark : String) => mark.toList.isPrefixOf text
  if starts "=>" then .other
  else match augmentedOperators.find? starts with
  | some operator => .augmented operator
  | none =>
    if starts "++" then .update "++"
    else if starts "--" then .update "--"
    else if starts "?." && !opensConditional (text.drop 1) then .optionalAccess
    else match binaryOperators.find? fun entry => starts entry.1 with
    | some (operator, level) => .binary operator level
    | none =>
      match text with
      | '=' :: _ => .assign
      | '?' :: rest => if opensConditional rest then .conditional else .other
      | '!' :: _ => .nonNull
      | '.' :: _ => .access
      | '[' :: _ => .element
      | '(' :: _ => .call
      | '`' :: _ => .template
      | _ => .other

/-- Whether what follows a closing brace shows that the braces were those of an object. -/
def continuesObject (cursor : Cursor) : Bool :=
  match cursor.peek with
  | '!' :: '=' :: _ => true
  | '.' :: c :: _ => !isDecimalDigit c
  | c :: _ => "?*%=&|^>,".toList.contains c
  | [] => false

/-- Words that open a statement where they can, so that they name no member of an object there. -/
def statementWords : List String :=
  ["if", "for", "while", "do", "switch", "return", "const", "var", "class", "function", "throw",
    "try", "break", "continue", "debugger", "with", "import", "enum", "interface", "typeof",
    "delete", "void", "await", "yield", "this", "super", "true", "false", "null"]

/-- Braces where a block and an object may stand. A name behind the opening brace decides for a block
if a comma or a closing brace follows it, and for an object if a colon does. -/
def braces (block value : Fragment) : Fragment := fun cursor =>
  let opening (divider : Fragment) := seq [mark "\x7b", nameAs .identifier, divider]
  let openingWord := ((mark "\x7b" cursor).map fun (_, after) => after.peekWord).getD ""
  if statementWords.contains openingWord then block cursor
  else if (opening (choice [mark ",", mark "\x7d"]) cursor).isSome then block cursor
  else if (opening (mark ":") cursor).isSome then choice [value, block] cursor
  else
    match block cursor with
    | none => value cursor
    | some result => if continuesObject result.2 then (value cursor).or (some result) else some result

/-- An arrow function, behind its parameters. -/
def arrowTail (read : Reader) (line typed : Bool) : Fragment := fun cursor =>
  match mark "=>" cursor with
  | none => none
  | some (arrow, after) =>
    let value := read (.expression 0 line typed)
    let body := match after.peek with
      | '\x7b' :: _ => braces (read .block) value
      | _ => value
    (role .body body after).map fun (body, after) => (arrow ++ body, after)

def arrowFunction (read : Reader) (line typed : Bool) : Fragment :=
  construct .arrowFunction [
    optional (seq [word "async", ahead (choice [mark "(", mark "<", nameAs .identifier])]),
    choice [
      seq [role .parameter (nameAs .identifier), ahead (mark "=>")],
      seq [callSignature read false typed, ahead (mark "=>")]],
    arrowTail read line typed]

def functionExpression (read : Reader) : Fragment :=
  let tail := [
    optional (role .name (nameAs .identifier)), callSignature read false true,
    role .body (read .block)]
  choice [
    construct .generatorFunction ([optional (word "async"), word "function", mark "*"] ++ tail),
    construct .functionExpression ([optional (word "async"), word "function"] ++ tail)]

def classExpression (read : Reader) : Fragment :=
  construct .classExpression [many (decorator read), classTail read false]

def object (read : Reader) : Fragment :=
  construct .object [
    mark "\x7b",
    sparseList (choice [
      spread read,
      construct .pair [memberName read, mark ":", role .value (read (.expression 0 false true))],
      method read,
      seq [nameAs .shorthandProperty, ahead (choice [mark ",", mark "\x7d"])]]),
    mark "\x7d"]

def array (read : Reader) : Fragment :=
  construct .array [
    mark "[", sparseList (choice [spread read, read (.expression 0 false true)]), mark "]"]

/-- What follows the first of several expressions with commas between. -/
def sequenceAfter (read : Reader) (line : Bool) (first : List Tree) : Fragment := fun cursor =>
  let next := seq [mark ",", read (.expression 0 line true)]
  match next cursor with
  | none => some (first, cursor)
  | some (more, after) =>
    (many next after).map fun (rest, after) => (wrap .sequence (first ++ more ++ rest), after)

def expressions (read : Reader) (line : Bool) : Fragment := fun cursor =>
  match read (.expression 0 line true) cursor with
  | none => none
  | some (first, after) => sequenceAfter read line first after

/-- What parentheses hold: an expression with perhaps its type, or several expressions. -/
def parenthesizedInside (read : Reader) : Fragment := fun cursor =>
  match read (.expression 0 false true) cursor with
  | none => none
  | some (first, after) =>
    match seq [optional (role .type (typeAscription read false)), ahead (mark ")")] after with
    | some (more, after) => some (first ++ more, after)
    | none => sequenceAfter read false first after

def parenthesized (read : Reader) : Fragment :=
  construct .parenthesized [mark "(", parenthesizedInside read, mark ")"]

/-- An object or array, or a pattern where an assignment follows. -/
def bracketed (read : Reader) (literal : Fragment) : Fragment := fun cursor =>
  let assigned := seq [read .pattern, ahead equals]
  match literal cursor with
  | some (trees, after) =>
    if (equals after).isSome then
      match assigned cursor with
      | some result => some result
      | none => some (trees, after)
    else some (trees, after)
  | none => assigned cursor

/-- The mark of an access that stops where there is nothing. -/
def chainMark : Fragment := token (.construct .optionalChain) (scanText "?.")

/-- The constructor of a `new` expression: accesses bind to it, the first arguments end it. -/
def constructorAccesses (read : Reader) : Nat → List Tree → Cursor → List Tree × Cursor
  | 0, left, cursor => (left, cursor)
  | fuel + 1, left, cursor =>
    let chain := role .object chainMark
    let property := role .property (choice [privateName, propertyName])
    let index := seq [mark "[", role .index (read (.expressions false)), mark "]"]
    let steps : List (Kind × Role × Fragment) := match cursor.peek with
      | '.' :: _ => [(.memberExpression, .object, seq [mark ".", property])]
      | '[' :: _ => [(.subscriptExpression, .object, index)]
      | '`' :: _ => [(.callExpression, .function, role .arguments (templateString read))]
      | '?' :: '.' :: _ => [
          (.callExpression, .function, seq [
            chain, optional (typeArguments read), role .arguments (arguments read)]),
          (.subscriptExpression, .object, seq [chain, index]),
          (.memberExpression, .object, seq [chain, property])]
      | _ => []
    match steps.findSome? fun (kind, role, step) => (step cursor).map fun (more, after) =>
        (wrap kind (asLast role left ++ more), after) with
    | some (left, after) => constructorAccesses read fuel left after
    | none => (left, cursor)

/-- Operands that a fixed word introduces, and names. -/
def wordOperand (read : Reader) (line typed : Bool) (text : String) : Fragment :=
  let operand := role .value (read (.expression unaryLevel line typed))
  match text with
  | "function" => functionExpression read
  | "async" => choice [
      arrowFunction read line typed, functionExpression read, identifier]
  | "class" => classExpression read
  | "new" => choice [
      construct .metaProperty [word "new", mark ".", word "target"], newExpression read,
      arrowFunction read line typed, identifier]
  | "typeof" => construct .unaryExpression [word "typeof", operand]
  | "void" => construct .unaryExpression [word "void", operand]
  | "delete" => construct .unaryExpression [word "delete", operand]
  | "await" => construct .awaitExpression [word "await", operand]
  | "yield" =>
    construct .yieldExpression [
      word "yield",
      choice [
        seq [mark "*", read (.expression 0 line typed)],
        seq [
          if line then notAhead (lineEnd .plain) else nothing, read (.expression 0 line typed)],
        nothing]]
  | "this" => wordAs .thisName "this"
  | "super" => wordAs .superName "super"
  | "true" => wordAs .trueLiteral "true"
  | "false" => wordAs .falseLiteral "false"
  | "null" => wordAs .nullLiteral "null"
  | "import" => choice [
      construct .metaProperty [word "import", mark ".", word "meta"],
      seq [wordAs .importName "import", ahead (choice [mark "(", mark "."])]]
  | _ => choice [arrowWithName read line typed, identifier]
where
  arrowWithName (read : Reader) (line typed : Bool) : Fragment := fun cursor =>
    match seq [nameAs .identifier, ahead (mark "=>")] cursor with
    | none => none
    | some _ => arrowFunction read line typed cursor
  newExpression (read : Reader) : Fragment := fun cursor =>
    match word "new" cursor with
    | none => none
    | some (opening, after) =>
      let base : Fragment :=
        match after.peekWord with
        | "new" => choice [newAgain read, identifier]
        | "" => read (.expression (accessLevel + 1) false true)
        | text => constructorName read text
      match base after with
      | none => none
      | some (first, after) =>
        let (constructor, after) := constructorAccesses read (after.rest.length + 1) first after
        let constructor := asLast .constructor constructor
        match seq [
            optional (typeArguments read), optional (role .arguments (arguments read))] after with
        | none => none
        | some (rest, after) => some (wrap .newExpression (opening ++ constructor ++ rest), after)
  newAgain (read : Reader) : Fragment := fun cursor =>
    match cursor.peekWord with
    | "new" => read (.expression (accessLevel + 1) false true) cursor
    | _ => none
  constructorName (read : Reader) (text : String) : Fragment :=
    match text with
    | "class" => classExpression read
    | "function" => functionExpression read
    | "this" => wordAs .thisName "this"
    | "super" => wordAs .superName "super"
    | "import" => construct .metaProperty [word "import", mark ".", word "meta"]
    | _ => identifier

/-- The first part of an expression, before any operator. -/
def operand (read : Reader) (line typed : Bool) : Fragment := fun cursor =>
  let prefixed := fun (text : String) =>
    construct .unaryExpression [
      mark text, role .value (read (.expression unaryLevel line typed))] cursor
  let stepped := fun (text : String) =>
    construct .updateExpression [
      mark text, role .value (read (.expression unaryLevel line typed))] cursor
  match cursor.peek with
  | [] => none
  | '(' :: _ => choice [arrowFunction read line typed, parenthesized read] cursor
  | '<' :: _ => choice [read .element, arrowFunction read line typed] cursor
  | '[' :: _ => bracketed read (array read) cursor
  | '\x7b' :: _ => bracketed read (object read) cursor
  | '"' :: _ => string cursor
  | '\'' :: _ => string cursor
  | '`' :: _ => templateString read cursor
  | '/' :: _ => regex cursor
  | '#' :: _ => seq [privateName, ahead (word "in")] cursor
  | '@' :: _ => classExpression read cursor
  | '!' :: _ => prefixed "!"
  | '~' :: _ => prefixed "~"
  | '+' :: '+' :: _ => stepped "++"
  | '-' :: '-' :: _ => stepped "--"
  | '+' :: _ => prefixed "+"
  | '-' :: _ => prefixed "-"
  | '.' :: _ => number cursor
  | c :: _ =>
    if isDecimalDigit c then number cursor
    else wordOperand read line typed cursor.peekWord cursor

/-- Whether a tree may stand on the left of an assignment. -/
def isPlace (tree : Tree) : Bool :=
  tree.isOneOf [
    .identifier, .undefinedName, .memberExpression, .subscriptExpression, .parenthesized,
    .nonNullExpression, .objectPattern, .arrayPattern]

/-- Whether nothing can be appended to a tree: it has already taken all that follows. -/
def isClosed (tree : Tree) : Bool :=
  tree.isOneOf [.assignmentExpression, .augmentedAssignment, .yieldExpression] ||
    (tree.isKind .arrowFunction && !(tree.child? .body).any (·.isKind .statementBlock))

/-- Operators that are spelled like names and stand between operands. -/
def wordOperators : List String := ["as", "satisfies", "in", "instanceof"]

/-- Whether an operand may start here, which decides between a comparison and type arguments. -/
def startsOperand (cursor : Cursor) : Bool :=
  match cursor.peek with
  | [] => false
  | c :: rest =>
    (isNameStart c && !wordOperators.contains cursor.peekWord) ||
      isDecimalDigit c || "\"'`(\x7b[!~+-#@\\".toList.contains c ||
      (c = '<' && rest.head? ≠ some '<') || (c = '.' && rest.head?.any isDecimalDigit)

/-- One step of extending `left`; `none` where nothing that binds at `level` or tighter follows. -/
def extend (read : Reader) (level : Nat) (line typed : Bool) (left : List Tree) : Fragment :=
  fun cursor =>
  let isAccess := level ≤ accessLevel
  let after (kind : Kind) (role : Role) (parts : List Fragment) :=
    (seq parts cursor).map fun (more, rest) => (wrap kind (asLast role left ++ more), rest)
  match continuation cursor.peek with
  | .assign =>
    if (left.getLast?).any isPlace then
      after .assignmentExpression .left [
        mark "=", role .right (read (.expression 0 line typed))]
    else none
  | .augmented text =>
    if (left.getLast?).any isPlace then
      after .augmentedAssignment .left [
        mark text, role .right (read (.expression 0 line typed))]
    else none
  | .conditional =>
    if ternaryLevel < level then none
    else
      let chosen (resultTypes : Bool) :=
        seq [mark "?", read (.expression 0 false resultTypes), mark ":"] cursor
      let otherwise (chosen : List Tree × Cursor) :=
        (read (.expression ternaryLevel line typed) chosen.2).map fun (more, rest) =>
          (wrap .ternaryExpression (asLast .left left ++ chosen.1 ++ more), rest)
      match chosen true with
      | none => (chosen false).bind otherwise
      | some withTypes =>
        match otherwise withTypes with
        | some result => some result
        | none =>
          (chosen false).bind fun without =>
            if without.2.offset = withTypes.2.offset then none else otherwise without
  | .optionalAccess =>
    let chain := role .object chainMark
    choice [
      fun _ => after .callExpression .function [
        chain, optional (typeArguments read), role .arguments (arguments read)],
      fun _ => after .subscriptExpression .object [
        chain, mark "[", role .index (read (.expressions false)), mark "]"],
      fun _ => after .memberExpression .object [
        chain, role .property (choice [privateName, propertyName])]] cursor
  | .update text =>
    if unaryLevel + 1 < level then none
    else after .updateExpression .value [mark text]
  | .nonNull => if isAccess then after .nonNullExpression .value [mark "!"] else none
  | .access =>
    if isAccess then
      after .memberExpression .object [
        mark ".", role .property (choice [privateName, propertyName])]
    else none
  | .element =>
    if isAccess then
      after .subscriptExpression .object [
        mark "[", role .index (read (.expressions false)), mark "]"]
    else none
  | .call =>
    if isAccess then after .callExpression .function [role .arguments (arguments read)] else none
  | .template =>
    if isAccess then after .callExpression .function [role .arguments (templateString read)]
    else none
  | .binary text binding =>
    let generic := text = "<" && isAccess
    let called := if generic then
        after .callExpression .function [typeArguments read, role .arguments (arguments read)]
      else none
    match called with
    | some result => some result
    | none =>
      let comparison := if binding < level then none else
        after .binaryExpression .left [
          mark text, role .right (read (.expression (binding + 1) line typed))]
      if generic && level ≤ accessLevel - 1 then
        match typeArguments read cursor with
        | some (arguments, rest) =>
          if startsOperand rest && !(line && rest.lineCloses .expression) then comparison
          else some (wrap .instantiationExpression (asLast .function left ++ arguments), rest)
        | none => comparison
      else comparison
  | .other =>
    match cursor.peekWord with
    | "in" =>
      if relationLevel < level then none
      else after .binaryExpression .left [
        word "in", role .right (read (.expression (relationLevel + 1) line typed))]
    | "instanceof" =>
      if relationLevel < level then none
      else after .binaryExpression .left [
        word "instanceof", role .right (read (.expression (relationLevel + 1) line typed))]
    | "as" =>
      if castLevel < level then none
      else after .asExpression .value [
        word "as",
        choice [seq [word "const", notAhead (choice [mark "[", mark "<"])], read (.type line)]]
    | "satisfies" =>
      if castLevel < level then none
      else after .satisfiesExpression .value [word "satisfies", read (.type line)]
    | _ => none

/-- Extends an operand as far as its level and the line allow; `fuel` bounds the number of steps. -/
def extendAll (read : Reader) (level : Nat) (line typed : Bool) :
    Nat → List Tree → Cursor → List Tree × Cursor
  | 0, left, cursor => (left, cursor)
  | fuel + 1, left, cursor =>
    if (left.getLast?).any isClosed then (left, cursor)
    else if line && cursor.lineCloses .expression then (left, cursor)
    else
      match extend read level line typed left cursor with
      | none => (left, cursor)
      | some (left, after) => extendAll read level line typed fuel left after

def expression (read : Reader) (level : Nat) (line typed : Bool) : Fragment := fun cursor =>
  match operand read line typed cursor with
  | none => none
  | some (first, after) =>
    if accessLevel < level then some (first, after)
    else some (extendAll read level line typed (after.rest.length + 1) first after)

end ComponentGate.Grammar
