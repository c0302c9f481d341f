import ComponentGate.Grammar.Expressions

/-!
Statements and declarations. A lenient reading, made only of texts that have no exact one, marks a
missing semicolon and skips what starts no statement, so that the rest of the text can still be read.
-/

namespace ComponentGate.Grammar

open Syntax Syntax.Fragment

/-- An erroneous piece of the text. -/
def errorNode (start stop : Cursor) (children : List Tree) : Tree :=
  .node ⟨.construct .error, none, start.offset, stop.offset, start.row⟩ children

/-- A semicolon; a lenient reading marks the place where it is missing. -/
def closing (lenient : Bool) (context : LineContext) : Fragment := fun cursor =>
  match semicolon context cursor with
  | some result => some result
  | none => if lenient then some ([errorNode cursor cursor []], cursor) else none

/-- The value of a binding ends like an expression, a bare name does not. -/
def bindingContext (trees : List Tree) : LineContext :=
  if (trees.getLast?.bind fun tree => tree.child? .value).isSome then .expression else .plain

def variableDeclarator (read : Reader) : Fragment :=
  construct .variableDeclarator [
    role .name (choice [destructuring read, nameAs .identifier]),
    choice [
      seq [mark "!", role .type (typeAscription read true), notAhead equals],
      seq [optional (role .type (typeAscription read true)), optional (initializer read true)]]]

def declarators (read : Reader) (lenient : Bool) : Fragment := fun cursor =>
  match separated (mark ",") (variableDeclarator read) cursor with
  | none => none
  | some (trees, after) =>
    (closing lenient (bindingContext trees) after).map fun (more, after) => (trees ++ more, after)

/-- A word that is also a name introduces a declaration only if its line goes on. -/
def contextual (text : String) : Fragment :=
  seq [word text, guarded fun cursor => !cursor.lineCloses .expression]

def lexicalDeclaration (read : Reader) (lenient : Bool) : Fragment :=
  construct .lexicalDeclaration [
    choice [seq [word "const", notAhead (word "enum")], contextual "let"],
    declarators read lenient]

def variableDeclaration (read : Reader) (lenient : Bool) : Fragment :=
  construct .variableDeclaration [word "var", declarators read lenient]

/-- After a closing brace the line end is read too, with the comments on it. -/
def braceEnd : Fragment := optional (lineEnd .expression)

def functionDeclaration (read : Reader) (lenient : Bool) : Fragment :=
  let opening := [optional (word "async"), word "function"]
  let tail := [
    role .name (nameAs .identifier), callSignature read true true, role .body (read .block),
    braceEnd]
  choice [
    construct .generatorFunctionDeclaration (opening ++ [mark "*"] ++ tail),
    construct .functionDeclaration (opening ++ tail),
    construct .functionSignature (opening ++ [
      role .name (nameAs .identifier), callSignature read true true, closing lenient .signature])]

def classDeclaration (read : Reader) : Fragment :=
  choice [
    construct .abstractClassDeclaration [
      many (decorator read), word "abstract", classTail read true],
    construct .classDeclaration [many (decorator read), classTail read true, braceEnd]]

def moduleTail (read : Reader) : Fragment :=
  seq [
    role .name (choice [string, moduleName]),
    optional (role .body (read .block))]
where
  moduleName : Fragment := fun cursor =>
    match nameAs .identifier cursor with
    | none => none
    | some (first, after) => some (go (after.rest.length + 1) first after)
  go : Nat → List Tree → Cursor → List Tree × Cursor
    | 0, left, cursor => (left, cursor)
    | fuel + 1, left, cursor =>
      match seq [mark ".", role .property propertyName] cursor with
      | some (more, after) => go fuel (wrap .nestedIdentifier (asLast .object left ++ more)) after
      | none => (left, cursor)

def moduleDeclaration (read : Reader) : Fragment :=
  construct .moduleDeclaration [contextual "module", moduleTail read]

def internalModule (read : Reader) : Fragment :=
  construct .internalModule [contextual "namespace", moduleTail read]

def extendedType (read : Reader) : Fragment :=
  role .type (namedType read)

def interfaceDeclaration (read : Reader) : Fragment :=
  construct .interfaceDeclaration [
    word "interface", role .name typeName, optional (typeParameters read),
    optional (construct .extendsTypeClause [
      word "extends", separated (mark ",") (extendedType read)]),
    role .body (objectTypeAs .interfaceBody read)]

def typeAlias (read : Reader) (lenient : Bool) : Fragment :=
  construct .typeAliasDeclaration [
    contextual "type", role .name typeName, optional (typeParameters read), equals,
    role .value (read (.type true)), closing lenient .plain]

def enumDeclaration (read : Reader) : Fragment :=
  let member := choice [
    construct .enumAssignment [role .name (memberName read), initializer read false],
    role .name (memberName read)]
  construct .enumDeclaration [
    optional (word "const"), word "enum", role .name (nameAs .identifier),
    role .body (construct .enumBody [mark "\x7b", optional (commaList member), mark "\x7d"])]

def pathName : Fragment := fun cursor =>
  match nameAs .identifier cursor with
  | none => none
  | some (first, after) => some (moduleTail.go (after.rest.length + 1) first after)

def importAlias (lenient : Bool) : Fragment :=
  construct .importAlias [
    word "import", nameAs .identifier, equals, pathName, closing lenient .plain]

/-- The declarations that may be exported or declared ambient. -/
def plainDeclaration (read : Reader) (lenient : Bool) : Fragment := fun cursor =>
  match cursor.peekWord with
  | "function" | "async" => functionDeclaration read lenient cursor
  | "class" | "abstract" => classDeclaration read cursor
  | "const" => choice [enumDeclaration read, lexicalDeclaration read lenient] cursor
  | "let" => lexicalDeclaration read lenient cursor
  | "var" => variableDeclaration read lenient cursor
  | "module" => moduleDeclaration read cursor
  | "namespace" => internalModule read cursor
  | "type" => typeAlias read lenient cursor
  | "enum" => enumDeclaration read cursor
  | "interface" => interfaceDeclaration read cursor
  | "import" => importAlias lenient cursor
  | "" => classDeclaration read cursor
  | _ => none

def ambientDeclaration (read : Reader) (lenient : Bool) : Fragment :=
  construct .ambientDeclaration [
    contextual "declare",
    choice [
      plainDeclaration read lenient,
      seq [word "global", read .block],
      seq [
        word "module", mark ".", propertyName, mark ":", read (.type true),
        closing lenient .plain]]]

def declaration (read : Reader) (lenient : Bool) : Fragment := fun cursor =>
  match cursor.peekWord with
  | "declare" => ambientDeclaration read lenient cursor
  | _ => plainDeclaration read lenient cursor

/-! ### Imports and exports -/

def fromClause : Fragment := seq [word "from", role .source string]

def importAttribute (read : Reader) : Fragment :=
  construct .importAttribute [choice [word "with", word "assert"], object read]

/-- What stands in the braces of an import or export: a name with perhaps another one, marked or
not as a type. -/
def specifier (kind : Kind) (name : Fragment) (aliased : Fragment) : Fragment :=
  let marker := choice [word "type", word "typeof"]
  let closed := ahead (choice [mark ",", mark "\x7d"])
  let renamed := seq [role .name name, word "as", aliased]
  construct kind [
    choice [
      seq [marker, renamed, closed],
      seq [marker, role .name name, closed],
      seq [renamed, closed],
      seq [role .name name, closed]]]

def importSpecifier : Fragment :=
  specifier .importSpecifier (choice [nameAs .identifier, string]) (nameAs .identifier)

def exportSpecifier : Fragment :=
  let name := choice [nameAs .identifier, string]
  specifier .exportSpecifier name name

def braced (kind : Kind) (item : Fragment) : Fragment :=
  construct kind [mark "\x7b", optional (commaList item), mark "\x7d"]

def namespaceImport : Fragment :=
  construct .namespaceImport [mark "*", word "as", nameAs .identifier]

def importClause : Fragment :=
  let group := choice [namespaceImport, braced .namedImports importSpecifier]
  construct .importClause [
    choice [
      group, seq [nameExcept .identifier ["typeof"], optional (seq [mark ",", group])]]]

def importStatement (read : Reader) (lenient : Bool) : Fragment :=
  let require := construct .importRequireClause [
    nameAs .identifier, equals, word "require", mark "(", role .source string, mark ")"]
  let what := choice [seq [importClause, fromClause], require, role .source string]
  let tail := [optional (importAttribute read), closing lenient .plain]
  choice [
    construct .importStatement (
      [word "import", choice [word "type", word "typeof"], what] ++ tail),
    construct .importStatement ([word "import", what] ++ tail)]

/-- The word of an export with what can only belong to one. -/
def exportOpening : Fragment :=
  seq [
    contextual "export",
    choice [mark "*", mark "\x7b", equals, word "as", word "default"]]

def exportStatement (read : Reader) (lenient : Bool) : Fragment :=
  let clause := braced .exportClause exportSpecifier
  let opening := contextual "export"
  let finish := closing lenient .plain
  let origin := seq [fromClause, optional (importAttribute read)]
  choice [
    construct .exportStatement [
      opening,
      choice [
        seq [mark "*", origin],
        seq [
          construct .namespaceExport [
            mark "*", word "as", choice [nameAs .identifier, string]], origin],
        seq [clause, optional origin]],
      finish],
    construct .exportStatement [opening, word "type", clause, optional fromClause, finish],
    construct .exportStatement [
      opening, equals, read (.expression 0 true true), closing lenient .expression],
    construct .exportStatement [
      opening, word "as", word "namespace", nameAs .identifier, finish],
    construct .exportStatement [
      many (decorator read), opening, word "default",
      choice [
        role .declaration (declaration read lenient),
        seq [
          role .value (read (.expression 0 true true)), closing lenient .expression]]],
    construct .exportStatement [
      many (decorator read), opening, role .declaration (declaration read lenient)]]

/-! ### Control flow -/

def condition (read : Reader) : Fragment := parenthesized read

def ifStatement (read : Reader) : Fragment :=
  construct .ifStatement [
    word "if", condition read, read .statement,
    whereWord "else" (construct .elseClause [word "else", read .statement])]

/-- Statements up to the next case. -/
def caseBody (read : Reader) : Fragment :=
  many (seq [notAhead (choice [word "case", word "default"]), role .body (read .statement)])

def switchStatement (read : Reader) : Fragment :=
  construct .switchStatement [
    word "switch", condition read,
    role .body (construct .switchBody [
      mark "\x7b",
      many (choice [
        construct .switchCase [word "case", read (.expressions false), mark ":", caseBody read],
        construct .switchDefault [word "default", mark ":", caseBody read]]),
      mark "\x7d"])]

def forInHeader (read : Reader) : Fragment :=
  let binding := role .left (choice [destructuring read, nameAs .identifier])
  seq [
    choice [
      seq [word "var", binding, optional (initializer read false)],
      seq [choice [word "let", word "const"], binding],
      role .left (choice [destructuring read, place read, parenthesized read])],
    choice [word "in", word "of"], role .right (read (.expressions false))]

def forStatement (read : Reader) : Fragment :=
  choice [
    construct .forInStatement [
      word "for", optional (word "await"), mark "(", forInHeader read, mark ")",
      role .body (read .statement)],
    construct .forStatement [
      word "for", mark "(",
      choice [
        lexicalDeclaration read false, variableDeclaration read false,
        seq [read (.expressions false), mark ";"], construct .emptyStatement [mark ";"]],
      choice [
        seq [read (.expressions false), mark ";"], construct .emptyStatement [mark ";"]],
      optional (read (.expressions false)), mark ")", role .body (read .statement)]]

def tryStatement (read : Reader) : Fragment :=
  let caught := seq [
    mark "(", role .parameter (choice [destructuring read, nameAs .identifier]),
    optional (role .type (typeAscription read false)), mark ")"]
  construct .tryStatement [
    word "try", role .body (read .block),
    whereWord "catch" (construct .catchClause [
      word "catch", optional caught, role .body (read .block)]),
    whereWord "finally" (construct .finallyClause [
      word "finally", role .body (read .block)])]

/-- A word that may be followed by a label. -/
def jump (kind : Kind) (text : String) (lenient : Bool) : Fragment :=
  construct kind [
    word text,
    choice [
      lineEnd .plain, mark ";",
      seq [nameAs .statementIdentifier, closing lenient .plain]]]

def returnStatement (read : Reader) (lenient : Bool) : Fragment :=
  construct .returnStatement [
    word "return",
    choice [
      lineEnd .plain, mark ";",
      seq [read (.expressions true), closing lenient .expression]]]

def expressionStatement (read : Reader) (lenient : Bool) : Fragment :=
  construct .expressionStatement [read (.expressions true), closing lenient .expression]

def labeledStatement (read : Reader) : Fragment :=
  construct .labeledStatement [
    nameAs .statementIdentifier, mark ":", role .body (read .statement)]

/-- Statements that no keyword introduces. -/
def otherStatement (read : Reader) (lenient : Bool) : Fragment :=
  choice [labeledStatement read, expressionStatement read lenient]

/-- The opening of a function or class with a name, which declares it. -/
def namedOpening : Fragment :=
  choice [
    seq [word "function", optional (mark "*"), nameAs .identifier],
    seq [word "class", nameExcept .typeIdentifier ["extends", "implements"]]]

def statement (read : Reader) (lenient : Bool) : Fragment := fun cursor =>
  let declared (more : List Fragment) := choice (declaration read lenient :: more) cursor
  let other := otherStatement read lenient
  let expression := expressionStatement read lenient
  match cursor.peek with
  | [] => none
  | '\x7b' :: _ => braces (read .block) expression cursor
  | ';' :: _ => construct .emptyStatement [mark ";"] cursor
  | '@' :: _ => choice [classDeclaration read, exportStatement read lenient, expression] cursor
  | _ =>
    match cursor.peekWord with
    | "" => expression cursor
    | "import" => choice [
        importStatement read lenient, importAlias lenient, expression] cursor
    | "export" => choice [
        exportStatement read lenient, seq [notAhead exportOpening, other]] cursor
    | "debugger" => construct .debuggerStatement [word "debugger", closing lenient .plain] cursor
    | "var" | "const" | "abstract" | "enum" | "interface" => declared []
    | "function" | "class" => declared [seq [notAhead namedOpening, expression]]
    | "let" | "async" | "type" | "declare" | "module" => declared [other]
    | "namespace" => choice [
        construct .expressionStatement [internalModule read, closing false .expression],
        internalModule read, other] cursor
    | "if" => ifStatement read cursor
    | "switch" => switchStatement read cursor
    | "for" => forStatement read cursor
    | "while" => construct .whileStatement [
        word "while", condition read, role .body (read .statement)] cursor
    | "do" => construct .doStatement [
        word "do", role .body (read .statement), word "while", condition read,
        optional (semicolon .expression)] cursor
    | "try" => tryStatement read cursor
    | "with" => construct .withStatement [
        word "with", condition read, role .body (read .statement)] cursor
    | "break" => jump .breakStatement "break" lenient cursor
    | "continue" => jump .continueStatement "continue" lenient cursor
    | "return" => returnStatement read lenient cursor
    | "throw" => construct .throwStatement [
        word "throw", read (.expressions true), closing lenient .expression] cursor
    | _ => other cursor

/-- The piece of text that a lenient reading leaves out where no statement starts. -/
def skippedPiece (cursor : Cursor) : Option (List Tree × Cursor) :=
  let (comments, start) := cursor.nextToken
  match start.rest with
  | [] => none
  | _ =>
    let after :=
      match choice [number, string, nameAs .identifier, privateName] start with
      | some (_, after) => after
      | none => start.advance 1
    some (comments ++ [errorNode start after []], after)

/-- Whether a closing brace comes for each of `depth` open ones, and for those that open on the way;
`fuel` bounds the number of pieces. -/
def closesBraces : Nat → Nat → Cursor → Bool
  | 0, _, _ => false
  | fuel + 1, depth, cursor =>
    let opens := cursor.peek.head? == some '\x7b'
    let closes := cursor.peek.head? == some '\x7d'
    if closes && depth ≤ 1 then true
    else
      match skippedPiece cursor with
      | some (_, after) =>
        closesBraces fuel (if opens then depth + 1 else if closes then depth - 1 else depth) after
      | none => false

/-- Statements one after the other; a lenient reading passes over what starts none, up to a closing
brace or, outside of braces, to the end. -/
def statements (read : Reader) (lenient inside : Bool) : Fragment :=
  let exact := choice [htmlComment, read .statement]
  if lenient then
    many (choice [
      exact, seq [if inside then notAhead (mark "\x7d") else nothing, skippedPiece]])
  else many exact

/-- A lenient reading does not enter braces that are not closed, which it could not leave. -/
def block (read : Reader) (lenient : Bool) : Fragment :=
  construct .statementBlock [
    mark "\x7b",
    if lenient then guarded fun cursor => closesBraces (cursor.rest.length + 1) 1 cursor
    else nothing,
    statements read lenient true, mark "\x7d", braceEnd]

def hashBang : Fragment := token (.construct .hashBang) fun rest =>
  match rest with
  | '#' :: '!' :: more => some (2 + (more.takeWhile fun c => !endsLineComment c).length)
  | _ => none

end ComponentGate.Grammar
