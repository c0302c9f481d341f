import ComponentGate.Grammar.Patterns

/-!
Type expressions. Unions bind weaker than intersections, and a conditional type is weaker than both;
a type that a line end may close does not take an opening bracket from the next line.
-/

namespace ComponentGate.Grammar

open Syntax Syntax.Fragment

def typeName : Fragment := nameAs .typeIdentifier

/-- `a.b.c`, whose last name is a type and whose others are values. -/
def nestedTypeName : Fragment := fun cursor =>
  match seq [nameAs .identifier, mark ".", nameAs .propertyIdentifier] cursor with
  | none => none
  | some _ =>
    match nameAs .identifier cursor with
    | none => none
    | some (first, after) => go (after.rest.length + 1) first after
where
  /-- Reads one more name; it is the last one unless another point follows. -/
  go : Nat → List Tree → Cursor → Option (List Tree × Cursor)
    | 0, _, _ => none
    | fuel + 1, left, cursor =>
      let inner := seq [mark ".", role .property propertyName, ahead (mark ".")]
      match inner cursor with
      | some (more, after) =>
        go fuel (wrap .nestedIdentifier (asLast .object left ++ more)) after
      | none =>
        (seq [mark ".", role .name typeName] cursor).map fun (more, after) =>
          (wrap .nestedTypeIdentifier (inward left ++ more), after)
  /-- Names inside a longer path are member accesses; the outermost path keeps its own kind. -/
  inward (left : List Tree) : List Tree := left.map memberInside
  memberInside : Tree → Tree
    | .node label (first :: rest) => .node label (asMember first :: rest)
    | tree => tree
  asMember : Tree → Tree
    | .node label (first :: rest) =>
      if label.symbol = .construct .nestedIdentifier then
        .node { label with symbol := .construct .memberExpression } (asMember first :: rest)
      else .node label (first :: rest)
    | tree => tree

def namedType (read : Reader) : Fragment := fun cursor =>
  match choice [nestedTypeName, typeName] cursor with
  | none => none
  | some (name, after) =>
    match typeArguments read after with
    | some (arguments, after) =>
      some (wrap .genericType (asLast .name name ++ arguments), after)
    | none => some (name, after)

def predefinedType : Fragment := fun cursor =>
  match cursor.peekWord with
  | "any" | "number" | "boolean" | "string" | "symbol" | "void" | "unknown" | "never" | "object" =>
    construct .predefinedType [token (.token cursor.peekWord) Lexeme.name] cursor
  | "unique" => construct .predefinedType [word "unique", word "symbol"] cursor
  | _ => none

def thisType : Fragment := wordAs .thisType "this"

def literalType : Fragment := fun cursor =>
  construct .literalType [
    choice [
      construct .unaryExpression [choice [mark "-", mark "+"], number], number, string,
      wordAs .trueLiteral "true", wordAs .falseLiteral "false", wordAs .nullLiteral "null",
      wordAs .undefinedName "undefined"]] cursor

/-- The members of a loaded module, spelled as a value: `import('m').T`. -/
def importedType (read : Reader) : Fragment := fun cursor =>
  let load := construct .callExpression [
    role .function (wordAs .importName "import"), role .arguments (arguments read)]
  match load cursor with
  | none => none
  | some (first, after) => some (go (after.rest.length + 1) first after)
where
  go : Nat → List Tree → Cursor → List Tree × Cursor
    | 0, left, cursor => (left, cursor)
    | fuel + 1, left, cursor =>
      match seq [mark ".", role .property (choice [privateName, propertyName])] cursor with
      | some (more, after) => go fuel (wrap .memberExpression (asLast .object left ++ more)) after
      | none => (left, cursor)

/-- The value behind `typeof`, as far as a type may name one. -/
def queriedValue (read : Reader) : Fragment := fun cursor =>
  match choice [wordAs .thisName "this", wordAs .importName "import", identifier] cursor with
  | none => none
  | some (first, after) => some (go read (after.rest.length + 1) first after)
where
  go (read : Reader) : Nat → List Tree → Cursor → List Tree × Cursor
    | 0, left, cursor => (left, cursor)
    | fuel + 1, left, cursor =>
      let member := seq [
        choice [mark ".", mark "?."], role .property (choice [privateName, propertyName])]
      let element := seq [
        mark "[", role .index (choice [string, number, predefinedType]), mark "]"]
      match member cursor with
      | some (more, after) =>
        go read fuel (wrap .memberExpression (asLast .object left ++ more)) after
      | none =>
        match element cursor with
        | some (more, after) =>
          go read fuel (wrap .subscriptExpression (asLast .object left ++ more)) after
        | none =>
          match role .arguments (arguments read) cursor with
          | some (more, after) =>
            go read fuel (wrap .callExpression (asLast .function left ++ more)) after
          | none =>
            match typeArguments read cursor with
            | some (more, after) =>
              (wrap .instantiationExpression (asLast .function left ++ more), after)
            | none => (left, cursor)

def parameterTuple (read : Reader) : Fragment :=
  let name := role .name (choice [restPattern read, nameAs .identifier])
  choice [
    construct .optionalParameter [name, mark "?", role .type (typeAscription read false)],
    construct .requiredParameter [name, role .type (typeAscription read false)],
    construct .restType [mark "...", read (.type false)],
    construct .optionalType [read (.type false), mark "?"],
    read (.type false)]

def tupleType (read : Reader) : Fragment :=
  construct .tupleType [mark "[", optional (commaList (parameterTuple read)), mark "]"]

def templateType (read : Reader) : Fragment :=
  construct .templateLiteralType [
    mark "`",
    many (choice [
      adjacent (.construct .stringFragment) Lexeme.templateFragment,
      construct .templateType [adjacentMark "$\x7b", read (.type false), mark "\x7d"]]),
    adjacentMark "`"]

def mappedClause (read : Reader) : Fragment :=
  construct .mappedTypeClause [
    role .name typeName, word "in", role .type (read (.type false)),
    optional (seq [word "as", read (.type false)])]

def indexSignature (read : Reader) : Fragment :=
  let sign := optional (choice [mark "-", mark "+"])
  construct .indexSignature [
    optional (seq [sign, word "readonly"]),
    mark "[",
    choice [
      mappedClause read,
      seq [role .name (nameAs .identifier), mark ":", read (.type false)]],
    mark "]",
    role .type (choice [
      construct .omittingTypeAscription [mark "-?:", read (.type true)],
      construct .addingTypeAscription [mark "+?:", read (.type true)],
      construct .optingTypeAscription [mark "?:", read (.type true)],
      typeAscription read true])]

def memberModifiers : Fragment :=
  seq [
    optional accessibilityModifier, optional (modifier "static"), optional overrideModifier,
    optional (modifier "readonly")]

/-- Runs `fragment` behind the modifiers, or without them where they are the name itself. -/
def modified (modifiers fragment : Fragment) : Fragment := fun cursor =>
  match seq [modifiers, fragment] cursor with
  | some result => some result
  | none =>
    if (modifiers cursor).any fun (_, after) => after.offset = cursor.offset then none
    else fragment cursor

/-- The words that may stand before a method's name. -/
def methodPrefixes : Fragment :=
  seq [
    optional (modifier "async"), optional (choice [modifier "get", modifier "set", mark "*"])]

def methodSignature (read : Reader) : Fragment :=
  construct .methodSignature [
    modified (seq [memberModifiers, methodPrefixes])
      (seq [
        role .name (memberName read), optional (mark "?"), callSignature read true true])]

def propertySignature (read : Reader) : Fragment :=
  construct .propertySignature [
    modified memberModifiers (seq [
      role .name (memberName read), optional (mark "?"),
      optional (role .type (typeAscription read true)),
      ahead (choice [semicolon .plain, mark ",", mark "|\x7d"])])]

def constructSignature (read : Reader) : Fragment :=
  construct .constructSignature [
    optional (word "abstract"), word "new", optional (typeParameters read),
    role .parameters (formalParameters read), optional (role .type (typeAscription read true))]

def typeMember (read : Reader) : Fragment :=
  choice [
    indexSignature read, constructSignature read,
    construct .callSignature [callSignature read true true],
    methodSignature read, propertySignature read]

def objectTypeAs (kind : Kind) (read : Reader) : Fragment :=
  let divider := choice [mark ",", semicolon .plain]
  construct kind [
    choice [mark "\x7b|", mark "\x7b"],
    optional (seq [
      optional (choice [mark ",", mark ";"]),
      typeMember read, many (seq [divider, typeMember read]), optional divider]),
    choice [mark "|\x7d", mark "\x7d"]]

def functionType (read : Reader) (line : Bool) : Fragment :=
  let result := choice [asserts read line, typePredicate read line, read (.type line)]
  choice [
    construct .functionType [
      optional (typeParameters read), role .parameters (formalParameters read), mark "=>",
      result],
    construct .constructorType [
      optional (word "abstract"), word "new", optional (typeParameters read),
      role .parameters (formalParameters read), mark "=>", read (.type line)]]

def parenthesizedType (read : Reader) : Fragment :=
  construct .parenthesizedType [mark "(", read (.type false), mark ")"]

/-- Array and lookup suffixes. A bracket on a new line does not belong to a type that the line end
closes. -/
def typeSuffixes (read : Reader) (line : Bool) : Nat → List Tree → Cursor → List Tree × Cursor
  | 0, left, cursor => (left, cursor)
  | fuel + 1, left, cursor =>
    if line && cursor.lineCloses .plain then (left, cursor)
    else
      match seq [mark "[", mark "]"] cursor with
      | some (more, after) => typeSuffixes read line fuel (wrap .arrayType (left ++ more)) after
      | none =>
        match seq [mark "[", read (.type false), mark "]"] cursor with
        | some (more, after) => typeSuffixes read line fuel (wrap .lookupType (left ++ more)) after
        | none => (left, cursor)

def primaryType (read : Reader) (line : Bool) : Fragment := fun cursor =>
  let start := cursor.peek
  let bare : Fragment :=
    match start with
    | '(' :: _ => parenthesizedType read
    | '\x7b' :: _ => objectTypeAs .objectType read
    | '[' :: _ => tupleType read
    | '`' :: _ => templateType read
    | '*' :: _ => construct .existentialType [mark "*"]
    | '?' :: _ => construct .maybeType [mark "?", read (.type line)]
    | _ =>
      match cursor.peekWord with
      | "typeof" => construct .typeQuery [word "typeof", queriedValue read]
      | "import" => importedType read
      | "this" => thisType
      | "const" => word "const"
      | _ => choice [literalType, predefinedType, namedType read]
  match bare cursor with
  | none => none
  | some (first, after) => some (typeSuffixes read line (after.rest.length + 1) first after)

/-- One operand of a union or an intersection. -/
def typeOperand (read : Reader) (line : Bool) : Fragment := fun cursor =>
  match cursor.peek with
  | '(' :: _ => choice [functionType read line, primaryType read line] cursor
  | '<' :: _ => functionType read line cursor
  | _ =>
    match cursor.peekWord with
    | "new" | "abstract" => choice [functionType read line, primaryType read line] cursor
    | "readonly" =>
      choice [
        construct .readonlyType [word "readonly", operandAgain read line], primaryType read line]
        cursor
    | "keyof" =>
      choice [
        construct .indexTypeQuery [word "keyof", operandAgain read line], primaryType read line]
        cursor
    | "infer" =>
      choice [
        construct .inferType [
          word "infer", typeName,
          optional (seq [word "extends", operandAgain read line, notAhead (mark "?")])],
        primaryType read line] cursor
    | _ => primaryType read line cursor
where
  /-- The operand of a type operator: again an operator's, or a plain type. -/
  operandAgain (read : Reader) (line : Bool) : Fragment := fun cursor =>
    match cursor.peekWord with
    | "readonly" | "keyof" | "infer" | "new" => read (.type line) cursor
    | _ => primaryType read line cursor

/-- Operands with `mark` between them, and perhaps one in front, grouped to the left. -/
def joinedTypes (kind : Kind) (text : String) (line : Bool) (operand : Fragment) : Fragment :=
  fun cursor =>
    let opening := seq [mark text, operand]
    let first := match opening cursor with
      | some (trees, after) => some (wrap kind trees, after)
      | none => operand cursor
    match first with
    | none => none
    | some (trees, after) => some (go opening (after.rest.length + 1) trees after)
where
  go (next : Fragment) : Nat → List Tree → Cursor → List Tree × Cursor
    | 0, left, cursor => (left, cursor)
    | fuel + 1, left, cursor =>
      if line && cursor.lineCloses .plain then (left, cursor)
      else
        match next cursor with
        | some (more, after) => go next fuel (wrap kind (left ++ more)) after
        | none => (left, cursor)

def unionType (read : Reader) (line : Bool) : Fragment :=
  joinedTypes .unionType "|" line
    (joinedTypes .intersectionType "&" line (typeOperand read line))

def type (read : Reader) (line : Bool) : Fragment := fun cursor =>
  match unionType read line cursor with
  | none => none
  | some (left, after) =>
    let condition := seq [
      word "extends", unionType read false, mark "?", read (.type false), mark ":",
      read (.type line)]
    if line && after.lineCloses .plain then some (left, after)
    else
      match condition after with
      | some (more, after) => some (wrap .conditionalType (left ++ more), after)
      | none => some (left, after)

end ComponentGate.Grammar
