import ComponentGate.Grammar.Literals

/-!
Binding patterns, parameters and call signatures.
-/

namespace ComponentGate.Grammar

open Syntax Syntax.Fragment

/-- An equals sign that is no part of a comparison or an arrow. -/
def equals : Fragment := token (.token "=") fun rest =>
  match rest with
  | '=' :: '=' :: _ => none
  | '=' :: '>' :: _ => none
  | '=' :: _ => some 1
  | _ => none

/-- `= value` behind a name or pattern. -/
def initializer (read : Reader) (line : Bool) : Fragment :=
  seq [equals, role .value (read (.expression 0 line true))]

/-- What a binding takes apart: an object or an array. -/
def destructuring (read : Reader) : Fragment := read .pattern

/-- A place that an assignment pattern may write to: a name and accesses to its members. -/
def place (read : Reader) : Fragment := fun cursor =>
  match choice [wordAs .thisName "this", wordAs .superName "super", identifier] cursor with
  | none => none
  | some (first, after) => some (accesses read (after.rest.length + 1) first after)
where
  /-- Extends the place read so far; `fuel` bounds the number of accesses. -/
  accesses (read : Reader) : Nat → List Tree → Cursor → List Tree × Cursor
    | 0, left, cursor => (left, cursor)
    | fuel + 1, left, cursor =>
      let member := seq [
        choice [mark ".", role .object (wordAs .optionalChain "?.")],
        role .property (choice [privateName, propertyName])]
      let element := seq [mark "[", role .index (read (.expressions false)), mark "]"]
      match member cursor with
      | some (more, after) =>
        accesses read fuel (wrap .memberExpression (asLast .object left ++ more)) after
      | none =>
        match element cursor with
        | some (more, after) =>
          accesses read fuel (wrap .subscriptExpression (asLast .object left ++ more)) after
        | none => (left, cursor)

/-- What a pattern binds: a place or a pattern within it. -/
def target (read : Reader) : Fragment := choice [destructuring read, place read]

def restPattern (read : Reader) : Fragment := construct .restPattern [mark "...", target read]

/-- A target with a value for the case that nothing is there. -/
def targetWithDefault (read : Reader) : Fragment := fun cursor =>
  match target read cursor with
  | none => none
  | some (trees, after) =>
    match seq [equals, role .right (read (.expression 0 false true))] after with
    | some (more, after) => some (wrap .assignmentPattern (asLast .left trees ++ more), after)
    | none => some (trees, after)

def objectPattern (read : Reader) : Fragment :=
  let shorthand := nameAs .shorthandPropertyPattern
  construct .objectPattern [
    mark "\x7b",
    sparseList (choice [
      construct .pairPattern [memberName read, mark ":", role .value (targetWithDefault read)],
      restPattern read,
      construct .objectAssignmentPattern [
        role .left (choice [shorthand, destructuring read]), equals,
        role .right (read (.expression 0 false true))],
      shorthand]),
    mark "\x7d"]

def arrayPattern (read : Reader) : Fragment :=
  construct .arrayPattern [
    mark "[", sparseList (choice [restPattern read, targetWithDefault read]), mark "]"]

def pattern (read : Reader) : Fragment := fun cursor =>
  match cursor.peek with
  | '\x7b' :: _ => objectPattern read cursor
  | '[' :: _ => arrayPattern read cursor
  | _ => none

def typeAscription (read : Reader) (line : Bool) : Fragment :=
  construct .typeAscription [mark ":", read (.type line)]

def decoratorMember : Fragment := fun cursor =>
  match nameAs .identifier cursor with
  | none => none
  | some (first, after) => some (go (after.rest.length + 1) first after)
where
  go : Nat → List Tree → Cursor → List Tree × Cursor
    | 0, left, cursor => (left, cursor)
    | fuel + 1, left, cursor =>
      match seq [mark ".", role .property propertyName] cursor with
      | some (more, after) => go fuel (wrap .memberExpression (asLast .object left ++ more)) after
      | none => (left, cursor)

def spread (read : Reader) : Fragment :=
  construct .spreadElement [mark "...", read (.expression 0 false true)]

def arguments (read : Reader) : Fragment :=
  construct .arguments [
    mark "(", sparseList (choice [spread read, read (.expression 0 false true)]), mark ")"]

def typeArguments (read : Reader) : Fragment :=
  construct .typeArguments [mark "<", commaList (read (.type false)), mark ">"]

def decorator (read : Reader) : Fragment :=
  construct .decorator [
    mark "@",
    choice [
      construct .parenthesized [mark "(", read (.expression 0 false true), mark ")"],
      construct .callExpression [
        role .function decoratorMember, optional (typeArguments read),
        role .arguments (arguments read)],
      decoratorMember]]

/-- Whether a name, a further modifier or a pattern may start here. -/
def startsMember (cursor : Cursor) : Bool :=
  match cursor.peek with
  | [] => false
  | c :: _ => isNameStart c || isDecimalDigit c || "\"'[#*.\x7b\\".toList.contains c

/-- A modifier is a word that is not itself the name: what it modifies has to follow, and on the
same line. -/
def modifier (text : String) : Fragment :=
  seq [word text, notAhead (lineEnd .plain), guarded startsMember]

def accessibilityModifier : Fragment :=
  construct .accessibilityModifier [
    choice [modifier "public", modifier "private", modifier "protected"]]

def overrideModifier : Fragment := construct .overrideModifier [modifier "override"]

/-- Parameters may carry modifiers; a parameter whose name spells a modifier carries none. -/
def parameterName (read : Reader) : Fragment :=
  let name := role .pattern (choice [
    restPattern read, destructuring read, wordAs .thisName "this", identifier])
  let closed := ahead (choice [mark ",", mark ")", mark "?", mark ":", equals])
  let bare := seq [many (decorator read), name, closed]
  choice [
    bare,
    seq [
      many (decorator read), optional accessibilityModifier, optional overrideModifier,
      optional (modifier "readonly"), name, closed]]

def formalParameter (read : Reader) : Fragment := fun cursor =>
  let tail := seq [
    optional (role .type (typeAscription read false)), optional (initializer read false)]
  match parameterName read cursor with
  | none => none
  | some (name, after) =>
    match seq [mark "?", tail] after with
    | some (more, after) => some (wrap .optionalParameter (name ++ more), after)
    | none => (tail after).map fun (more, after) => (wrap .requiredParameter (name ++ more), after)

def formalParameters (read : Reader) : Fragment :=
  construct .formalParameters [
    mark "(", optional (commaList (formalParameter read)), mark ")"]

def typeParameter (read : Reader) : Fragment :=
  construct .typeParameter [
    optional (seq [word "const", ahead (nameAs .typeIdentifier)]),
    role .name (nameAs .typeIdentifier),
    optional (construct .typeConstraint [choice [word "extends", mark ":"], read (.type false)]),
    optional (role .value (construct .defaultType [mark "=", read (.type false)]))]

def typeParameters (read : Reader) : Fragment :=
  construct .typeParameters [mark "<", commaList (typeParameter read), mark ">"]

def typePredicate (read : Reader) (line : Bool) : Fragment :=
  construct .typePredicate [
    role .name (choice [wordAs .thisName "this", nameAs .identifier]), word "is",
    role .type (read (.type line))]

def asserts (read : Reader) (line : Bool) : Fragment :=
  construct .asserts [
    word "asserts",
    choice [typePredicate read line, wordAs .thisName "this", nameAs .identifier]]

/-- What a function promises about its result. -/
def resultType (read : Reader) (line : Bool) : Fragment :=
  choice [
    construct .assertsAscription [mark ":", asserts read line],
    construct .typePredicateAscription [mark ":", typePredicate read line],
    typeAscription read line]

/-- Type parameters, parameters and, where `typed` allows it, a result type. -/
def callSignature (read : Reader) (line typed : Bool) : Fragment :=
  seq [
    optional (typeParameters read), role .parameters (formalParameters read),
    if typed then optional (resultType read line) else nothing]

end ComponentGate.Grammar
