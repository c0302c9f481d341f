import ComponentGate.Grammar.Types

/-!
Classes: their heritage and members.
-/

namespace ComponentGate.Grammar

open Syntax Syntax.Fragment

/-- The level at which only member accesses and calls bind. -/
def accessLevel : Nat := 16

def extendsClause (read : Reader) : Fragment :=
  construct .extendsClause [
    word "extends",
    separated (mark ",") (seq [
      role .value (read (.expression accessLevel false true)), optional (typeArguments read)])]

def implementsClause (read : Reader) : Fragment :=
  construct .implementsClause [word "implements", separated (mark ",") (read (.type false))]

def classHeritage (read : Reader) : Fragment :=
  construct .classHeritage [
    choice [
      seq [extendsClause read, optional (implementsClause read)], implementsClause read]]

/-- A method with a body, of a class or an object. -/
def method (read : Reader) : Fragment :=
  construct .methodDefinition [
    modified (seq [memberModifiers, methodPrefixes]) (seq [
      role .name (memberName read), optional (mark "?"), callSignature read false true,
      role .body (read .block)])]

def abstractMethod (read : Reader) : Fragment :=
  construct .abstractMethodSignature [
    optional accessibilityModifier, word "abstract", optional overrideModifier,
    optional (choice [modifier "get", modifier "set", mark "*"]),
    role .name (memberName read), optional (mark "?"), callSignature read true true]

def fieldModifiers : Fragment :=
  seq [
    optional (choice [
      seq [modifier "declare", optional accessibilityModifier],
      seq [accessibilityModifier, optional (modifier "declare")]]),
    choice [
      seq [modifier "abstract", optional (modifier "readonly")],
      seq [modifier "readonly", modifier "abstract"],
      seq [modifier "accessor"],
      seq [
        optional (modifier "static"), optional overrideModifier, optional (modifier "readonly")]]]

/-- What closes a member that has no body. -/
def memberEnd (context : LineContext) : Fragment := choice [semicolon context, mark ","]

def fieldDefinition (read : Reader) : Fragment :=
  let field := seq [
    role .name (memberName read), optional (choice [mark "?", mark "!"]),
    optional (role .type (typeAscription read true)), optional (initializer read true),
    ahead (memberEnd .plain)]
  construct .fieldDefinition [many (decorator read), modified fieldModifiers field]

def classMember (read : Reader) : Fragment :=
  choice [
    seq [many (decorator read), method read, optional (semicolon .plain)],
    seq [methodSignature read, memberEnd .signature],
    construct .staticBlock [word "static", role .body (read .block)],
    seq [choice [abstractMethod read, indexSignature read], memberEnd .plain],
    seq [fieldDefinition read, memberEnd .plain],
    mark ";"]

def classBody (read : Reader) : Fragment :=
  construct .classBody [mark "\x7b", many (classMember read), mark "\x7d"]

/-- Everything behind the word that introduces a class. -/
def classTail (read : Reader) (named : Bool) : Fragment :=
  let name := role .name (nameExcept .typeIdentifier ["extends", "implements"])
  seq [
    word "class", if named then name else optional name, optional (typeParameters read),
    optional (classHeritage read), role .body (classBody read)]

end ComponentGate.Grammar
