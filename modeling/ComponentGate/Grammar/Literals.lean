import ComponentGate.Syntax.Semicolon

/-!
Literals and names: strings, templates, numbers, regular expressions, and the keys under which
objects and classes hold their members.
-/

namespace ComponentGate.Grammar

open Syntax Syntax.Fragment

def number : Fragment := token (.construct .number) Lexeme.number

def escape : Fragment := adjacent (.construct .escapeSequence) Lexeme.escape

def quoted (quote : Char) : Fragment :=
  let mark := String.singleton quote
  construct .string [
    token (.token mark) (scanText mark),
    many (choice [adjacent (.construct .stringFragment) (Lexeme.stringFragment quote), escape]),
    adjacentMark mark]

def string : Fragment := choice [quoted '"', quoted '\'']

/-- An attribute's string knows character references instead of escapes and may span lines. -/
def attributeQuoted (quote : Char) : Fragment :=
  let mark := String.singleton quote
  construct .string [
    token (.token mark) (scanText mark),
    many (choice [
      adjacent (.construct .stringFragment) (Lexeme.attributeFragment quote),
      adjacent (.construct .characterReference) Lexeme.characterReference]),
    adjacentMark mark]

def attributeString : Fragment := choice [attributeQuoted '"', attributeQuoted '\'']

def templateSubstitution (read : Reader) : Fragment :=
  construct .templateSubstitution [adjacentMark "$\x7b", read (.expressions false), mark "\x7d"]

def templateString (read : Reader) : Fragment :=
  construct .templateString [
    mark "`",
    many (choice [
      adjacent (.construct .stringFragment) Lexeme.templateFragment, escape,
      templateSubstitution read]),
    adjacentMark "`"]

def regex : Fragment :=
  construct .regex [
    mark "/", adjacent (.construct .regexPattern) Lexeme.regexPattern, adjacentMark "/",
    optional (adjacent (.construct .regexFlags) fun rest =>
      let count := (rest.takeWhile fun c => 'a' ≤ c && c ≤ 'z').length
      if 0 < count then some count else none)]

def privateName : Fragment := token (.construct .privateIdentifier) Lexeme.privateName

def propertyName : Fragment := nameAs .propertyIdentifier

/-- A name in expression position; the undefined value is a literal of its own. -/
def identifier : Fragment :=
  choice [wordAs .undefinedName "undefined", nameExcept .identifier ["undefined"]]

def computedName (read : Reader) : Fragment :=
  construct .computedPropertyName [mark "[", read (.expression 0 false true), mark "]"]

/-- The key of a member. -/
def memberName (read : Reader) : Fragment :=
  choice [propertyName, privateName, string, number, computedName read]

/-- The line-oriented comments that markup documents wrap scripts in. -/
def htmlComment : Fragment := fun cursor =>
  let start := cursor.skipFiller
  let text := start.rest
  if "<!--".toList.isPrefixOf text || "-->".toList.isPrefixOf text then
    let count := (text.takeWhile fun c =>
      c ≠ '\n' && c.toNat ≠ 0x2028 && c.toNat ≠ 0x2029).length
    let (leaf, after) := start.leaf (.construct .htmlComment) count
    some ([leaf], after)
  else none

end ComponentGate.Grammar
