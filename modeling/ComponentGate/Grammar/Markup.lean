import ComponentGate.Grammar.Patterns

/-!
Markup elements. Opening and closing tags need not agree in name.
-/

namespace ComponentGate.Grammar

open Syntax Syntax.Fragment

/-- A tag or attribute name, which may hold hyphens. -/
def markupName (kind : Kind) : Fragment :=
  choice [token (.construct kind) Lexeme.hyphenatedName, nameAs kind]

def namespaceName : Fragment :=
  construct .markupNamespaceName [markupName .identifier, mark ":", markupName .identifier]

/-- `a.b.c` as a tag. -/
def memberTag : Fragment := fun cursor =>
  match nameAs .identifier cursor with
  | none => none
  | some (first, after) =>
    let next := seq [mark ".", role .property propertyName]
    match next after with
    | none => none
    | some (more, rest) =>
      let whole := wrap .memberExpression (asLast .object first ++ more)
      some (go next (rest.rest.length + 1) whole rest)
where
  go (next : Fragment) : Nat → List Tree → Cursor → List Tree × Cursor
    | 0, left, cursor => (left, cursor)
    | fuel + 1, left, cursor =>
      match next cursor with
      | some (more, after) =>
        go next fuel (wrap .memberExpression (asLast .object left ++ more)) after
      | none => (left, cursor)

def tagName : Fragment := choice [namespaceName, memberTag, markupName .identifier]

def markupExpression (read : Reader) : Fragment :=
  construct .markupExpression [
    mark "\x7b", optional (choice [spread read, read (.expressions false)]), mark "\x7d"]

def attributeValue (read : Reader) : Fragment :=
  choice [attributeString, markupExpression read, read .element]

def markupAttribute (read : Reader) : Fragment :=
  choice [
    construct .markupAttribute [
      choice [namespaceName, markupName .propertyIdentifier],
      optional (seq [mark "=", attributeValue read])],
    markupExpression read]

/-- The inside of an opening or self-closing tag. -/
def tagOpening (read : Reader) : Fragment :=
  seq [
    mark "<",
    optional (seq [
      choice [
        role .name (choice [
          namespaceName, token (.construct .identifier) Lexeme.hyphenatedName]),
        seq [
          role .name (choice [memberTag, nameAs .identifier]), optional (typeArguments read)]],
      many (markupAttribute read)])]

def closingTag : Fragment :=
  construct .markupClosing [mark "</", optional (role .name tagName), mark ">"]

def markupChild (read : Reader) : Fragment :=
  choice [
    adjacent (.construct .markupText) Lexeme.markupText,
    htmlComment,
    token (.construct .characterReference) Lexeme.characterReference,
    seq [notAhead (mark "</"), read .element],
    markupExpression read]

def element (read : Reader) : Fragment := fun cursor =>
  match tagOpening read cursor with
  | none => none
  | some (opening, after) =>
    match mark "/>" after with
    | some (close, after) => some (wrap .markupSelfClosing (opening ++ close), after)
    | none =>
      match mark ">" after with
      | none => none
      | some (close, after) =>
        let opened := asLast .openTag (wrap .markupOpening (opening ++ close))
        match seq [many (markupChild read), role .closeTag closingTag] after with
        | none => none
        | some (inside, after) => some (wrap .markupElement (opened ++ inside), after)

end ComponentGate.Grammar
