import ComponentGate.Proofs.Review.Sight

/-! Outlines. An outline is a tree without places: it keeps constructs, roles and spelled names, and drops
comments and the fixed pieces of text that play no role. Sources with one outline are both valid or both
invalid, whatever else their texts differ in. -/

namespace ComponentGate

open Syntax

inductive Outline where
  | node (symbol : Symbol) (role : Option Role) (text : Option String) (children : List Outline)
  deriving Repr

namespace Outline

mutual

def decideEq : (first second : Outline) → Decidable (first = second)
  | .node symbol role text children, .node symbol' role' text' children' =>
    match decEq (symbol, role, text) (symbol', role', text'), decideEqAll children children' with
    | isTrue heads, isTrue below => isTrue (by cases heads; cases below; rfl)
    | isFalse differ, _ => isFalse (by rintro ⟨⟩; exact differ rfl)
    | _, isFalse differ => isFalse (by rintro ⟨⟩; exact differ rfl)

def decideEqAll : (first second : List Outline) → Decidable (first = second)
  | [], [] => isTrue rfl
  | [], _ :: _ => isFalse nofun
  | _ :: _, [] => isFalse nofun
  | one :: rest, one' :: rest' =>
    match decideEq one one', decideEqAll rest rest' with
    | isTrue heads, isTrue tails => isTrue (by cases heads; cases tails; rfl)
    | isFalse differ, _ => isFalse (by rintro ⟨⟩; exact differ rfl)
    | _, isFalse differ => isFalse (by rintro ⟨⟩; exact differ rfl)

end

instance : DecidableEq Outline := decideEq

def symbol : Outline → Symbol
  | node symbol _ _ _ => symbol

def role : Outline → Option Role
  | node _ role _ _ => role

def text : Outline → Option String
  | node _ _ text _ => text

def children : Outline → List Outline
  | node _ _ _ children => children

def kind? (outline : Outline) : Option Kind :=
  match outline.symbol with
  | .construct kind => some kind
  | .token _ => none

def isOneOf (outline : Outline) (kinds : List Kind) : Bool := outline.kind?.any kinds.contains

def child? (outline : Outline) (role : Role) : Option Outline :=
  outline.children.find? fun child => child.role == some role

def significantChildren (outline : Outline) : List Outline :=
  outline.children.filter fun child => child.kind?.isSome && child.kind? != some .comment

/-- The contents of a literal string. -/
def stringValue? (outline : Outline) : Option String :=
  if outline.symbol == .construct .string || outline.symbol == .token "string" then
    outline.text.map fun quoted => String.ofList ((quoted.toList.drop 1).dropLast)
  else none

mutual

def dotted? : Outline → Option String
  | node symbol role text children =>
    match symbol with
    | .construct .identifier => text
    | .construct .thisName => text
    | .construct .memberExpression =>
      match dottedChild? .object children, (node symbol role text children).child? .property with
      | some object, some property =>
        if property.kind? == some .propertyIdentifier then
          property.text.map fun name => s!"{object}.{name}"
        else none
      | _, _ => none
    | .construct .subscriptExpression =>
      match dottedChild? .object children,
          ((node symbol role text children).child? .index).bind stringValue? with
      | some object, some key => some s!"{object}.{key}"
      | _, _ => none
    | _ => none

def dottedChild? (role : Role) : List Outline → Option String
  | [] => none
  | outline :: rest => if outline.role == some role then dotted? outline else dottedChild? role rest

end

def property? (outline : Outline) : Option String :=
  if outline.kind? == some .memberExpression then (outline.child? .property).bind text else none

def sight (outline : Outline) : Sight where
  kind := outline.kind?
  word := if outline.isOneOf bareNameKinds then outline.text else none
  dotted := outline.dotted?
  callee := (outline.child? .function).bind dotted?
  loads := (outline.child? .function).any fun callee => callee.kind? == some .importName
  calledProperty := (outline.child? .function).bind property?
  constructed := (outline.child? .constructor).bind dotted?
  target := (outline.child? .left).bind dotted?
  targetProperty := (outline.child? .left).bind property?
  givenText := (((outline.child? .arguments).map significantChildren).getD []).head?.any
    (·.isOneOf [.string, .templateString])
  specifier := (outline.child? .source).bind stringValue?

mutual

def preorder : Outline → List Outline
  | node symbol role text children => node symbol role text children :: preorderAll children

def preorderAll : List Outline → List Outline
  | [] => []
  | outline :: rest => preorder outline ++ preorderAll rest

end

theorem preorderAll_eq_flatMap (outlines : List Outline) :
    preorderAll outlines = outlines.flatMap preorder := by
  induction outlines with
  | nil => rfl
  | cons outline rest ih => simp [preorderAll, ih]

theorem preorder_eq (outline : Outline) :
    outline.preorder = outline :: outline.children.flatMap preorder := by
  cases outline with
  | node symbol role text children =>
    rw [preorder, preorderAll_eq_flatMap]
    rfl

end Outline

namespace Syntax.Tree

/-- Whether an outline keeps a node: a construct other than a comment, or a piece with a role. -/
def isHeard (tree : Tree) : Bool := (tree.isNamed && !tree.isComment) || tree.role.isSome

/-- Whether an outline keeps a node's text. -/
def isSpelled (tree : Tree) : Bool :=
  tree.isOneOf (.thisName :: bareNameKinds) || tree.isSpelledString || tree.role == some .property

/-- Comments and pieces of text have nothing below them. -/
def isPlain (tree : Tree) : Bool :=
  tree.preorder.all fun node => node.isHeard || node.children.isEmpty

end Syntax.Tree

namespace Document

mutual

def outline (document : Document) : Tree → Outline
  | .node label children =>
    .node label.symbol label.role
      (if (Syntax.Tree.node label children).isSpelled then some (document.text (.node label children))
        else none)
      (outlineAll document children)

def outlineAll (document : Document) : List Tree → List Outline
  | [] => []
  | tree :: rest =>
    if tree.isHeard then outline document tree :: outlineAll document rest
    else outlineAll document rest

end

end Document

/-- Elements from which nothing is made may be left out before. -/
theorem flatMap_filter_of_nil {f : α → List β} {p : α → Bool} {elements : List α}
    (quiet : ∀ element ∈ elements, p element = false → f element = []) :
    (elements.filter p).flatMap f = elements.flatMap f := by
  induction elements with
  | nil => rfl
  | cons element rest ih =>
    have later := ih fun element member => quiet element (List.mem_cons_of_mem _ member)
    rw [List.filter_cons, List.flatMap_cons, ← later]
    cases chosen : p element with
    | true => rfl
    | false =>
      rw [quiet element List.mem_cons_self chosen]
      rfl

theorem meant_of_isOneOf {tree : Tree} {kinds : List Kind} (listed : tree.isOneOf kinds = true)
    (meant : Kind.comment ∉ kinds) : tree.isNamed = true ∧ tree.isComment = false := by
  cases kind : tree.kind? with
  | none => simp [Tree.isOneOf, kind] at listed
  | some found =>
    have member : found ∈ kinds := by simpa [Tree.isOneOf, kind] using listed
    have other : found ≠ .comment := fun same => meant (same ▸ member)
    simp [Tree.isNamed, Tree.isComment, Tree.isKind, kind, other]

theorem isHeard_of_isOneOf {tree : Tree} {kinds : List Kind} (listed : tree.isOneOf kinds = true)
    (meant : Kind.comment ∉ kinds) : tree.isHeard = true := by
  obtain ⟨named, other⟩ := meant_of_isOneOf listed meant
  simp [Tree.isHeard, named, other]

section Nodes

variable {document : Document} {tree : Tree}

theorem isPlain_of_mem_preorder {root : Tree} (plain : root.isPlain = true)
    (visited : tree ∈ root.preorder) : tree.isPlain = true := by
  rw [Tree.isPlain, List.all_eq_true] at plain ⊢
  intro node below
  exact plain node (Tree.preorder_subset_of_mem_preorder visited below)

theorem isPlain_of_mem_children {child : Tree} (plain : tree.isPlain = true)
    (member : child ∈ tree.children) : child.isPlain = true :=
  isPlain_of_mem_preorder plain (Tree.mem_preorder_of_mem_children tree.mem_preorder_self member)

/-- No rule objects to a comment or to a mere piece of text. -/
theorem meant_of_refused {policy : Policy} {node : Tree} (refused : Refused document policy node) :
    node.isNamed = true ∧ node.isComment = false := by
  have constructs : ∀ rule ∈ Rule.blocking, Kind.comment ∉ rule.kinds := by
    rw [Rule.blocking_eq]
    decide
  rcases refused with error | ⟨rule, member, inspected, -⟩
  · rw [← Tree.isOneOf_singleton] at error
    exact meant_of_isOneOf error (by decide)
  · exact meant_of_isOneOf inspected (constructs rule member)

theorem isHeard_of_refused {policy : Policy} {node : Tree} (refused : Refused document policy node) :
    node.isHeard = true := by
  obtain ⟨named, meant⟩ := meant_of_refused refused
  simp [Tree.isHeard, named, meant]

end Nodes

end ComponentGate
