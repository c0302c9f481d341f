import Mathlib.Data.List.Forall2
import ComponentGate.Proofs.Erasure.Bare
import ComponentGate.Proofs.Repair.Plans
import ComponentGate.Proofs.Review.Caution
import ComponentGate.Proofs.Review.Graft
import ComponentGate.Repair.Staged

/-! Resemblances. A pass goes by constructs, by the roles of children and by a few names. A relation between
the nodes of two documents that keeps these keeps all that a pass finds out. -/

namespace ComponentGate

open Syntax

section Rel

variable {related : α → β → Prop} {kept : γ → δ → Prop}

theorem rel_cases {one : Option α} {other : Option β} (rel : Option.Rel related one other) :
    (one = none ∧ other = none) ∨ ∃ a b, one = some a ∧ other = some b ∧ related a b := by
  cases rel with
  | none => exact .inl ⟨rfl, rfl⟩
  | some holds => exact .inr ⟨_, _, rfl, rfl, holds⟩

theorem isSome_of_rel {one : Option α} {other : Option β} (rel : Option.Rel related one other) :
    one.isSome = other.isSome := by
  cases rel <;> rfl

theorem rel_head {one : List α} {other : List β} (rel : List.Forall₂ related one other) :
    Option.Rel related one.head? other.head? := by
  cases rel with
  | nil => exact .none
  | cons holds _ => exact .some holds

theorem rel_filter_option {p : α → Bool} {q : β → Bool} {one : Option α} {other : Option β}
    (agree : ∀ a b, related a b → p a = q b) (rel : Option.Rel related one other) :
    Option.Rel related (one.filter p) (other.filter q) := by
  cases rel with
  | none => exact .none
  | some holds =>
    rw [Option.filter_some, Option.filter_some, agree _ _ holds]
    split
    · exact .some holds
    · exact .none

theorem rel_map_option {f : α → γ} {g : β → δ} {one : Option α} {other : Option β}
    (agree : ∀ a b, related a b → kept (f a) (g b)) (rel : Option.Rel related one other) :
    Option.Rel kept (one.map f) (other.map g) := by
  cases rel with
  | none => exact .none
  | some holds => exact .some (agree _ _ holds)

theorem rel_findSome {f : α → Option γ} {g : β → Option δ} {one : List α} {other : List β}
    (agree : ∀ a b, related a b → Option.Rel kept (f a) (g b))
    (rel : List.Forall₂ related one other) :
    Option.Rel kept (one.findSome? f) (other.findSome? g) := by
  rw [← List.head?_filterMap, ← List.head?_filterMap]
  exact rel_head (List.rel_filterMap (fun a b => agree a b) rel)

end Rel

/-- Elements that are mapped to nothing may be left out before. -/
theorem filterMap_filter_of_none {f : α → Option β} {p : α → Bool} {elements : List α}
    (quiet : ∀ element, p element = false → f element = none) :
    (elements.filter p).filterMap f = elements.filterMap f := by
  rw [List.filterMap_filter]
  apply List.filterMap_congr
  intro element _
  cases chosen : p element with
  | true => simp
  | false => simp [quiet element chosen]

namespace Entries

/-- Which keys there are depends only on the keys that are put in. -/
theorem isSome_get_congr {one : List (String × α)} {other : List (String × β)}
    (same : one.map Prod.fst = other.map Prod.fst) (key : String) :
    (get? (ofPairs one) key).isSome = (get? (ofPairs other) key).isSome := by
  have marked : one.map (Prod.map id fun _ => ()) = other.map (Prod.map id fun _ => ()) := by
    have units := congrArg (List.map fun name => (name, ())) same
    rw [List.map_map, List.map_map] at units
    exact units
  have found := congrArg (fun pairs => (get? (ofPairs pairs) key).isSome) marked
  simpa only [ofPairs_map, get?_map, Option.isSome_map] using found

end Entries

/-- Constructs that name an attribute. -/
def attributeNameKinds : List Kind := [.propertyIdentifier, .markupNamespaceName]

namespace Syntax.Tree

variable {tree : Tree}

/-- Whether a pass may read a node's text. -/
def isRead (tree : Tree) : Bool :=
  tree.role == some .property || tree.isSpelledString || tree.isOneOf attributeNameKinds

/-- Whether a pass looks for the first parts of a node: a list of arguments or parameters, parentheses, a
return statement. -/
def isListed (tree : Tree) : Bool :=
  tree.role == some .arguments || tree.role == some .parameters || tree.isKind .parenthesized ||
    tree.isKind .returnStatement

/-- Statements and parts among which a pass looks for those of one kind. -/
def pickedKinds : List Kind :=
  [.returnStatement, .markupAttribute, .lexicalDeclaration, .variableDeclaration, .variableDeclarator]

/-- Whether a node is one that a parser makes: pieces of text and comments are leaves, and markup has its
names in their places. -/
structure Tidy (tree : Tree) : Prop where
  leaf : (tree.isNamed && !tree.isComment) = true ∨ tree.children.isEmpty = true
  opened : tree.isKind .markupElement = true → (tree.child? .openTag).isSome = true
  named : tree.isKind .markupSelfClosing = true ∨ tree.role = some .openTag →
    (tree.child? .name).isSome = true ∨ tree.significantChildren.isEmpty = true
  given : tree.isKind .markupAttribute = true →
    (tree.namedChildren.head?.any (·.isOneOf attributeNameKinds)) = true

instance (tree : Tree) : Decidable tree.Tidy :=
  decidable_of_iff
    (((tree.isNamed && !tree.isComment) = true ∨ tree.children.isEmpty = true) ∧
      (tree.isKind .markupElement = true → (tree.child? .openTag).isSome = true) ∧
      (tree.isKind .markupSelfClosing = true ∨ tree.role = some .openTag →
        (tree.child? .name).isSome = true ∨ tree.significantChildren.isEmpty = true) ∧
      (tree.isKind .markupAttribute = true →
        (tree.namedChildren.head?.any (·.isOneOf attributeNameKinds)) = true))
    ⟨fun ⟨leaf, opened, named, given⟩ => ⟨leaf, opened, named, given⟩,
      fun tidy => ⟨tidy.leaf, tidy.opened, tidy.named, tidy.given⟩⟩

theorem significantChildren_head (tree : Tree) :
    tree.significantChildren.head? =
      tree.children.find? fun child => child.isNamed && !child.isComment := by
  rw [significantChildren, namedChildren, List.filter_filter, List.head?_filter]
  simp only [Bool.and_comm]

/-- Parentheses are left one by one. -/
theorem unwrapped_eq (tree : Tree) :
    tree.unwrapped =
      if tree.isKind .parenthesized then
        (tree.significantChildren.head?.map unwrapped).getD tree
      else tree := by
  rw [significantChildren_head, ← unwrappedFirst_eq]
  obtain ⟨label, children⟩ := tree
  have kind : (label.symbol == .construct .parenthesized) =
      (node label children).isKind .parenthesized := by
    rw [isKind, kind?, label_node, Bool.eq_iff_iff]
    cases label.symbol <;> simp
  rw [unwrapped, kind, children_node]

theorem kind_of_isComment (comment : tree.isComment = true) : tree.kind? = some .comment := by
  simpa [isComment, isKind] using comment

/-- A comment is of no other kind. -/
theorem isOneOf_of_isComment (comment : tree.isComment = true) {kinds : List Kind}
    (other : Kind.comment ∉ kinds) : tree.isOneOf kinds = false := by
  simp [isOneOf, kind_of_isComment comment, other]

/-- Comments do not matter where a pass looks for other kinds. -/
theorem filter_namedChildren (tree : Tree) {kinds : List Kind} (meant : Kind.comment ∉ kinds) :
    tree.namedChildren.filter (·.isOneOf kinds) = tree.significantChildren.filter (·.isOneOf kinds) := by
  rw [significantChildren, List.filter_filter]
  apply List.filter_congr
  intro child _
  cases comment : child.isComment with
  | false => simp
  | true => simp [isOneOf_of_isComment comment meant]

theorem openingTag_of_markupElement {opening : Tree} (markup : tree.isKind .markupElement = true)
    (found : tree.child? .openTag = some opening) : tree.openingTag = opening := by
  rw [openingTag, if_pos markup, found]
  rfl

theorem openingTag_of_unpaired (markup : tree.isKind .markupElement = false) :
    tree.openingTag = tree := by
  rw [openingTag, markup]
  rfl

/-- Whether a node is a tag: an element without contents, or in the place of an opening tag. -/
def IsTag (tree : Tree) : Prop := tree.isKind .markupSelfClosing = true ∨ tree.role = some .openTag

theorem isTag_openingTag (tidy : tree.Tidy) (markup : tree.isElement = true) :
    tree.openingTag.IsTag := by
  cases paired : tree.isKind .markupElement with
  | true =>
    obtain ⟨opening, found⟩ := Option.isSome_iff_exists.1 (tidy.opened paired)
    rw [openingTag_of_markupElement paired found]
    exact .inr (role_of_child found)
  | false =>
    rw [openingTag_of_unpaired paired]
    refine .inl ?_
    cases kind : tree.kind? with
    | none => simp [isElement, isOneOf, kind] at markup
    | some found =>
      have other : found ≠ .markupElement := by simpa [isKind, kind] using paired
      simpa [isElement, isOneOf, isKind, elementKinds, kind, other] using markup

/-- A tag without a name in its place has none at all. -/
theorem tagNode_eq (tidy : tree.openingTag.Tidy) (tag : tree.openingTag.IsTag) :
    tree.tagNode? = tree.openingTag.child? .name := by
  rw [tagNode?]
  rcases tidy.named tag with named | nothing
  · obtain ⟨name, found⟩ := Option.isSome_iff_exists.1 named
    rw [found]
    rfl
  · have unnamed : tree.openingTag.namedChildren.head?.filter (fun child => child.isOneOf
        [.identifier, .memberExpression, .nestedIdentifier, .markupNamespaceName]) = none := by
      rw [Option.filter_eq_none_iff]
      intro child first
      have comment : child.isComment = true := by
        have all := List.filter_eq_nil_iff.1 (List.isEmpty_iff.1 nothing) child (List.mem_of_head? first)
        simpa using all
      rw [isOneOf_of_isComment comment (by decide)]
      decide
    rw [unnamed]
    cases tree.openingTag.child? .name <;> rfl

/-- A tidy attribute begins with its name. -/
theorem exists_attributeName (tidy : tree.Tidy) (markup : tree.isKind .markupAttribute = true) :
    ∃ name, tree.namedChildren.head? = some name ∧ name.isOneOf attributeNameKinds = true := by
  have begins := tidy.given markup
  cases found : tree.namedChildren.head? with
  | none => simp [found] at begins
  | some name => exact ⟨name, rfl, by simpa [found] using begins⟩

/-- No comment stands in front of the name. -/
theorem significantChildren_head_of_attribute (tidy : tree.Tidy)
    (markup : tree.isKind .markupAttribute = true) :
    tree.significantChildren.head? = tree.namedChildren.head? := by
  obtain ⟨name, begins, naming⟩ := exists_attributeName tidy markup
  have meant : name.isComment = false := by
    cases comment : name.isComment with
    | false => rfl
    | true => exact naming.symm.trans (isOneOf_of_isComment comment (by decide))
  rw [significantChildren, List.head?_filter]
  cases children : tree.namedChildren with
  | nil => rfl
  | cons first rest =>
    rw [children, List.head?_cons, Option.some.injEq] at begins
    rw [begins, List.find?_cons_of_pos (by simp [meant]), List.head?_cons]

end Syntax.Tree

open Erasure in
/-- A relation between nodes of two documents that keeps all that a pass goes by. -/
structure Resemblance (first second : Document) (related : Tree → Tree → Prop) : Prop where
  tidy : related one other → one.Tidy ∧ other.Tidy
  symbol : related one other → keptSymbol one.label.symbol = keptSymbol other.label.symbol
  text : related one other → one.isRead = true → first.text one = second.text other
  child : related one other → (role : Role) → role ≠ .type →
    Option.Rel related (one.child? role) (other.child? role)
  listed : related one other → one.isListed = true →
    List.Forall₂ related one.significantChildren other.significantChildren
  picked : related one other → (kinds : List Kind) → kinds ⊆ Tree.pickedKinds →
    List.Forall₂ related (one.significantChildren.filter (·.isOneOf kinds))
      (other.significantChildren.filter (·.isOneOf kinds))
  attributeName : related one other → one.isKind .markupAttribute = true →
    Option.Rel related one.namedChildren.head? other.namedChildren.head?

open Erasure in
theorem isOneOf_of_symbol {one other : Tree} {kinds : List Kind}
    (same : keptSymbol one.label.symbol = keptSymbol other.label.symbol)
    (together : Kind.requiredParameter ∈ kinds ↔ Kind.optionalParameter ∈ kinds) :
    one.isOneOf kinds = other.isOneOf kinds := by
  have seen (tree : Tree) : tree.isOneOf kinds =
      (Syntax.Tree.node ⟨keptSymbol tree.label.symbol, none, 0, 0, 0⟩ []).isOneOf kinds := by
    rw [Tree.isOneOf, Tree.isOneOf, Tree.kind?, Tree.kind?, Tree.label_node, keptSymbol]
    by_cases optional : tree.label.symbol = .construct .optionalParameter
    · simp [optional, together]
    · rw [if_neg optional]
  rw [seen one, seen other, same]

open Erasure in
theorem isSpelledString_of_symbol {one other : Tree}
    (same : keptSymbol one.label.symbol = keptSymbol other.label.symbol) :
    one.isSpelledString = other.isSpelledString := by
  have word (symbol : Symbol) : (keptSymbol symbol == .token "string") = (symbol == .token "string") := by
    rw [keptSymbol]
    split
    · rename_i optional
      rw [optional]
      rfl
    · rfl
  rw [Tree.isSpelledString, Tree.isSpelledString, ← Tree.isOneOf_singleton, ← Tree.isOneOf_singleton,
    isOneOf_of_symbol same (by decide), Tree.isToken, Tree.isToken, ← word, same, word]

namespace Resemblance

open Repair

variable {first second : Document} {related : Tree → Tree → Prop} {one other : Tree}
  (alike : Resemblance first second related) (near : related one other)
include alike near

section Faces

/-- Passes ask for parameters with and without a question mark only together. -/
theorem isOneOf (kinds : List Kind)
    (together : Kind.requiredParameter ∈ kinds ↔ Kind.optionalParameter ∈ kinds) :
    one.isOneOf kinds = other.isOneOf kinds :=
  isOneOf_of_symbol (alike.symbol near) together

theorem isKind (kind : Kind) (known : kind ≠ .requiredParameter ∧ kind ≠ .optionalParameter) :
    one.isKind kind = other.isKind kind := by
  rw [← one.isOneOf_singleton, ← other.isOneOf_singleton]
  apply alike.isOneOf near
  simp [known.1.symm, known.2.symm]

theorem isSpelledString : one.isSpelledString = other.isSpelledString :=
  isSpelledString_of_symbol (alike.symbol near)

theorem stringValue : first.stringValue? one = second.stringValue? other := by
  rw [Document.stringValue?, Document.stringValue?, ← alike.isSpelledString near]
  by_cases quoted : one.isSpelledString = true
  · have read : one.isRead = true := by simp [Tree.isRead, quoted]
    rw [alike.text near read]
  · rw [if_neg quoted, if_neg quoted]

theorem unwrapped : related one.unwrapped other.unwrapped := by
  induction one using Tree.induction_on_children generalizing other with
  | step one ih =>
    rw [one.unwrapped_eq, other.unwrapped_eq, ← alike.isKind near _ (by decide)]
    split
    · rename_i parentheses
      have isListed : one.isListed = true := by simp [Tree.isListed, parentheses]
      rcases rel_cases (rel_head (alike.listed near isListed)) with
        ⟨here, there⟩ | ⟨inner, inner', here, there, near⟩
      · rw [here, there]
        exact near
      · rw [here, there]
        exact ih inner (Tree.mem_children_of_mem_significantChildren (List.mem_of_head? here)) near
    · exact near

theorem functionBody : Option.Rel related one.functionBody? other.functionBody? := by
  rw [Tree.functionBody?, Tree.functionBody?, Tree.isFunction, Tree.isFunction,
    ← alike.isOneOf near _ (by decide)]
  split
  · exact alike.child near .body (by decide)
  · exact .none

theorem callArguments : List.Forall₂ related one.callArguments other.callArguments := by
  rw [Tree.callArguments, Tree.callArguments]
  rcases rel_cases (alike.child near .arguments (by decide)) with
    ⟨here, there⟩ | ⟨given, given', here, there, near⟩
  · rw [here, there]
    exact .nil
  · rw [here, there]
    exact alike.listed near (by simp [Tree.isListed, role_of_child here])

end Faces

section Hoisting

theorem unwrappedFunction (name name' : String) :
    Option.Rel (fun mine yours => related mine.function yours.function)
      (if one.unwrapped.isFunction then some (ExportedFunction.mk name one.unwrapped) else none)
      (if other.unwrapped.isFunction then some (ExportedFunction.mk name' other.unwrapped)
        else none) := by
  have inner := alike.unwrapped near
  rw [Tree.isFunction, Tree.isFunction, ← alike.isOneOf inner _ (by decide)]
  split
  · exact .some inner
  · exact .none

theorem boundFunction :
    Option.Rel (fun mine yours => related mine.function yours.function)
      (boundFunction? first one) (boundFunction? second other) := by
  rw [boundFunction?, boundFunction?, ← alike.isKind near _ (by decide)]
  split
  · exact .none
  rcases rel_cases (alike.child near .value (by decide)) with
    ⟨here, there⟩ | ⟨value, value', here, there, near⟩
  · rw [here, there]
    exact .none
  · rw [here, there]
    exact alike.unwrappedFunction near _ _

theorem boundFunctions :
    Option.Rel (fun mine yours => related mine.function yours.function)
      (one.namedChildren.findSome? (boundFunction? first))
      (other.namedChildren.findSome? (boundFunction? second)) := by
  have declarators (document : Document) (tree : Tree) :
      tree.namedChildren.findSome? (boundFunction? document) =
        (tree.significantChildren.filter (·.isOneOf [.variableDeclarator])).findSome?
          (boundFunction? document) := by
    have quiet (child : Tree) (other : child.isOneOf [.variableDeclarator] = false) :
        boundFunction? document child = none := by
      rw [Tree.isOneOf_singleton] at other
      rw [boundFunction?, other]
      rfl
    rw [← tree.filter_namedChildren (by decide), ← List.head?_filterMap, ← List.head?_filterMap,
      filterMap_filter_of_none quiet]
  rw [declarators, declarators]
  exact rel_findSome (fun _ _ near => alike.boundFunction near) (alike.picked near _ (by decide))

theorem exportedFunction :
    Option.Rel (fun mine yours => related mine.function yours.function)
      (exportedFunction? first one) (exportedFunction? second other) := by
  rw [exportedFunction?, exportedFunction?]
  rcases rel_cases (alike.child near .declaration (by decide)) with
    ⟨here, there⟩ | ⟨declaration, declaration', here, there, near⟩
  · rw [here, there]
    rcases rel_cases (alike.child near .value (by decide)) with
      ⟨here, there⟩ | ⟨value, value', here, there, near⟩
    · rw [here, there]
      exact .none
    · rw [here, there]
      exact alike.unwrappedFunction near _ _
  · rw [here, there]
    dsimp only
    rw [isFunctionDeclaration, isFunctionDeclaration, Tree.isDeclaration, Tree.isDeclaration,
      ← alike.isOneOf near _ (by decide), ← alike.isOneOf near declarationKinds (by decide)]
    split
    · exact .some near
    split
    · exact alike.boundFunctions near
    · exact .none

end Hoisting

section Mapping

theorem readsMap :
    (one.child? .property).any (fun property => first.text property == "map") =
      (other.child? .property).any (fun property => second.text property == "map") := by
  rcases rel_cases (alike.child near .property (by decide)) with
    ⟨here, there⟩ | ⟨property, property', here, there, near⟩
  · rw [here, there, Option.any_none, Option.any_none]
  · have read : property.isRead = true := by simp [Tree.isRead, role_of_child here]
    rw [here, there, Option.any_some, Option.any_some, alike.text near read]

theorem mapCallback : Option.Rel related (mapCallback? first one) (mapCallback? second other) := by
  rw [mapCallback?, mapCallback?]
  rcases rel_cases (alike.child near .function (by decide)) with
    ⟨here, there⟩ | ⟨callee, callee', here, there, called⟩
  · rw [here, there]
    exact .none
  · rw [here, there]
    dsimp only
    rw [← alike.isKind called _ (by decide), ← alike.readsMap called]
    split
    · exact rel_filter_option (fun _ _ near => alike.isOneOf near functionKinds (by decide))
        (rel_head (alike.callArguments near))
    · exact .none

/-- The value that a body answers: itself, or that of the only return statement of a block. -/
theorem mappedElement : Option.Rel related (mappedElement? one) (mappedElement? other) := by
  rw [mappedElement?, mappedElement?]
  rcases rel_cases (alike.functionBody near) with ⟨here, there⟩ | ⟨body, body', here, there, near⟩
  · rw [here, there]
    exact .none
  rw [here, there]
  refine rel_filter_option (fun _ _ near => alike.isOneOf near elementKinds (by decide))
    (rel_map_option (fun _ _ near => alike.unwrapped near) ?_)
  rw [← alike.isKind near _ (by decide)]
  split
  · have answers := alike.picked near [.returnStatement] (by decide)
    simp only [Tree.isOneOf_singleton] at answers
    have returns : ∀ statement ∈ body.significantChildren.filter (·.isKind .returnStatement),
        statement.isListed = true := by
      intro statement member
      have kind : statement.isKind .returnStatement = true := (List.mem_filter.1 member).2
      simp [Tree.isListed, kind]
    generalize body.significantChildren.filter (·.isKind .returnStatement) = mine at answers returns ⊢
    generalize body'.significantChildren.filter (·.isKind .returnStatement) = yours at answers ⊢
    cases answers with
    | nil => exact .none
    | cons near rest =>
      cases rest with
      | nil => exact rel_head (alike.listed near (returns _ List.mem_cons_self))
      | cons _ _ => exact .none
  · exact .some near

theorem parameterPattern :
    Option.Rel related (parameterPattern? one) (parameterPattern? other) := by
  rw [parameterPattern?, parameterPattern?, ← alike.isOneOf near _ (by decide),
    ← alike.isOneOf near [.requiredParameter, .optionalParameter] (by decide)]
  split
  · exact .some near
  split
  · exact alike.child near .pattern (by decide)
  · exact .none

theorem listedPosition (isListed : one.isListed = true) (callback callback' : Tree) :
    (listedPosition? first callback one).isSome = (listedPosition? second callback' other).isSome := by
  have parameters := alike.listed near isListed
  rw [listedPosition?, listedPosition?]
  generalize one.significantChildren = mine at parameters ⊢
  generalize other.significantChildren = yours at parameters ⊢
  cases parameters with
  | nil => simp only [Option.isSome_some]
  | cons near rest =>
    cases rest with
    | nil =>
      dsimp only
      rcases rel_cases (alike.parameterPattern near) with
        ⟨here, there⟩ | ⟨pattern, pattern', here, there, near⟩
      · simp only [here, there, Option.any_none, Bool.false_eq_true, if_false, Option.isSome_some]
      · rw [here, there, Option.any_some, Option.any_some, alike.isKind near _ (by decide)]
        split <;> simp only [Option.isSome_none, Option.isSome_some]
    | cons near _ =>
      dsimp only
      rcases rel_cases (alike.parameterPattern near) with
        ⟨here, there⟩ | ⟨pattern, pattern', here, there, near⟩
      · rw [here, there]
      · rw [here, there]
        dsimp only
        rw [alike.isKind near _ (by decide)]
        split <;> simp only [Option.isSome_none, Option.isSome_some]

theorem position : (position? first one).isSome = (position? second other).isSome := by
  rw [position?, position?]
  rcases rel_cases (alike.child near .parameter (by decide)) with
    ⟨here, there⟩ | ⟨bare, bare', here, there, -⟩
  · rw [here, there]
    dsimp only
    rcases rel_cases (alike.child near .parameters (by decide)) with
      ⟨here, there⟩ | ⟨listed, listed', here, there, near⟩
    · rw [here, there, Option.bind_none, Option.bind_none]
    · rw [here, there]
      exact alike.listedPosition near (by simp [Tree.isListed, role_of_child here]) one other
  · simp only [here, there, Option.isSome_some]

end Mapping

section Markup

theorem openingTag : related one.openingTag other.openingTag := by
  have same := alike.isKind near .markupElement (by decide)
  cases paired : one.isKind .markupElement with
  | false =>
    rw [Tree.openingTag_of_unpaired paired, Tree.openingTag_of_unpaired (same.symm.trans paired)]
    exact near
  | true =>
    obtain ⟨opening, found⟩ := Option.isSome_iff_exists.1 ((alike.tidy near).1.opened paired)
    rcases rel_cases (alike.child near .openTag (by decide)) with
      ⟨here, -⟩ | ⟨mine, yours, here, there, near⟩
    · rw [here] at found
      cases found
    · rw [Tree.openingTag_of_markupElement paired here,
        Tree.openingTag_of_markupElement (same.symm.trans paired) there]
      exact near

theorem tagNode (markup : one.isElement = true) :
    Option.Rel related one.tagNode? other.tagNode? := by
  have markup' : other.isElement = true := by
    rw [Tree.isElement, ← alike.isOneOf near _ (by decide)]
    exact markup
  have opening := alike.openingTag near
  have tag := Tree.isTag_openingTag (alike.tidy near).1 markup
  have tag' := Tree.isTag_openingTag (alike.tidy near).2 markup'
  rw [Tree.tagNode_eq (alike.tidy opening).1 tag, Tree.tagNode_eq (alike.tidy opening).2 tag']
  exact alike.child opening .name (by decide)

/-- Attributes that resemble each other have one name. -/
theorem attributeText (markup : one.isKind .markupAttribute = true) :
    ∃ name name', one.namedChildren.head? = some name ∧ other.namedChildren.head? = some name' ∧
      related name name' ∧ first.text name = second.text name' := by
  obtain ⟨name, begins, naming⟩ := Tree.exists_attributeName (alike.tidy near).1 markup
  rcases rel_cases (alike.attributeName near markup) with
    ⟨here, -⟩ | ⟨mine, yours, here, there, same⟩
  · rw [here] at begins
    cases begins
  · obtain rfl : mine = name := Option.some.inj (here.symm.trans begins)
    exact ⟨mine, yours, here, there, same, alike.text same (by simp [Tree.isRead, naming])⟩

theorem namedAttribute :
    Option.Rel (fun mine yours => mine.1 = yours.1) (Document.attributes.named? first one)
      (Document.attributes.named? second other) := by
  rw [Document.attributes.named?, Document.attributes.named?, ← alike.isKind near _ (by decide)]
  split
  · rename_i markup
    obtain ⟨name, name', begins, begins', -, same⟩ := alike.attributeText near markup
    rw [begins, begins', Option.map_some, Option.map_some]
    refine Option.Rel.some ?_
    rw [same]
  · exact .none

theorem attribute_isSome (name : String) :
    (first.attribute? one name).isSome = (second.attribute? other name).isSome := by
  have listed (document : Document) (tree : Tree) :
      tree.namedChildren.filterMap (Document.attributes.named? document) =
        (tree.significantChildren.filter (·.isOneOf [.markupAttribute])).filterMap
          (Document.attributes.named? document) := by
    have quiet (child : Tree) (other : child.isOneOf [.markupAttribute] = false) :
        Document.attributes.named? document child = none := by
      rw [Tree.isOneOf_singleton] at other
      rw [Document.attributes.named?, other]
      rfl
    rw [← tree.filter_namedChildren (by decide), filterMap_filter_of_none quiet]
  rw [Document.attribute?, Document.attribute?, Document.attributes, Document.attributes, listed, listed]
  apply Entries.isSome_get_congr
  have entries := List.rel_filterMap (fun _ _ near => alike.namedAttribute near)
    (alike.picked (alike.openingTag near) [.markupAttribute] (by decide))
  rw [← List.forall₂_eq_eq_eq, List.forall₂_map_left_iff, List.forall₂_map_right_iff]
  exact entries

end Markup

section Repairs

theorem keyRepairs_iff : (keyRepairs first one).edits = [] ↔ (keyRepairs second other).edits = [] := by
  rw [keyRepairs, keyRepairs]
  rcases rel_cases (alike.mapCallback near) with
    ⟨here, there⟩ | ⟨callback, callback', here, there, mapping⟩
  · rw [here, there]
  rw [here, there]
  dsimp only
  rcases rel_cases (alike.mappedElement mapping) with
    ⟨here, there⟩ | ⟨element, element', mapped, there, markup⟩
  · rw [here, there]
  rw [mapped, there]
  dsimp only
  have isElement : element.isElement = true := by
    rw [mappedElement?] at mapped
    split at mapped
    · cases mapped
    · exact (Option.filter_eq_some_iff.1 mapped).2
  rcases rel_cases (alike.tagNode markup isElement) with ⟨here, there⟩ | ⟨tag, tag', here, there, -⟩
  · rw [here, there]
  rw [here, there]
  dsimp only
  rw [alike.attribute_isSome markup]
  split
  · exact Iff.rfl
  have placed := alike.position mapping
  cases mine : position? first callback with
  | none =>
    rw [mine, Option.isSome_none, eq_comm, Option.isSome_eq_false_iff, Option.isNone_iff_eq_none] at placed
    rw [placed]
  | some position =>
    rw [mine, Option.isSome_some, eq_comm, Option.isSome_iff_exists] at placed
    obtain ⟨position', yours⟩ := placed
    simp [yours]

theorem handlerRepairs_iff (markup : one.isKind .markupAttribute = true) :
    (handlerRepairs first one).edits = [] ↔ (handlerRepairs second other).edits = [] := by
  obtain ⟨name, name', begins, begins', named, same⟩ := alike.attributeText near markup
  rw [handlerRepairs, handlerRepairs, begins, begins']
  dsimp only
  rw [alike.isKind named _ (by decide), same]
  split
  · exact Iff.rfl
  cases Entries.get? handlerNames (second.text name') with
  | none => exact Iff.rfl
  | some proper => simp

/-- Imports that resemble each other both import the base library, or neither does. -/
theorem namesBase :
    ((one.child? .source).any fun source => first.stringValue? source == some baseLibrary) =
      (other.child? .source).any fun source => second.stringValue? source == some baseLibrary := by
  rcases rel_cases (alike.child near .source (by decide)) with
    ⟨here, there⟩ | ⟨source, source', here, there, near⟩
  · rw [here, there, Option.any_none, Option.any_none]
  · rw [here, there, Option.any_some, Option.any_some, alike.stringValue near]

end Repairs

section Declarations

omit near

/-- Documents whose modules declare as much, and whose first exported functions resemble each other, both
need declarations moved, or neither does. -/
theorem hoistDeclarations_iff
    (declared : List.Forall₂ related (first.root.namedChildren.filter (·.isDeclaration))
      (second.root.namedChildren.filter (·.isDeclaration)))
    (target : Option.Rel (fun mine yours => related mine.function yours.function)
      (hoistTarget? first) (hoistTarget? second)) :
    (hoistDeclarations.plan first).edits = [] ↔ (hoistDeclarations.plan second).edits = [] := by
  rw [hoistDeclarations_eq_nil_iff, hoistDeclarations_eq_nil_iff]
  refine or_congr ?_ ?_
  · rw [← List.length_eq_zero_iff, declared.length_eq, List.length_eq_zero_iff]
  · rcases rel_cases target with ⟨here, there⟩ | ⟨mine, yours, here, there, near⟩
    · rw [here, there]
    · rw [here, there, Option.bind_some, Option.bind_some, ← Option.not_isSome_iff_eq_none,
        isSome_of_rel (alike.functionBody near), Option.not_isSome_iff_eq_none]

end Declarations

end Resemblance

end ComponentGate
