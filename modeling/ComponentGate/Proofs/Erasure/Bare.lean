import ComponentGate.Erasure.Plan
import ComponentGate.Proofs.Review.Outline

/-! Trees without types. Erasing works on the text; `bare` says what it makes of the tree: constructs of
types go, and a value takes the place of its cast. What a blocking rule sees of a node stays the same
unless a construct that goes or gives way stands where the rule looks for a name. -/

namespace ComponentGate

open Syntax

namespace Syntax.Tree

/-- The same tree in another role. -/
def inRole (role : Option Role) : Tree → Tree
  | node label children => node { label with role := role } children

@[simp] theorem kind_inRole (role : Option Role) (tree : Tree) :
    (tree.inRole role).kind? = tree.kind? := by
  cases tree
  rfl

@[simp] theorem children_inRole (role : Option Role) (tree : Tree) :
    (tree.inRole role).children = tree.children := by
  cases tree
  rfl

@[simp] theorem role_inRole (role : Option Role) (tree : Tree) : (tree.inRole role).role = role := by
  cases tree
  rfl

end Syntax.Tree

namespace Erasure

def goneKinds : List Kind := .comment :: erasedKinds ++ modifierKinds ++ typeStatementKinds

/-- Constructs whose first part is left when what they say of types is gone. -/
def unwrappedKinds : List Kind := .instantiationExpression :: castKinds

def isSpecifier (tree : Tree) : Bool := tree.isOneOf [.importSpecifier, .exportSpecifier]

/-- Whether a clause lists specifiers of types only. -/
def isEmptied (clause : Tree) : Bool :=
  let specifiers := clause.namedChildren.filter isSpecifier
  !specifiers.isEmpty && specifiers.all isTypeOnly

/-- Whether a part of a statement leaves nothing of the statement but types. -/
def endsStatement (statement part : Tree) : Bool :=
  if statement.isKind .importStatement then
    part.isKind .importClause && part.namedChildren.length ≤ 1 &&
      part.children.any fun clause => clause.isKind .namedImports && isEmptied clause
  else part.isOneOf typeStatementKinds || (part.isKind .exportClause && isEmptied part)

theorem isNamed_of_construct {tree : Tree} {kind : Kind} (symbol : tree.label.symbol = .construct kind) :
    tree.isNamed = true := by
  simp [Tree.isNamed, Tree.kind?, symbol]

/-- Whether erasing takes a construct away. -/
def isGone (tree : Tree) : Bool :=
  tree.isOneOf goneKinds || (isSpecifier tree && isTypeOnly tree) ||
    (tree.isOneOf [.importStatement, .exportStatement] &&
      (isTypeOnly tree || tree.children.any (endsStatement tree))) ||
    (tree.isKind .classHeritage && tree.significantChildren.all (·.isKind .implementsClause))

/-- The symbol of a construct that is kept. -/
def keptSymbol (symbol : Symbol) : Symbol :=
  if symbol = .construct .optionalParameter then .construct .requiredParameter else symbol

mutual

/-- What erasing leaves of a tree. -/
def bare : Tree → Option Tree
  | .node label children =>
    match label.symbol with
    | .token _ => some (.node label [])
    | .construct kind =>
      if isGone (.node label children) then none
      else if unwrappedKinds.contains kind then
        (bareValue children).map (Tree.inRole label.role)
      else some (.node { label with symbol := keptSymbol label.symbol } (bareAll children))

def bareAll : List Tree → List Tree
  | [] => []
  | tree :: rest => (bare tree).toList ++ bareAll rest

/-- What is left of the first construct. -/
def bareValue : List Tree → Option Tree
  | [] => none
  | tree :: rest => if tree.isNamed then bare tree else bareValue rest

end

mutual

/-- The nodes that are left in their places or in that of a cast around them. -/
def survivors : Tree → List Tree
  | .node label children =>
    match label.symbol with
    | .token _ => [.node label children]
    | .construct kind =>
      if isGone (.node label children) then []
      else if unwrappedKinds.contains kind then survivorsOfValue children
      else .node label children :: survivorsOfAll children

def survivorsOfAll : List Tree → List Tree
  | [] => []
  | tree :: rest => survivors tree ++ survivorsOfAll rest

def survivorsOfValue : List Tree → List Tree
  | [] => []
  | tree :: rest => if tree.isNamed then survivors tree else survivorsOfValue rest

end

theorem bareAll_eq_filterMap (trees : List Tree) : bareAll trees = trees.filterMap bare := by
  induction trees with
  | nil => rfl
  | cons tree rest ih => cases found : bare tree <;> simp [bareAll, found, ih]

theorem bareValue_eq (trees : List Tree) :
    bareValue trees = (trees.find? Tree.isNamed).bind bare := by
  induction trees with
  | nil => rfl
  | cons tree rest ih =>
    by_cases named : tree.isNamed = true
    · simp [bareValue, named]
    · simp [bareValue, named, ih]

theorem survivorsOfAll_eq_flatMap (trees : List Tree) :
    survivorsOfAll trees = trees.flatMap survivors := by
  induction trees with
  | nil => rfl
  | cons tree rest ih => simp [survivorsOfAll, ih]

theorem survivorsOfValue_eq (trees : List Tree) :
    survivorsOfValue trees = ((trees.find? Tree.isNamed).map survivors).getD [] := by
  induction trees with
  | nil => rfl
  | cons tree rest ih =>
    by_cases named : tree.isNamed = true
    · simp [survivorsOfValue, named]
    · simp [survivorsOfValue, named, ih]

theorem isGone_of_isComment {tree : Tree} (comment : tree.isComment = true) : isGone tree = true := by
  have kind : tree.kind? = some .comment := by simpa [Tree.isComment, Tree.isKind] using comment
  simp [isGone, Tree.isOneOf, kind, goneKinds]

/-- What becomes of a tree, with what survives of it. -/
inductive Fate (tree : Tree) : Prop where
  | piece (unnamed : tree.isNamed = false) (left : bare tree = some (.node tree.label []))
      (survive : survivors tree = [tree])
  | gone (named : tree.isNamed = true) (left : bare tree = none) (survive : survivors tree = [])
  | unwrapped (named : tree.isNamed = true)
      (left : bare tree =
        ((tree.children.find? Tree.isNamed).bind bare).map (Tree.inRole tree.role))
      (survive : survivors tree = ((tree.children.find? Tree.isNamed).map survivors).getD [])
  | kept (named : tree.isNamed = true) (meant : tree.isComment = false)
      (left : bare tree = some (.node
        { tree.label with symbol := keptSymbol tree.label.symbol } (tree.children.filterMap bare)))
      (survive : survivors tree = tree :: tree.children.flatMap survivors)

theorem fate (tree : Tree) : Fate tree := by
  obtain ⟨label, children⟩ := tree
  cases symbol : label.symbol with
  | token text =>
    apply Fate.piece
    · simp [Tree.isNamed, Tree.kind?, symbol]
    · simp [bare, symbol]
    · simp [survivors, symbol]
  | construct kind =>
    have named : (Syntax.Tree.node label children).isNamed = true := isNamed_of_construct symbol
    by_cases gone : isGone (.node label children) = true
    · apply Fate.gone named
      · simp [bare, symbol, gone]
      · simp [survivors, symbol, gone]
    by_cases unwrapped : unwrappedKinds.contains kind = true
    · apply Fate.unwrapped named
      · rw [bare, symbol]
        simp only [gone, unwrapped, Bool.false_eq_true, ↓reduceIte, bareValue_eq]
        rfl
      · rw [survivors, symbol]
        simp only [gone, unwrapped, Bool.false_eq_true, ↓reduceIte, survivorsOfValue_eq]
        rfl
    · apply Fate.kept named
      · exact Bool.eq_false_iff.2 fun comment => gone (isGone_of_isComment comment)
      · rw [bare, symbol]
        simp only [gone, unwrapped, Bool.false_eq_true, ↓reduceIte, bareAll_eq_filterMap]
        simp [symbol]
      · rw [survivors, symbol]
        simp only [gone, unwrapped, Bool.false_eq_true, ↓reduceIte, survivorsOfAll_eq_flatMap]
        rfl

section Left

variable {tree other : Tree}

theorem role_of_bare (left : bare tree = some other) : other.role = tree.role := by
  cases fate tree with
  | piece _ eq _ =>
    rw [eq, Option.some.injEq] at left
    rw [← left]
    rfl
  | gone _ eq _ => simp [eq] at left
  | unwrapped _ eq _ =>
    rw [eq] at left
    obtain ⟨value, _, rfl⟩ := Option.map_eq_some_iff.1 left
    exact value.role_inRole _
  | kept _ _ eq _ =>
    rw [eq, Option.some.injEq] at left
    rw [← left]
    rfl

/-- What is left of a piece of text is a piece of text without anything below it. -/
theorem bare_of_unnamed (unnamed : tree.isNamed = false) :
    bare tree = some (.node tree.label []) := by
  cases fate tree with
  | piece _ eq _ => exact eq
  | gone named _ _ => simp [named] at unnamed
  | unwrapped named _ _ => simp [named] at unnamed
  | kept named _ _ _ => simp [named] at unnamed

theorem bare_of_isComment (comment : tree.isComment = true) : bare tree = none := by
  obtain ⟨label, children⟩ := tree
  cases symbol : label.symbol with
  | token text => simp [Tree.isComment, Tree.isKind, Tree.kind?, symbol] at comment
  | construct kind => simp [bare, symbol, isGone_of_isComment comment]

theorem meant_of_keptSymbol (label : Label) (children : List Tree) (named : tree.isNamed = true)
    (meant : tree.isComment = false) (same : label.symbol = keptSymbol tree.label.symbol) :
    (Syntax.Tree.node label children).isNamed = true ∧
      (Syntax.Tree.node label children).isComment = false := by
  cases symbol : tree.label.symbol with
  | token text => simp [Tree.isNamed, Tree.kind?, symbol] at named
  | construct kind =>
    have other : kind ≠ .comment := by
      simpa [Tree.isComment, Tree.isKind, Tree.kind?, symbol] using meant
    rw [symbol] at same
    by_cases optional : kind = .optionalParameter
    · simp [Tree.isNamed, Tree.isComment, Tree.isKind, Tree.kind?, same, keptSymbol, optional]
    · simp [Tree.isNamed, Tree.isComment, Tree.isKind, Tree.kind?, same, keptSymbol, optional, other]

/-- What is left of a construct is a construct, and no comment. -/
theorem meant_of_bare (named : tree.isNamed = true) (left : bare tree = some other) :
    other.isNamed = true ∧ other.isComment = false := by
  induction tree using Tree.induction_on_children generalizing other with
  | step tree ih =>
    cases fate tree with
    | piece unnamed _ _ => simp [named] at unnamed
    | gone _ eq _ => simp [eq] at left
    | unwrapped _ eq _ =>
      rw [eq] at left
      obtain ⟨value, found, rfl⟩ := Option.map_eq_some_iff.1 left
      obtain ⟨child, first, inner⟩ := Option.bind_eq_some_iff.1 found
      have := ih child (List.mem_of_find?_eq_some first) (List.find?_some first) inner
      simpa [Tree.isNamed, Tree.isComment, Tree.isKind] using this
    | kept _ meant eq _ =>
      rw [eq, Option.some.injEq] at left
      rw [← left]
      exact meant_of_keptSymbol _ _ named meant rfl

/-- Only constructs that are no comments have anything below them in a tree without types. -/
theorem isPlain_of_bare (left : bare tree = some other) : other.isPlain = true := by
  induction tree using Tree.induction_on_children generalizing other with
  | step tree ih =>
    have heard : tree.isNamed = true → other.isHeard = true := by
      intro named
      obtain ⟨isNamed, isComment⟩ := meant_of_bare named left
      simp [Tree.isHeard, isNamed, isComment]
    cases fate tree with
    | piece _ eq _ =>
      rw [eq, Option.some.injEq] at left
      simp [← left, Tree.isPlain, Tree.preorder_eq]
    | gone _ eq _ => simp [eq] at left
    | unwrapped named eq _ =>
      rw [eq] at left
      obtain ⟨value, found, rfl⟩ := Option.map_eq_some_iff.1 left
      obtain ⟨child, first, inner⟩ := Option.bind_eq_some_iff.1 found
      have plain := ih child (List.mem_of_find?_eq_some first) inner
      rw [Tree.isPlain, Tree.preorder_eq, List.all_cons, Bool.and_eq_true] at plain ⊢
      refine ⟨by simp [heard named], ?_⟩
      rw [Tree.children_inRole]
      exact plain.2
    | kept named _ eq _ =>
      have isHeard := heard named
      rw [eq, Option.some.injEq] at left
      rw [Tree.isPlain, Tree.preorder_eq, List.all_cons, isHeard, Bool.true_or, Bool.true_and,
        List.all_eq_true, ← left]
      intro node visited
      obtain ⟨below, present, inside⟩ := List.mem_flatMap.1 visited
      obtain ⟨child, member, inner⟩ := List.mem_filterMap.1 present
      exact List.all_eq_true.1 (ih child member inner) node inside

/-- What is viewed of all that is left, whatever role it plays, is what is viewed of what is left of each
survivor. -/
theorem flatMap_preorder_bare {view : Tree → List α}
    (blind : ∀ role tree, view (Tree.inRole role tree) = view tree) (tree : Tree) :
    ((bare tree).toList.flatMap Tree.preorder).flatMap view =
      (survivors tree).flatMap fun node => (bare node).toList.flatMap view := by
  induction tree using Tree.induction_on_children with
  | step tree ih =>
    cases fate tree with
    | piece _ eq survive =>
      rw [survive, List.flatMap_singleton, eq, Option.toList_some, List.flatMap_singleton,
        List.flatMap_singleton]
      exact List.flatMap_singleton view (.node tree.label [])
    | gone _ eq survive => simp [eq, survive]
    | unwrapped _ eq survive =>
      rw [eq, survive]
      cases first : tree.children.find? Tree.isNamed with
      | none => simp
      | some child =>
        rw [Option.map_some, Option.getD_some, ← ih child (List.mem_of_find?_eq_some first)]
        cases inner : bare child with
        | none => simp [inner]
        | some value => simp [inner, Tree.preorder_eq (value.inRole _), Tree.preorder_eq value, blind]
    | kept _ _ eq survive =>
      have below : ((tree.children.filterMap bare).flatMap Tree.preorder).flatMap view =
          (tree.children.flatMap survivors).flatMap fun node => (bare node).toList.flatMap view := by
        rw [List.filterMap_eq_flatMap_toList, List.flatMap_assoc, List.flatMap_assoc, List.flatMap_assoc]
        refine List.flatMap_congr fun child member => ?_
        rw [← ih child member, List.flatMap_assoc]
      rw [survive, List.flatMap_cons, ← below, eq, Option.toList_some, List.flatMap_singleton,
        List.flatMap_singleton, Tree.preorder_eq, List.flatMap_cons]
      rfl

/-- What holds of all that is left, whatever role it plays, holds of what is left of each survivor. -/
theorem forall_bare_iff {holds : Tree → Prop}
    (blind : ∀ role tree, holds (Tree.inRole role tree) ↔ holds tree) (tree : Tree) :
    (∀ other, bare tree = some other → ∀ node ∈ other.preorder, holds node) ↔
      ∀ node ∈ survivors tree, ∀ other, bare node = some other → holds other := by
  have same := @flatMap_preorder_bare _ (fun node => [holds node])
    (fun role tree => by rw [propext (blind role tree)]) tree
  have each := congrArg (fun claims : List Prop => ∀ claim ∈ claims, claim) same
  simp only [List.forall_mem_flatMap, List.forall_mem_singleton, Option.mem_toList,
    eq_iff_iff] at each
  exact each

/-- Survivors are nodes of the tree. -/
theorem survivors_subset_preorder (tree : Tree) : survivors tree ⊆ tree.preorder := by
  induction tree using Tree.induction_on_children with
  | step tree ih =>
    intro node survived
    cases fate tree with
    | piece _ _ survive =>
      rw [survive, List.mem_singleton] at survived
      rw [survived]
      exact tree.mem_preorder_self
    | gone _ _ survive => simp [survive] at survived
    | unwrapped _ _ survive =>
      rw [survive] at survived
      cases first : tree.children.find? Tree.isNamed with
      | none => simp [first] at survived
      | some child =>
        rw [first, Option.map_some, Option.getD_some] at survived
        have member := List.mem_of_find?_eq_some first
        exact Tree.preorder_subset_of_mem_children member (ih child member survived)
    | kept _ _ _ survive =>
      rw [survive] at survived
      rcases List.mem_cons.1 survived with rfl | below
      · exact node.mem_preorder_self
      · obtain ⟨child, member, inside⟩ := List.mem_flatMap.1 below
        exact Tree.preorder_subset_of_mem_children member (ih child member inside)

/-- A construct that survives does not go, and is no cast. -/
theorem stays_of_survivor {node : Tree} (survived : node ∈ survivors tree) (named : node.isNamed = true) :
    isGone node = false ∧ node.isOneOf unwrappedKinds = false := by
  induction tree using Tree.induction_on_children with
  | step tree ih =>
    obtain ⟨label, children⟩ := tree
    cases symbol : label.symbol with
    | token word =>
      rw [survivors, symbol, List.mem_singleton] at survived
      simp [survived, Tree.isNamed, Tree.kind?, symbol] at named
    | construct kind =>
      rw [survivors, symbol] at survived
      dsimp only at survived
      split at survived
      · cases survived
      rename_i stays
      split at survived
      · rw [survivorsOfValue_eq] at survived
        cases first : children.find? Tree.isNamed with
        | none => simp [first] at survived
        | some value =>
          rw [first, Option.map_some, Option.getD_some] at survived
          exact ih value (List.mem_of_find?_eq_some first) survived
      · rename_i uncast
        rw [survivorsOfAll_eq_flatMap] at survived
        rcases List.mem_cons.1 survived with rfl | below
        · exact ⟨Bool.eq_false_iff.2 stays, by simpa [Tree.isOneOf, Tree.kind?, symbol] using uncast⟩
        · obtain ⟨child, member, inside⟩ := List.mem_flatMap.1 below
          exact ih child member inside

end Left

end Erasure

end ComponentGate
