import ComponentGate.Proofs.Erasure.Exposure
import ComponentGate.Proofs.Repair.Alike

/-! Trees without casts. Erasing the types of such a tree only takes parts of it away, so a pass finds in what
is left what it found before, as long as no types stand where it looks. -/

namespace ComponentGate

open Syntax

section Lists

variable {f : α → Option β} {p : α → Bool} {q : β → Bool} {elements : List α}

theorem filter_filterMap_congr
    (same : ∀ element ∈ elements, ∀ image ∈ f element, q image = p element) :
    (elements.filterMap f).filter q = (elements.filter p).filterMap f := by
  rw [List.filter_filterMap, List.filterMap_filter]
  apply List.filterMap_congr
  intro element member
  cases image : f element with
  | none => simp
  | some value =>
    rw [Option.filter_some, same element member value image]

theorem forall₂_filterMap {related : α → β → Prop}
    (kept : ∀ element ∈ elements, ∃ image, f element = some image ∧ related element image) :
    List.Forall₂ related elements (elements.filterMap f) := by
  induction elements with
  | nil => exact .nil
  | cons element rest ih =>
    obtain ⟨image, found, holds⟩ := kept element List.mem_cons_self
    rw [List.filterMap_cons, found]
    exact .cons holds (ih fun later member => kept later (List.mem_cons_of_mem _ member))

theorem rel_findSome_filterMap {related : γ → δ → Prop} {g : α → Option γ} {h : β → Option δ}
    (gone : ∀ element ∈ elements, f element = none → g element = none)
    (agree : ∀ element ∈ elements, ∀ image ∈ f element, Option.Rel related (g element) (h image)) :
    Option.Rel related (elements.findSome? g) ((elements.filterMap f).findSome? h) := by
  induction elements with
  | nil => exact .none
  | cons element rest ih =>
    have gone' := gone element List.mem_cons_self
    have agree' := agree element List.mem_cons_self
    have later := ih (fun element member => gone element (List.mem_cons_of_mem _ member))
      fun element member => agree element (List.mem_cons_of_mem _ member)
    rw [List.findSome?_cons, List.filterMap_cons]
    cases image : f element with
    | none =>
      rw [gone' image]
      exact later
    | some value =>
      dsimp only
      rw [List.findSome?_cons]
      rcases rel_cases (agree' value image) with ⟨here, there⟩ | ⟨mine, yours, here, there, holds⟩
      · rw [here, there]
        exact later
      · rw [here, there]
        exact .some holds

end Lists

/-- The same text under another tree. -/
def Document.rooted (document : Document) (root : Tree) : Document := { document with root }

@[simp] theorem Document.root_rooted (document : Document) (root : Tree) :
    (document.rooted root).root = root := rfl

@[simp] theorem Document.text_rooted (document : Document) (root tree : Tree) :
    (document.rooted root).text tree = document.text tree := rfl

namespace Erasure

/-- A construct that stays, without the types below it. -/
def kept (tree : Tree) : Tree :=
  .node { tree.label with symbol := keptSymbol tree.label.symbol } (tree.children.filterMap bare)

theorem keptSymbol_keptSymbol (symbol : Symbol) : keptSymbol (keptSymbol symbol) = keptSymbol symbol := by
  rw [keptSymbol, keptSymbol]
  split <;> simp_all

/-- Only casts give way to what they hold. -/
theorem bare_of_named {tree : Tree} (named : tree.isNamed = true)
    (uncast : tree.isOneOf unwrappedKinds = false) :
    bare tree = if isGone tree then none else some (kept tree) := by
  obtain ⟨⟨symbol, role, start, stop, row⟩, children⟩ := tree
  cases symbol with
  | token text => cases named
  | construct kind =>
    have other : unwrappedKinds.contains kind = false := by
      simpa [Tree.isOneOf, Tree.kind?] using uncast
    rw [bare]
    simp only [other, Bool.false_eq_true, ↓reduceIte, bareAll_eq_filterMap]
    rfl

theorem bare_of_uncast {tree : Tree} (tidy : tree.Tidy)
    (uncast : tree.isOneOf unwrappedKinds = false) :
    bare tree = if isGone tree then none else some (kept tree) := by
  cases named : tree.isNamed with
  | true => exact bare_of_named named uncast
  | false =>
    have leaf : tree.children = [] := by simpa [named] using tidy.leaf
    obtain ⟨⟨symbol, role, start, stop, row⟩, children⟩ := tree
    obtain rfl : children = [] := leaf
    cases symbol with
    | token text => rfl
    | construct kind => cases named

/-- What stays survives, with all that survives below it. -/
theorem survivors_of_uncast {tree : Tree} (tidy : tree.Tidy)
    (uncast : tree.isOneOf unwrappedKinds = false) (stays : isGone tree = false) :
    survivors tree = tree :: tree.children.flatMap survivors := by
  obtain ⟨⟨symbol, role, start, stop, row⟩, children⟩ := tree
  cases symbol with
  | token text =>
    have leaf : children = [] := by simpa [Tree.isNamed, Tree.kind?] using tidy.leaf
    rw [leaf]
    rfl
  | construct kind =>
    have other : unwrappedKinds.contains kind = false := by
      simpa [Tree.isOneOf, Tree.kind?] using uncast
    rw [survivors]
    simp only [stays, other, Bool.false_eq_true, ↓reduceIte, survivorsOfAll_eq_flatMap]
    rfl

section Kept

variable {tree other : Tree}

theorem isNamed_of_bare (left : bare tree = some other) : other.isNamed = tree.isNamed := by
  cases named : tree.isNamed with
  | true => exact (meant_of_bare named left).1
  | false =>
    rw [bare_of_unnamed named, Option.some.injEq] at left
    rw [← left]
    exact named

theorem isSignificant_of_bare (left : bare tree = some other) :
    (other.isNamed && !other.isComment) = (tree.isNamed && !tree.isComment) := by
  cases named : tree.isNamed with
  | true =>
    obtain ⟨isNamed, isComment⟩ := meant_of_bare named left
    cases comment : tree.isComment with
    | true => simp [bare_of_isComment comment] at left
    | false => rw [isNamed, isComment]
  | false => rw [isNamed_of_bare left, named, Bool.false_and, Bool.false_and]

theorem namedChildren_kept (tree : Tree) :
    (kept tree).namedChildren = tree.namedChildren.filterMap bare :=
  filter_filterMap_congr fun _ _ _ left => isNamed_of_bare left

theorem head_namedChildren_kept {first value : Tree} (begins : tree.namedChildren.head? = some first)
    (erased : bare first = some value) : (kept tree).namedChildren.head? = some value := by
  rw [namedChildren_kept]
  cases children : tree.namedChildren with
  | nil => simp [children] at begins
  | cons child rest =>
    obtain rfl : child = first := by simpa [children] using begins
    rw [List.filterMap_cons, erased, List.head?_cons]

theorem significantChildren_kept (tree : Tree) :
    (kept tree).significantChildren = tree.significantChildren.filterMap bare := by
  have single (tree : Tree) : tree.significantChildren =
      tree.children.filter fun child => child.isNamed && !child.isComment := by
    rw [Tree.significantChildren, Tree.namedChildren, List.filter_filter]
    simp only [Bool.and_comm]
  rw [single, single]
  exact filter_filterMap_congr fun _ _ _ left => isSignificant_of_bare left

theorem child_kept {role : Role} (stays : ∀ child ∈ tree.child? role, (bare child).isSome = true) :
    (kept tree).child? role = (tree.child? role).bind bare := by
  apply find_filterMap_bare
  · intro child _ unplayed left erased
    rw [role_of_bare erased]
    exact unplayed
  · intro child found
    obtain ⟨left, erased⟩ := Option.isSome_iff_exists.1 (stays child found)
    refine ⟨left, erased, ?_⟩
    rw [role_of_bare erased, role_of_child found, beq_self_eq_true]

theorem isOneOf_kept (tree : Tree) {kinds : List Kind}
    (together : Kind.requiredParameter ∈ kinds ↔ Kind.optionalParameter ∈ kinds) :
    (kept tree).isOneOf kinds = tree.isOneOf kinds :=
  isOneOf_of_symbol (keptSymbol_keptSymbol _) together

theorem isKind_kept (tree : Tree) {kind : Kind}
    (known : kind ≠ .requiredParameter ∧ kind ≠ .optionalParameter) :
    (kept tree).isKind kind = tree.isKind kind := by
  rw [← Tree.isOneOf_singleton, ← Tree.isOneOf_singleton]
  apply isOneOf_kept
  simp [known.1.symm, known.2.symm]

/-- Nothing among which a pass looks goes with the types. -/
theorem isGone_of_picked (picked : tree.isOneOf (attributeNameKinds ++ Tree.pickedKinds) = true) :
    isGone tree = false := by
  cases kind : tree.kind? with
  | none => simp [Tree.isOneOf, kind] at picked
  | some found =>
    have member : found ∈ attributeNameKinds ++ Tree.pickedKinds := by
      simpa [Tree.isOneOf, kind] using picked
    have plain : ∀ kind ∈ attributeNameKinds ++ Tree.pickedKinds, kind ∉ goneKinds ∧
        kind ∉ [.importSpecifier, .exportSpecifier, .importStatement, .exportStatement,
          .classHeritage] := by decide
    obtain ⟨stays, others⟩ := plain found member
    simp only [List.mem_cons, List.not_mem_nil, or_false, not_or] at others
    simp [isGone, isSpecifier, Tree.isOneOf, Tree.isKind, kind, stays, others]

end Kept

/-- Whether types stand only where no pass looks. -/
structure Placed (node : Tree) : Prop where
  played : ∀ child ∈ node.children, isGone child = true → child.role = none ∨ child.role = some .type
  listed : node.isListed = true → ∀ child ∈ node.significantChildren, isGone child = false

instance (node : Tree) : Decidable (Placed node) :=
  decidable_of_iff
    ((∀ child ∈ node.children, isGone child = true → child.role = none ∨ child.role = some .type) ∧
      (node.isListed = true → ∀ child ∈ node.significantChildren, isGone child = false))
    ⟨fun ⟨played, listed⟩ => ⟨played, listed⟩, fun placed => ⟨placed.played, placed.listed⟩⟩

/-- Whether there is no cast in a tree. -/
def Uncast (tree : Tree) : Prop := ∀ node ∈ tree.preorder, node.isOneOf unwrappedKinds = false

instance (tree : Tree) : Decidable (Uncast tree) := inferInstanceAs (Decidable (∀ node ∈ _, _))

/-- What is left of a tree without casts. -/
structure Bared (tree left : Tree) : Prop where
  erased : bare tree = some left
  uncast : Uncast tree
  clean : tree.AllTidy
  clean' : left.AllTidy
  placed : ∀ node ∈ survivors tree, Placed node

namespace Bared

variable {tree left : Tree} (bared : Bared tree left)
include bared

theorem tidy : tree.Tidy := bared.clean tree tree.mem_preorder_self

theorem uncast_self : tree.isOneOf unwrappedKinds = false := bared.uncast tree tree.mem_preorder_self

theorem stays : isGone tree = false := by
  have erased := bared.erased
  rw [bare_of_uncast bared.tidy bared.uncast_self] at erased
  cases gone : isGone tree with
  | false => rfl
  | true => simp [gone] at erased

theorem eq : left = kept tree := by
  have erased := bared.erased
  rw [bare_of_uncast bared.tidy bared.uncast_self, bared.stays] at erased
  simpa using erased.symm

theorem survive : survivors tree = tree :: tree.children.flatMap survivors :=
  survivors_of_uncast bared.tidy bared.uncast_self bared.stays

theorem placed_self : Placed tree := by
  apply bared.placed
  rw [bared.survive]
  exact List.mem_cons_self

/-- What is left of a child is what is left of a tree without casts, too. -/
theorem of_child {child value : Tree} (member : child ∈ tree.children) (erased : bare child = some value) :
    Bared child value where
  erased
  uncast node below := bared.uncast node (Tree.preorder_subset_of_mem_children member below)
  clean node below := bared.clean node (Tree.preorder_subset_of_mem_children member below)
  clean' node below := by
    refine bared.clean' node (Tree.preorder_subset_of_mem_children ?_ below)
    rw [bared.eq]
    exact List.mem_filterMap.2 ⟨child, member, erased⟩
  placed node below := by
    apply bared.placed
    rw [bared.survive]
    exact List.mem_cons_of_mem _ (List.mem_flatMap.2 ⟨child, member, below⟩)

theorem exists_of_stays {child : Tree} (member : child ∈ tree.children)
    (stays : isGone child = false) : ∃ value, bare child = some value ∧ Bared child value := by
  have visited := Tree.preorder_subset_of_mem_children member child.mem_preorder_self
  have left : bare child = some (kept child) := by
    rw [bare_of_uncast (bared.clean child visited) (bared.uncast child visited), stays]
    simp
  exact ⟨kept child, left, bared.of_child member left⟩

theorem child {role : Role} (asked : role ≠ .type) :
    Option.Rel Bared (tree.child? role) (left.child? role) := by
  have stays : ∀ child ∈ tree.child? role, isGone child = false := by
    intro child found
    cases gone : isGone child with
    | false => rfl
    | true =>
      have played := bared.placed_self.played child (List.mem_of_find?_eq_some found) gone
      rw [role_of_child found] at played
      simp [asked] at played
  have here : ∀ child ∈ tree.child? role, ∃ value, bare child = some value ∧ Bared child value :=
    fun child found => bared.exists_of_stays (List.mem_of_find?_eq_some found) (stays child found)
  have there : left.child? role = (tree.child? role).bind bare := by
    rw [bared.eq]
    apply child_kept
    intro child found
    obtain ⟨value, erased, -⟩ := here child found
    rw [erased, Option.isSome_some]
  rw [there]
  cases found : tree.child? role with
  | none => exact .none
  | some child =>
    obtain ⟨value, erased, near⟩ := here child found
    rw [Option.bind_some, erased]
    exact .some near

theorem listed (isListed : tree.isListed = true) :
    List.Forall₂ Bared tree.significantChildren left.significantChildren := by
  rw [bared.eq, significantChildren_kept]
  apply forall₂_filterMap
  intro child member
  exact bared.exists_of_stays (Tree.mem_children_of_mem_significantChildren member)
    (bared.placed_self.listed isListed child member)

theorem picked (kinds : List Kind) (among : kinds ⊆ Tree.pickedKinds) :
    List.Forall₂ Bared (tree.significantChildren.filter (·.isOneOf kinds))
      (left.significantChildren.filter (·.isOneOf kinds)) := by
  have together : Kind.requiredParameter ∈ kinds ↔ Kind.optionalParameter ∈ kinds := by
    have no : Kind.requiredParameter ∉ Tree.pickedKinds ∧
        Kind.optionalParameter ∉ Tree.pickedKinds := by decide
    exact iff_of_false (fun member => no.1 (among member)) fun member => no.2 (among member)
  have picked (child : Tree) (member : child ∈ tree.significantChildren)
      (listed : child.isOneOf kinds = true) :
      ∃ value, bare child = some value ∧ Bared child value := by
    refine bared.exists_of_stays (Tree.mem_children_of_mem_significantChildren member) (isGone_of_picked ?_)
    exact Tree.isOneOf_mono (fun kind found => List.mem_append_right _ (among found)) listed
  rw [bared.eq, significantChildren_kept, filter_filterMap_congr]
  · apply forall₂_filterMap
    intro child member
    obtain ⟨member, listed⟩ := List.mem_filter.1 member
    exact picked child member listed
  · intro child member value erased
    rw [(bared.of_child (Tree.mem_children_of_mem_significantChildren member) erased).eq]
    exact isOneOf_kept child together

theorem attributeName (markup : tree.isKind .markupAttribute = true) :
    Option.Rel Bared tree.namedChildren.head? left.namedChildren.head? := by
  obtain ⟨name, begins, naming⟩ := Tree.exists_attributeName bared.tidy markup
  have member : name ∈ tree.children := (List.mem_filter.1 (List.mem_of_head? begins)).1
  obtain ⟨value, erased, near⟩ := bared.exists_of_stays member
    (isGone_of_picked (Tree.isOneOf_mono (List.subset_append_left _ _) naming))
  rw [bared.eq, begins, head_namedChildren_kept begins erased]
  exact .some near

end Bared

theorem resemblance (document : Document) (left : Tree) :
    Resemblance document (document.rooted left) Bared where
  tidy bared := ⟨bared.tidy, bared.clean' _ (Tree.mem_preorder_self _)⟩
  symbol bared := by
    rw [bared.eq]
    exact (keptSymbol_keptSymbol _).symm
  text bared _ := by
    rw [bared.eq]
    rfl
  child bared _ asked := bared.child asked
  listed bared := bared.listed
  picked bared kinds among := bared.picked kinds among
  attributeName bared := bared.attributeName

section Plans

open Repair

variable {document : Document} {left : Tree}

/-- Every node that is left is what is left of some node. -/
theorem Bared.exists_bared {tree node : Tree} (bared : Bared tree left) (visited : node ∈ left.preorder) :
    ∃ seen ∈ tree.preorder, Bared seen node := by
  induction tree using Tree.induction_on_children generalizing left with
  | step tree ih =>
    rw [Tree.preorder_eq, List.mem_cons] at visited
    rcases visited with rfl | below
    · exact ⟨tree, tree.mem_preorder_self, bared⟩
    obtain ⟨value, member, inside⟩ := List.mem_flatMap.1 below
    rw [bared.eq] at member
    obtain ⟨child, member, erased⟩ := List.mem_filterMap.1 member
    obtain ⟨seen, there, near⟩ := ih child member (bared.of_child member erased) inside
    exact ⟨seen, Tree.preorder_subset_of_mem_children member there, near⟩

/-- Where there are no casts, no key is found missing that was not missing before. -/
theorem listKeys_of_uncast (bared : Bared document.root left)
    (quiet : (listKeys.plan document).edits = []) :
    (listKeys.plan (document.rooted left)).edits = [] := by
  rw [listKeys, concat_edits_eq_nil_iff] at quiet ⊢
  intro node visited call
  obtain ⟨seen, there, near⟩ := bared.exists_bared visited
  have same := (resemblance document left).isKind near .callExpression (by decide)
  exact ((resemblance document left).keyRepairs_iff near).1 (quiet seen there (same.trans call))

/-- Where there are no casts, declarations have to be moved if and only if they had to be before, as long
as no export goes that defines a function. -/
theorem hoistDeclarations_of_uncast (bared : Bared document.root left)
    (exported : ∀ statement ∈ document.root.namedChildren, statement.isKind .exportStatement = true →
      isGone statement = true → (exportedFunction? document statement).isNone = true) :
    (hoistDeclarations.plan document).edits = [] ↔
      (hoistDeclarations.plan (document.rooted left)).edits = [] := by
  have alike := resemblance document left
  apply alike.hoistDeclarations_iff
  · have declared := bared.picked declarationKinds (by decide)
    rw [← Tree.filter_namedChildren _ (by decide), ← Tree.filter_namedChildren _ (by decide)] at declared
    exact declared
  · rw [hoistTarget?, hoistTarget?, Document.root_rooted]
    have exports : left.namedChildren.filter (·.isKind .exportStatement) =
        (document.root.namedChildren.filter (·.isKind .exportStatement)).filterMap bare := by
      rw [bared.eq, namedChildren_kept]
      apply filter_filterMap_congr
      intro child member value erased
      have near := bared.of_child (List.mem_filter.1 member).1 erased
      rw [near.eq]
      exact isKind_kept child (by decide)
    rw [exports]
    apply rel_findSome_filterMap
    · intro statement member erased
      obtain ⟨member, exports'⟩ := List.mem_filter.1 member
      refine Option.isNone_iff_eq_none.1 (exported statement member exports' ?_)
      cases gone : isGone statement with
      | true => rfl
      | false =>
        obtain ⟨value, stays, -⟩ := bared.exists_of_stays (List.mem_filter.1 member).1 gone
        rw [erased] at stays
        cases stays
    · intro statement member value erased
      have member := (List.mem_filter.1 (List.mem_filter.1 member).1).1
      exact alike.exportedFunction (bared.of_child member erased)

end Plans

end Erasure

end ComponentGate
