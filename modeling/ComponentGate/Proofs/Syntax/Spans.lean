import ComponentGate.Proofs.Syntax.Preorder
import Mathlib.Data.List.Pairwise

/-! Spans. Where nodes lie inside their parents and one behind the other, pre-order is the order in which
nodes begin in the text. -/

namespace ComponentGate.Syntax.Tree

/-- Whether the nodes of a tree lie inside their parents and one behind the other. -/
structure Spanned (root : Tree) : Prop where
  forward : ∀ node ∈ root.preorder, node.start ≤ node.stop
  nested : ∀ node ∈ root.preorder, ∀ child ∈ node.children,
    node.start ≤ child.start ∧ child.stop ≤ node.stop
  apart : ∀ node ∈ root.preorder,
    node.children.Pairwise fun first second => first.stop ≤ second.start

instance (root : Tree) : Decidable root.Spanned :=
  decidable_of_iff
    (∀ node ∈ root.preorder, node.start ≤ node.stop ∧
      (∀ child ∈ node.children, node.start ≤ child.start ∧ child.stop ≤ node.stop) ∧
      node.children.Pairwise fun first second => first.stop ≤ second.start)
    ⟨fun nodes =>
      { forward := fun node visited => (nodes node visited).1
        nested := fun node visited => (nodes node visited).2.1
        apart := fun node visited => (nodes node visited).2.2 },
    fun spanned node visited =>
      ⟨spanned.forward node visited, spanned.nested node visited, spanned.apart node visited⟩⟩

section Spanned

variable {root tree other : Tree} (spanned : root.Spanned)
include spanned

theorem Spanned.of_mem_preorder (visited : tree ∈ root.preorder) : tree.Spanned :=
  have within := preorder_subset_of_mem_preorder visited
  { forward := fun node below => spanned.forward node (within below)
    nested := fun node below => spanned.nested node (within below)
    apart := fun node below => spanned.apart node (within below) }

theorem Spanned.of_mem_children (member : tree ∈ root.children) : tree.Spanned :=
  spanned.of_mem_preorder (mem_preorder_of_mem_children root.mem_preorder_self member)

theorem Spanned.inside (below : other ∈ root.preorder) :
    root.start ≤ other.start ∧ other.stop ≤ root.stop := by
  induction root using induction_on_children with
  | step root ih =>
    rw [preorder_eq, List.mem_cons] at below
    rcases below with rfl | deeper
    · exact ⟨Nat.le_refl _, Nat.le_refl _⟩
    · obtain ⟨child, member, within⟩ := List.mem_flatMap.1 deeper
      have outer := spanned.nested root root.mem_preorder_self child member
      have inner := ih child member (spanned.of_mem_children member) within
      omega

/-- Two children of one node are the same, or one stands in front of the other. -/
theorem Spanned.siblings {first second : Tree} (one : first ∈ root.children) (two : second ∈ root.children) :
    first = second ∨ first.stop ≤ second.start ∨ second.stop ≤ first.start := by
  have symm : Std.Symm fun first second : Tree =>
      first.stop ≤ second.start ∨ second.stop ≤ first.start := ⟨fun _ _ => Or.symm⟩
  have pairs : root.children.Pairwise fun first second =>
      first.stop ≤ second.start ∨ second.stop ≤ first.start :=
    (spanned.apart root root.mem_preorder_self).imp Or.inl
  by_cases same : first = second
  · exact .inl same
  · exact .inr (pairs.forall one two same)

/-- Of two nodes one stands inside the other, or one in front of the other. -/
theorem Spanned.nested_or_apart {first second : Tree} (one : first ∈ root.preorder)
    (two : second ∈ root.preorder) :
    first ∈ second.preorder ∨ second ∈ first.preorder ∨
      first.stop ≤ second.start ∨ second.stop ≤ first.start := by
  induction root using induction_on_children with
  | step root ih =>
    have whole := And.intro one two
    rw [preorder_eq, List.mem_cons, List.mem_cons] at whole
    rcases whole with ⟨rfl | here, there⟩
    · exact .inr (.inl two)
    · rcases there with rfl | there
      · exact .inl one
      · obtain ⟨left, member, inside⟩ := List.mem_flatMap.1 here
        obtain ⟨right, member', inside'⟩ := List.mem_flatMap.1 there
        rcases spanned.siblings member member' with rfl | apart
        · exact ih left member (spanned.of_mem_children member) inside inside'
        · have bounds := (spanned.of_mem_children member).inside inside
          have bounds' := (spanned.of_mem_children member').inside inside'
          exact .inr (.inr (by omega))

/-- In pre-order no node begins before an earlier one. -/
theorem Spanned.pairwise_start :
    root.preorder.Pairwise fun first second => first.start ≤ second.start := by
  induction root using induction_on_children with
  | step root ih =>
    have self := root.mem_preorder_self
    rw [preorder_eq, List.pairwise_cons, List.pairwise_flatMap]
    refine ⟨?_, fun child member => ih child member (spanned.of_mem_children member), ?_⟩
    · intro node below
      obtain ⟨child, member, within⟩ := List.mem_flatMap.1 below
      have outer := spanned.nested root self child member
      have inner := (spanned.of_mem_children member).inside within
      omega
    · refine (spanned.apart root self).imp_of_mem fun {left right} one two order first here second there => ?_
      -- what stands below the left child begins before that child ends
      have before := (spanned.of_mem_children one).inside here
      have forward := (spanned.of_mem_children one).forward first here
      have behind := (spanned.of_mem_children two).inside there
      omega

end Spanned

/-- What a parser is relied on for: nodes lie inside their parents and one behind the other, and rows do
not decrease along the text. -/
structure Lined (root : Tree) : Prop extends Spanned root where
  rows : ∀ first ∈ root.preorder, ∀ second ∈ root.preorder, first.start ≤ second.start →
    first.label.row ≤ second.label.row

instance (root : Tree) : Decidable root.Lined :=
  decidable_of_iff
    (root.Spanned ∧ ∀ first ∈ root.preorder, ∀ second ∈ root.preorder,
      first.start ≤ second.start → first.label.row ≤ second.label.row)
    ⟨fun ⟨spanned, rows⟩ => ⟨spanned, rows⟩, fun lined => ⟨lined.toSpanned, lined.rows⟩⟩

/-- In pre-order no node stands on a line above an earlier one. -/
theorem Lined.pairwise_line {root : Tree} (lined : root.Lined) :
    root.preorder.Pairwise fun first second => first.line ≤ second.line :=
  lined.pairwise_start.imp_of_mem fun one two order =>
    Nat.add_le_add_right (lined.rows _ one _ two order) 1

end ComponentGate.Syntax.Tree
