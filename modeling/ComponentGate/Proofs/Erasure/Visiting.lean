import ComponentGate.Erasure.Plan
import ComponentGate.Proofs.Syntax.Worklist
import ComponentGate.Syntax.Parse
import Mathlib.Data.List.Nodup
import Mathlib.Tactic.SplitIfs

/-! What erasing visits: the tree that is left of a program's where nothing stands below what is erased as a
whole, and only its value below a cast. -/

namespace ComponentGate

open Syntax

namespace Erasure

section Entered

variable {document : Document} {place : Place}

/-- The places that erasing goes on to from a place: none below what goes as a whole, the first named one
below a cast, and all below anything else. -/
def entered (document : Document) (place : Place) : List Place :=
  match action document place with
  | .cut _ => []
  | .unwrap _ _ => (place.children.find? (·.tree.isNamed)).toList
  | .descend _ => place.children

theorem entered_sublist (document : Document) (place : Place) :
    (entered document place).Sublist place.children := by
  rw [entered]
  split
  · exact List.nil_sublist _
  · cases found : place.children.find? (·.tree.isNamed) with
    | none => exact List.nil_sublist _
    | some child => exact List.singleton_sublist.2 (List.mem_of_find?_eq_some found)
  · exact List.Sublist.refl _

def pruning (document : Document) : Place.Pruning := ⟨entered document, entered_sublist document⟩

/-- Only casts are unwrapped, and to their first named part. -/
theorem of_action_eq_unwrap {value : Tree} {edits : List Edit}
    (unwraps : action document place = .unwrap value edits) :
    place.tree.isOneOf castKinds = true ∧ place.tree.namedChildren.head? = some value := by
  rw [action] at unwraps
  dsimp only at unwraps
  cases found : place.tree.kind? with
  | none =>
    rw [found] at unwraps
    cases unwraps
  | some kind =>
    rw [found] at unwraps
    dsimp only at unwraps
    split_ifs at unwraps with erased modifier statement cast typed clause
    · cases first : place.tree.namedChildren.head? with
      | none =>
        rw [castAction, first] at unwraps
        cases unwraps
      | some part =>
        rw [castAction, first] at unwraps
        cases unwraps
        exact ⟨by rwa [Tree.isOneOf, found], rfl⟩

/-- Among parts that their labels tell apart, one is found by its label. -/
theorem filter_label {places : List Place} {child : Place}
    (told : (places.map fun place => place.tree.label).Nodup) (member : child ∈ places) :
    (places.filter fun place => place.tree.label = child.tree.label) = [child] := by
  induction places with
  | nil => cases member
  | cons first rest ih =>
    obtain ⟨alone, others⟩ := List.nodup_cons.1 told
    have different (other : Place) (behind : other ∈ rest) : other.tree.label ≠ first.tree.label :=
      fun same => alone (List.mem_map.2 ⟨other, behind, same⟩)
    rcases List.mem_cons.1 member with rfl | later
    · rw [List.filter_cons_of_pos (by simp), List.filter_eq_nil_iff.2]
      simpa using different
    · rw [List.filter_cons_of_neg (by simpa using (different child later).symm), ih others later]

/-- What a walk descends to is what erasing goes on to, where labels tell the parts of a cast apart. -/
theorem filter_descends
    (told : place.tree.isOneOf castKinds = true → (place.tree.children.map Tree.label).Nodup) :
    place.children.filter (descends document place) = entered document place := by
  rw [entered]
  unfold descends
  cases acts : action document place with
  | cut edits => exact List.filter_eq_nil_iff.2 fun _ _ => Bool.false_ne_true
  | descend edits => exact List.filter_eq_self.2 fun _ _ => rfl
  | unwrap value edits =>
    obtain ⟨cast, first⟩ := of_action_eq_unwrap acts
    have labels := told cast
    rw [← Place.map_tree_children, List.map_map] at labels
    rw [Tree.namedChildren, List.head?_filter, ← Place.map_tree_children, List.find?_map,
      Option.map_eq_some_iff] at first
    obtain ⟨child, found, rfl⟩ := first
    have named : place.children.find? (·.tree.isNamed) = some child := found
    dsimp only
    rw [named]
    exact filter_label labels (List.mem_of_find?_eq_some named)

end Entered

/-- The loops that walk over a tree end, and take the places in pre-order: a walk from any place that one
and all below it, each once, a parent before its children and siblings from left to right, as the addresses
of its nodes rise; and the loop that erases types those of the tree in which below each place only those
stand that erasing goes on to. These are the places where erasing records its edits, as long as the parts of
a cast differ in what they are or in where they stand. -/
theorem loops_take_preorders (place : Place) (document : Document) :
    (Place.Pruning.whole.Takes place place.walk ∧
      place.walk.map Place.tree = place.tree.preorder ∧
      place.tree.preorder.map some = place.tree.addresses.map place.tree.at? ∧
      place.tree.addresses.Pairwise (· < ·) ∧
      ∀ address, address ∈ place.tree.addresses ↔ (place.tree.at? address).isSome = true) ∧
    (pruning document).Takes (Place.ofRoot document.root)
      ((pruning document).preorder (Place.ofRoot document.root)) ∧
    ((∀ node ∈ document.root.preorder, node.isOneOf castKinds = true →
        (node.children.map Tree.label).Nodup) →
      (Place.ofRoot document.root).walkWhere (descends document) =
        (pruning document).preorder (Place.ofRoot document.root)) := by
  refine ⟨⟨?_, place.map_tree_walk, (Tree.map_at?_addresses _).symm, Tree.pairwise_addresses _,
    fun _ => Tree.mem_addresses_iff⟩, Place.Pruning.takes_preorder _ _, fun told => ?_⟩
  · rw [Place.walk_eq_preorder]
    exact Place.Pruning.takes_preorder _ place
  · rw [Place.walkWhere_eq_preorder]
    refine @Place.Pruning.preorder_congr _ _ (fun place => place.tree ∈ document.root.preorder)
      (fun place here child below => ?_) (fun place here => ?_) _ document.root.mem_preorder_self
    · exact Tree.mem_preorder_of_mem_children here (Place.tree_mem_children below)
    · exact filter_descends (told place.tree here)

/-- Casts within one another, and type arguments. -/
def nestedCasts : String := "const a = (b as T)!;\nf<U>(a satisfies T as U);\n"

theorem nestedCasts_in_preorder :
    (Place.ofRoot (Syntax.parse nestedCasts)).walkWhere (descends (Document.read Syntax.parse nestedCasts)) =
      (pruning (Document.read Syntax.parse nestedCasts)).preorder
        (Place.ofRoot (Syntax.parse nestedCasts)) :=
  (loops_take_preorders (Place.ofRoot (Syntax.parse nestedCasts))
    (Document.read Syntax.parse nestedCasts)).2.2 (by decide +kernel)

end Erasure

end ComponentGate
