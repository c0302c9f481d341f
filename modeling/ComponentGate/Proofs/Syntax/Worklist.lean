import ComponentGate.Proofs.Syntax.Preorder
import Mathlib.Logic.Function.Iterate

/-! Walks over a tree as loops. A loop takes a place from the end of a stack and puts those on it that the
walk goes on to, in reverse. It takes the places in pre-order of the tree that is left of the places that the
walk goes on to, and ends after the last of them; and so does a visit with enough fuel. -/

namespace ComponentGate.Syntax

namespace Place.Pruning

variable (pruning : Pruning)

/-- One turn of the loop: the last place of the stack is taken, and what it leads to is put on the stack in
reverse, so that the first of it is taken next. -/
def turn (stack : List Place) : List Place :=
  match stack.getLast? with
  | none => []
  | some place => stack.dropLast ++ (pruning.next place).reverse

/-- Whether the loop that begins with one place takes the `visited` places, one a turn, and then ends. -/
structure Takes (start : Place) (visited : List Place) : Prop where
  taken : ∀ count, (pruning.turn^[count] [start]).getLast? = visited[count]?
  ends : ∀ count, pruning.turn^[count] [start] = [] ↔ visited.length ≤ count

/-- What a loop has still to take: the pre-orders of the places on its stack, from the last one on. -/
def ahead (stack : List Place) : List Place := stack.reverse.flatMap pruning.preorder

theorem ahead_concat (stack : List Place) (place : Place) :
    pruning.ahead (stack ++ [place]) = pruning.preorder place ++ pruning.ahead stack := by
  simp [ahead]

theorem ahead_eq_nil_iff (stack : List Place) : pruning.ahead stack = [] ↔ stack = [] := by
  rcases stack.eq_nil_or_concat' with rfl | ⟨rest, place, rfl⟩
  · simp [ahead]
  · simp [ahead_concat, preorder_eq]

theorem head?_ahead (stack : List Place) : (pruning.ahead stack).head? = stack.getLast? := by
  rcases stack.eq_nil_or_concat' with rfl | ⟨rest, place, rfl⟩
  · rfl
  · simp [ahead_concat, preorder_eq]

/-- A turn takes the first of what is ahead, and leaves the others ahead. -/
theorem ahead_turn (stack : List Place) : pruning.ahead (pruning.turn stack) = (pruning.ahead stack).tail := by
  rcases stack.eq_nil_or_concat' with rfl | ⟨rest, place, rfl⟩
  · rfl
  · rw [ahead_concat, preorder_eq, List.cons_append, List.tail_cons]
    simp [turn, ahead]

theorem ahead_iterate (count : Nat) (stack : List Place) :
    pruning.ahead (pruning.turn^[count] stack) = (pruning.ahead stack).drop count := by
  induction count with
  | zero => rfl
  | succ count ih => rw [Function.iterate_succ_apply', ahead_turn, ih, List.tail_drop]

theorem takes_preorder (place : Place) : pruning.Takes place (pruning.preorder place) := by
  have start : pruning.ahead [place] = pruning.preorder place := by simp [ahead]
  constructor
  · intro count
    rw [← head?_ahead, ahead_iterate, start, List.head?_drop]
  · intro count
    rw [← ahead_eq_nil_iff, ahead_iterate, start, List.drop_eq_nil_iff]

end Place.Pruning

namespace Tree

/-- The node that a list of indices leads to, each an index among a node's children. -/
def at? (tree : Tree) : List Nat → Option Tree
  | [] => some tree
  | index :: rest => tree.children[index]?.bind fun child => child.at? rest

mutual

/-- The addresses of a tree's nodes, a parent's before those of its children. -/
def addresses : Tree → List (List Nat)
  | node _ children => [] :: addressesFrom 0 children

def addressesFrom (first : Nat) : List Tree → List (List Nat)
  | [] => []
  | tree :: rest => (addresses tree).map (first :: ·) ++ addressesFrom (first + 1) rest

end

theorem addresses_eq (tree : Tree) : tree.addresses = [] :: addressesFrom 0 tree.children := by
  cases tree with
  | node label children => rw [addresses, children_node]

theorem mem_addressesFrom {address : List Nat} {first : Nat} {trees : List Tree} :
    address ∈ addressesFrom first trees ↔ ∃ index tree rest, trees[index]? = some tree ∧
      rest ∈ tree.addresses ∧ address = (first + index) :: rest := by
  induction trees generalizing first with
  | nil => simp [addressesFrom]
  | cons tree others ih =>
    rw [addressesFrom, List.mem_append, List.mem_map, ih]
    constructor
    · rintro (⟨rest, inside, rfl⟩ | ⟨index, later, rest, there, inside, rfl⟩)
      · exact ⟨0, tree, rest, rfl, inside, rfl⟩
      · exact ⟨index + 1, later, rest, there, inside, by rw [Nat.add_right_comm, Nat.add_assoc]⟩
    · rintro ⟨index, later, rest, there, inside, rfl⟩
      cases index with
      | zero =>
        obtain rfl := Option.some.inj there
        exact .inl ⟨rest, inside, rfl⟩
      | succ index => exact .inr ⟨index, later, rest, there, inside, by rw [Nat.add_right_comm, Nat.add_assoc]⟩

/-- Every node has its address. -/
theorem mem_addresses_iff {tree : Tree} {address : List Nat} :
    address ∈ tree.addresses ↔ (tree.at? address).isSome = true := by
  induction tree using induction_on_children generalizing address with
  | step tree ih =>
    rw [addresses_eq, List.mem_cons, mem_addressesFrom]
    cases address with
    | nil => simp [at?]
    | cons index rest =>
      rw [at?]
      constructor
      · rintro (none | ⟨place, child, inner, there, inside, same⟩)
        · cases none
        · obtain ⟨rfl, rfl⟩ := List.cons.inj same
          rw [Nat.zero_add, there, Option.bind_some]
          exact (ih child (List.mem_of_getElem? there)).1 inside
      · intro reached
        cases there : tree.children[index]? with
        | none => simp [there] at reached
        | some child =>
          rw [there, Option.bind_some] at reached
          exact .inr ⟨index, child, rest, there, (ih child (List.mem_of_getElem? there)).2 reached,
            by rw [Nat.zero_add]⟩

/-- Addresses rise: those of siblings from left to right, and a parent's is in front of its children's. -/
theorem pairwise_addresses (tree : Tree) : tree.addresses.Pairwise (· < ·) := by
  induction tree using induction_on_children with
  | step tree ih =>
    have rise (first : Nat) (trees : List Tree) (each : ∀ child ∈ trees, child ∈ tree.children) :
        (addressesFrom first trees).Pairwise (· < ·) := by
      induction trees generalizing first with
      | nil => exact .nil
      | cons child rest ih' =>
        obtain ⟨own, others⟩ := List.forall_mem_cons.1 each
        rw [addressesFrom, List.pairwise_append, List.pairwise_map]
        refine ⟨(ih child own).imp fun less => List.cons_lt_cons_iff.2 (.inr ⟨rfl, less⟩),
          ih' (first + 1) others, ?_⟩
        intro one before two behind
        obtain ⟨inside, -, rfl⟩ := List.mem_map.1 before
        obtain ⟨index, -, rest', -, -, rfl⟩ := mem_addressesFrom.1 behind
        exact List.cons_lt_cons_iff.2 (.inl (by omega))
    rw [addresses_eq]
    refine .cons (fun address inside => ?_) (rise 0 tree.children fun _ => id)
    obtain ⟨index, -, rest, -, -, rfl⟩ := mem_addressesFrom.1 inside
    exact List.nil_lt_cons _ _

/-- The nodes at the addresses are those of the pre-order. -/
theorem map_at?_addresses (tree : Tree) : tree.addresses.map tree.at? = tree.preorder.map some := by
  induction tree using induction_on_children with
  | step tree ih =>
    have below (front trees : List Tree) (whole : tree.children = front ++ trees) :
        (addressesFrom front.length trees).map tree.at? = (trees.flatMap preorder).map some := by
      induction trees generalizing front with
      | nil => rfl
      | cons child rest ih' =>
        have here : tree.children[front.length]? = some child := by simp [whole]
        have own := ih child (List.mem_of_getElem? here)
        have behind := ih' (front ++ [child]) (by simp [whole])
        rw [List.length_append, List.length_singleton] at behind
        rw [addressesFrom, List.map_append, List.map_map, behind, List.flatMap_cons, List.map_append, ← own]
        simp [Function.comp_def, at?, here]
    have all := below [] tree.children rfl
    rw [List.length_nil] at all
    rw [addresses_eq, preorder_eq, List.map_cons, List.map_cons, all, at?]

end Tree

end ComponentGate.Syntax
