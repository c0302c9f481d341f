import ComponentGate.Proofs.Syntax.Preorder
import ComponentGate.Repair.ListKeys
import Mathlib.Data.List.Nodup
import Mathlib.Data.List.Perm.Subperm
import Mathlib.Data.Nat.Find

/-! Names for a position. They form one sequence without repetitions, so the names that are spelled in a
function cannot use it up, and the name that is chosen is the first one of the sequence that they leave. -/

namespace ComponentGate

open Syntax

theorem Document.mem_identifierNames {document : Document} {scope : Tree} {name : String} :
    name ∈ document.identifierNames scope ↔
      ∃ node ∈ scope.preorder, node.isOneOf identifierKinds = true ∧ document.text node = name := by
  simp only [identifierNames, Tree.nodes_eq_preorder, List.mem_map, List.mem_filter, and_assoc]

namespace Repair

/-- The names for a position in the order in which they are tried. -/
def positionName : Nat → String
  | 0 => "index"
  | 1 => "idx"
  | 2 => "i"
  | number + 3 => s!"index{number + 1}"

section Sequence

theorem positionNames_eq (count : Nat) :
    positionNames count = (List.range (count + 3)).map positionName := by
  rw [positionNames, Nat.add_comm count 3, List.range_add, List.map_append, List.map_map]
  congr 1
  apply List.map_congr_left
  intro number _
  rw [Function.comp_apply, Nat.add_comm 3 number]
  rfl

theorem toList_positionName (number : Nat) :
    (positionName (number + 3)).toList = "index".toList ++ Nat.toDigits 10 (number + 1) := by
  change ("index" ++ toString (number + 1)).toList = _
  rw [String.toList_append, Nat.toString_eq_repr, Nat.toList_repr]

/-- A numbered name is longer than the ones that are preferred to it. -/
theorem length_positionName (number : Nat) : 5 < (positionName (number + 3)).toList.length := by
  have letters : "index".toList.length = 5 := rfl
  have digits : 0 < (Nat.toDigits 10 (number + 1)).length := Nat.length_toDigits_pos
  rw [toList_positionName, List.length_append]
  omega

theorem positionName_injective : Function.Injective positionName := by
  have preferred : ∀ one < 3, ∀ two < 3, positionName one = positionName two → one = two := by decide
  have short : ∀ number < 3, (positionName number).toList.length ≤ 5 := by decide
  have apart : ∀ one < 3, ∀ number, positionName one ≠ positionName (number + 3) := by
    intro one early number same
    have letters := short one early
    rw [same] at letters
    exact absurd (length_positionName number) (Nat.not_lt.2 letters)
  intro one two same
  rcases Nat.lt_or_ge one 3 with early | late
  · rcases Nat.lt_or_ge two 3 with early' | late'
    · exact preferred one early two early' same
    · obtain ⟨number, rfl⟩ := Nat.exists_eq_add_of_le' late'
      exact absurd same (apart one early number)
  · obtain ⟨number, rfl⟩ := Nat.exists_eq_add_of_le' late
    rcases Nat.lt_or_ge two 3 with early' | late'
    · exact absurd same.symm (apart two early' number)
    · obtain ⟨number', rfl⟩ := Nat.exists_eq_add_of_le' late'
      have letters := congrArg String.toList same
      rw [toList_positionName, toList_positionName] at letters
      have digits := congrArg (Nat.ofDigitChars 10 · 0) (List.append_cancel_left letters)
      simp only [Nat.ofDigitChars_ten_toDigits] at digits
      omega

end Sequence

section Search

variable (taken : List String)

/-- Not all of the first names can be taken, if there is one more of them than there are taken ones. -/
theorem exists_untaken : ∃ number, number ≤ taken.length ∧ positionName number ∉ taken := by
  by_contra! all
  have inside : (List.range (taken.length + 1)).map positionName ⊆ taken := by
    intro name member
    obtain ⟨number, early, rfl⟩ := List.mem_map.1 member
    exact all number (Nat.lt_succ_iff.1 (List.mem_range.1 early))
  have distinct : ((List.range (taken.length + 1)).map positionName).Nodup :=
    List.nodup_range.map positionName_injective
  have fewer := (distinct.subperm inside).length_le
  rw [List.length_map, List.length_range] at fewer
  omega

/-- The search ends at the first name that is not taken, along whatever list of names that the taken ones
cannot use up. -/
theorem exists_freshName_eq :
    ∃ number, freshName taken = positionName number ∧ positionName number ∉ taken ∧
      (∀ earlier < number, positionName earlier ∈ taken) ∧
      ∀ count, taken.length < count + 3 →
        ((positionNames count).find? fun name => !taken.contains name) = some (freshName taken) := by
  have untaken := exists_untaken taken
  obtain ⟨small, free⟩ := Nat.find_spec untaken
  have before : ∀ earlier < Nat.find untaken, positionName earlier ∈ taken := by
    intro earlier smaller
    by_contra free'
    exact Nat.find_min untaken smaller ⟨by omega, free'⟩
  have found (count : Nat) (room : taken.length < count + 3) :
      ((positionNames count).find? fun name => !taken.contains name) =
        some (positionName (Nat.find untaken)) := by
    have place : (List.range (count + 3)).find? ((fun name => !taken.contains name) ∘ positionName) =
        some (Nat.find untaken) := by
      rw [List.find?_range_eq_some]
      refine ⟨by simpa using free, List.mem_range.2 (by omega), fun earlier smaller => ?_⟩
      simpa using before earlier smaller
    rw [positionNames_eq, List.find?_map, place, Option.map_some]
  have chosen : freshName taken = positionName (Nat.find untaken) := by
    rw [freshName, found _ (by omega), Option.getD_some]
  exact ⟨_, chosen, free, before, fun count room => (found count room).trans (congrArg some chosen.symm)⟩

theorem freshName_not_mem : freshName taken ∉ taken := by
  obtain ⟨number, chosen, free, -⟩ := exists_freshName_eq taken
  rwa [chosen]

theorem head_freshName : (freshName taken).toList.head? = some 'i' := by
  obtain ⟨number, chosen, -⟩ := exists_freshName_eq taken
  rw [chosen]
  match number with
  | 0 | 1 | 2 => rfl
  | number + 3 =>
    rw [toList_positionName]
    rfl

theorem freshName_on_line : '\n' ∉ (freshName taken).toList := by
  obtain ⟨number, chosen, -⟩ := exists_freshName_eq taken
  rw [chosen]
  match number with
  | 0 | 1 | 2 => decide
  | number + 3 =>
    rw [toList_positionName, List.mem_append, not_or]
    refine ⟨by decide, fun digit => ?_⟩
    exact absurd (Nat.isDigit_of_mem_toDigits (by decide) (by decide) digit) (by decide)

end Search

/-- The search for a name for the position in a scope ends, at the first name of the sequence that none of
the scope's identifiers spells, and it ends there along any list of names that they cannot use up. -/
theorem freshName_first_unspelled (document : Document) (scope : Tree) :
    ∃ number, freshName (document.identifierNames scope) = positionName number ∧
      (∀ node ∈ scope.preorder, node.isOneOf Document.identifierKinds = true →
        document.text node ≠ positionName number) ∧
      (∀ earlier < number, ∃ node ∈ scope.preorder,
        node.isOneOf Document.identifierKinds = true ∧ document.text node = positionName earlier) ∧
      ∀ count, (document.identifierNames scope).length < count + 3 →
        ((positionNames count).find? fun name => !(document.identifierNames scope).contains name) =
          some (freshName (document.identifierNames scope)) := by
  obtain ⟨number, chosen, free, before, found⟩ :=
    exists_freshName_eq (document.identifierNames scope)
  refine ⟨number, chosen, ?_, fun earlier smaller => ?_, found⟩
  · intro node inside identifier spelled
    exact free (Document.mem_identifierNames.2 ⟨node, inside, identifier, spelled⟩)
  · exact Document.mem_identifierNames.1 (before earlier smaller)

example : freshName ["i", "index", "item"] = "idx" := by decide

end Repair

end ComponentGate
