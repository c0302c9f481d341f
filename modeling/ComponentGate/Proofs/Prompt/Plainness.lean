import Mathlib
import ComponentGate.Request.Basic
import ComponentGate.Proofs.Text.Removal
import ComponentGate.Proofs.Text.Trimming

/-! Plain instructions. Every step of the cleaning only takes characters out, so that what one step
guarantees of all sublists of its result holds at the end: no control characters, no tags. -/

namespace ComponentGate.Prompt

open Text

/-- A text without its control characters, script blocks and tags. -/
def withoutTags (text : String) : List Char :=
  removeMatches tag (removeMatches scriptBlock (text.toList.filter (!isControl ·)))

/-- What the removal of entities and of script schemes leaves. -/
def withoutReferences (text : List Char) : List Char :=
  removeMatches scriptScheme (removeMatches entity text)

theorem toList_sanitized (text : String) :
    (sanitized text).toList = (trim (withoutReferences (withoutTags text))).take instructionLimit :=
  String.toList_ofList

theorem sanitized_sublist_withoutTags (text : String) :
    (sanitized text).toList.Sublist (withoutTags text) := by
  rw [toList_sanitized]
  exact (List.take_sublist _ _).trans <| (trim_sublist _).trans <|
    (removeMatches_sublist scriptScheme _).trans (removeMatches_sublist entity _)

theorem sanitized_sublist_filter (text : String) :
    (sanitized text).toList.Sublist (text.toList.filter (!isControl ·)) :=
  (sanitized_sublist_withoutTags text).trans <|
    (removeMatches_sublist tag _).trans (removeMatches_sublist scriptBlock _)

theorem isControl_iff {c : Char} : isControl c = true ↔
    c.toNat ≤ 0x08 ∨ c.toNat = 0x0B ∨ c.toNat = 0x0C ∨ (0x0E ≤ c.toNat ∧ c.toNat ≤ 0x1F) ∨
      c.toNat = 0x7F := by
  simp [isControl, or_assoc]

theorem tag_eq_none_iff {rest : List Char} : tag ('<' :: rest) = none ↔ '>' ∉ rest := by
  have starts := List.takeWhile_prefix (p := (· ≠ '>')) (l := rest)
  have whole : rest.length ≤ (rest.takeWhile (· ≠ '>')).length ↔ '>' ∉ rest := by
    constructor
    · intro long
      have same := List.takeWhile_eq_self_iff.1 (starts.eq_of_length (starts.length_le.antisymm long))
      exact fun closes => by simpa using same '>' closes
    · intro absent
      have same : rest.takeWhile (· ≠ '>') = rest :=
        List.takeWhile_eq_self_iff.2 fun c member => by
          simpa using fun closes : c = '>' => absent (closes ▸ member)
      rw [same]
  simp only [tag, ite_eq_right_iff, reduceCtorEq, imp_false, not_lt, whole]

/-- Behind an opening bracket that is kept, no closing one follows. -/
theorem tagless (text : List Char) : ¬['<', '>'].Sublist (removeMatches tag text) := by
  fun_induction removeMatches tag text with
  | case1 => simp
  | case2 c rest count found ih => exact ih
  | case3 c rest clear ih =>
    intro brackets
    cases brackets with
    | cons _ later => exact ih later
    | cons_cons _ closing =>
      have kept := (removeMatches_sublist tag rest).subset (List.singleton_sublist.1 closing)
      exact tag_eq_none_iff.1 clear kept

theorem head?_sanitized (text : String) :
    ∀ c ∈ (sanitized text).toList.head?, isBlank c = false := by
  rw [toList_sanitized, List.head?_take, if_neg (by decide)]
  exact head?_trim _

theorem compose_cases (request : Request) :
    (sanitized request.instruction = "" ∧ request.compose = .error .emptyInstruction) ∨
      sanitized request.instruction ≠ "" ∧ ∃ behind,
        request.compose = .ok (sanitized request.instruction ++ behind) := by
  by_cases empty : sanitized request.instruction = ""
  · refine .inl ⟨empty, ?_⟩
    rw [Request.compose, empty]
    rfl
  · have filled : ¬(sanitized request.instruction).isEmpty = true := by simpa using empty
    refine .inr ⟨empty, ?_⟩
    simp only [Request.compose, if_neg filled]
    by_cases described : (catalogSection request.catalog).isEmpty = true
    · exact ⟨"", by rw [if_pos described, String.append_empty]⟩
    · exact ⟨"\n\n" ++ catalogSection request.catalog, by rw [if_neg described, ← String.append_assoc]; rfl⟩

/-- What is left of any text is a sublist of it, at most 5000 characters long, without control characters
but for tabs, line feeds and carriage returns, without a blank at its beginning, and without an opening
bracket that a closing one follows. A request is refused exactly when nothing is left of its instruction,
and else its instruction for the model begins with what is left. -/
theorem sanitized_is_plain (text : String) :
    (sanitized text).toList.Sublist text.toList ∧ (sanitized text).length ≤ 5000 ∧
      (∀ c ∈ (sanitized text).toList, ¬(c.toNat ≤ 0x08 ∨ c.toNat = 0x0B ∨ c.toNat = 0x0C ∨
        (0x0E ≤ c.toNat ∧ c.toNat ≤ 0x1F) ∨ c.toNat = 0x7F)) ∧
      (∀ c ∈ (sanitized text).toList.head?, isBlank c = false) ∧
      ¬['<', '>'].Sublist (sanitized text).toList ∧
      ∀ request : Request, request.instruction = text →
        (request.compose = .error .emptyInstruction ↔ sanitized text = "") ∧
          (sanitized text ≠ "" → ∃ composed, request.compose = .ok composed ∧
            (sanitized text).toList <+: composed.toList) := by
  have filtered := sanitized_sublist_filter text
  refine ⟨filtered.trans List.filter_sublist, ?_, ?_, head?_sanitized text, ?_, ?_⟩
  · rw [← String.length_toList, toList_sanitized]
    exact List.length_take_le _ _
  · intro c member
    have shown := (List.mem_filter.1 (filtered.subset member)).2
    rw [← isControl_iff]
    simpa using shown
  · intro brackets
    exact tagless _ (brackets.trans (sanitized_sublist_withoutTags text))
  · rintro request rfl
    rcases compose_cases request with ⟨empty, refused⟩ | ⟨filled, behind, composed⟩
    · exact ⟨iff_of_true refused empty, fun filled => absurd empty filled⟩
    · refine ⟨iff_of_false (by rw [composed]; simp) filled, fun _ => ⟨_, composed, ?_⟩⟩
      rw [String.toList_append]
      exact List.prefix_append _ _

/-- A request whose instruction holds a bell, one tag inside another, and a tag in the middle. -/
def bracketedRequest : Request :=
  ⟨" \x07<<b>i>A <em>nice</em> card", .standard, .standard, [], none⟩

theorem bracketedRequest_sanitized_is_plain :
    sanitized bracketedRequest.instruction = "i>A nice card" ∧
      'A' ∈ (sanitized bracketedRequest.instruction).toList ∧
      ¬('A'.toNat ≤ 0x08 ∨ 'A'.toNat = 0x0B ∨ 'A'.toNat = 0x0C ∨
        (0x0E ≤ 'A'.toNat ∧ 'A'.toNat ≤ 0x1F) ∨ 'A'.toNat = 0x7F) ∧
      'i' ∈ (sanitized bracketedRequest.instruction).toList.head? ∧ isBlank 'i' = false ∧
      ¬['<', '>'].Sublist (sanitized bracketedRequest.instruction).toList ∧
      ∃ composed, bracketedRequest.compose = .ok composed ∧
        (sanitized bracketedRequest.instruction).toList <+: composed.toList := by
  have left : sanitized bracketedRequest.instruction = "i>A nice card" := by decide +kernel
  obtain ⟨_, _, shown, starts, untagged, composes⟩ :=
    sanitized_is_plain bracketedRequest.instruction
  have kept : 'A' ∈ (sanitized bracketedRequest.instruction).toList := by
    rw [left]
    decide
  have first : 'i' ∈ (sanitized bracketedRequest.instruction).toList.head? := by
    rw [left]
    rfl
  have filled : sanitized bracketedRequest.instruction ≠ "" := by
    rw [left]
    decide
  exact ⟨left, kept, shown 'A' kept, first, starts 'i' first, untagged,
    (composes bracketedRequest rfl).2 filled⟩

end ComponentGate.Prompt
