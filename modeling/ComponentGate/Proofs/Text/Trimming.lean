import Mathlib.Data.List.DropRight
import ComponentGate.Text.Blank

/-! Trimming. A text is its trimmed part between blanks, and blanks around a text do not change that part.
What begins or ends with no blank stays as it is when more text stands before or behind it. -/

namespace ComponentGate.Text

section Ends

variable {p : Char → Bool} {text rest : List Char}

theorem rdropWhile_append_of_forall (all : ∀ c ∈ rest, p c = true) :
    (text ++ rest).rdropWhile p = text.rdropWhile p := by
  have mirrored : ∀ c ∈ rest.reverse, p c = true := fun c member => all c (List.mem_reverse.1 member)
  rw [List.rdropWhile, List.reverse_append, List.dropWhile_append_of_pos mirrored]
  rfl

theorem rdropWhile_append_of_not_forall (kept : ¬∀ c ∈ rest, p c = true) :
    (text ++ rest).rdropWhile p = text ++ rest.rdropWhile p := by
  have mirrored : ¬(rest.reverse.dropWhile p).isEmpty = true := by
    rw [List.isEmpty_iff, List.dropWhile_eq_nil_iff]
    exact fun all => kept fun c member => all c (List.mem_reverse.2 member)
  rw [List.rdropWhile, List.reverse_append, List.dropWhile_append, if_neg mirrored,
    List.reverse_append, List.reverse_reverse]
  rfl

theorem rdropWhile_eq_self_iff_getLast? :
    text.rdropWhile p = text ↔ ∀ c ∈ text.getLast?, p c = false := by
  rcases text.eq_nil_or_concat' with rfl | ⟨front, c, rfl⟩
  · simp
  · simp [List.rdropWhile_eq_self_iff]

end Ends

variable {text rest lead trail : List Char}

/-- Texts of blanks alone. -/
def IsBlankText (text : List Char) : Prop := ∀ c ∈ text, isBlank c = true

theorem trimEnd_eq (text : List Char) : trimEnd text = text.rdropWhile isBlank := rfl

theorem trimStart_eq_nil_iff : trimStart text = [] ↔ IsBlankText text := List.dropWhile_eq_nil_iff

theorem trimEnd_eq_nil_iff : trimEnd text = [] ↔ IsBlankText text := List.rdropWhile_eq_nil_iff

theorem trimStart_eq_self_iff : trimStart text = text ↔ ∀ c ∈ text.head?, isBlank c = false := by
  cases text with
  | nil => simp [trimStart]
  | cons c rest => simp [trimStart, List.dropWhile_eq_self_iff]

theorem trimEnd_eq_self_iff : trimEnd text = text ↔ ∀ c ∈ text.getLast?, isBlank c = false :=
  rdropWhile_eq_self_iff_getLast?

theorem trimStart_blanks (blank : IsBlankText lead) : trimStart (lead ++ text) = trimStart text :=
  List.dropWhile_append_of_pos blank

theorem trimEnd_blanks (blank : IsBlankText trail) : trimEnd (text ++ trail) = trimEnd text :=
  rdropWhile_append_of_forall blank

theorem trimStart_append (shown : ¬IsBlankText text) :
    trimStart (text ++ rest) = trimStart text ++ rest := by
  rw [← trimStart_eq_nil_iff, trimStart, ← List.isEmpty_iff] at shown
  rw [trimStart, List.dropWhile_append, if_neg shown]
  rfl

theorem trimEnd_append (shown : ¬IsBlankText rest) : trimEnd (text ++ rest) = text ++ trimEnd rest :=
  rdropWhile_append_of_not_forall shown

theorem trimStart_before (kept : trimStart rest = rest) :
    trimStart (text ++ rest) = trimStart text ++ rest := by
  by_cases blank : IsBlankText text
  · rw [trimStart_blanks blank, trimStart_eq_nil_iff.2 blank, kept, List.nil_append]
  · exact trimStart_append blank

theorem trimEnd_behind (kept : trimEnd text = text) : trimEnd (text ++ rest) = text ++ trimEnd rest := by
  by_cases blank : IsBlankText rest
  · rw [trimEnd_blanks blank, trimEnd_eq_nil_iff.2 blank, kept, List.append_nil]
  · exact trimEnd_append blank

theorem trim_blanks (before : IsBlankText lead) (behind : IsBlankText trail) :
    trim (lead ++ (text ++ trail)) = trim text := by
  rw [trim, trim, trimStart_blanks before]
  by_cases blank : IsBlankText text
  · rw [trimStart_blanks blank, trimStart_eq_nil_iff.2 behind, trimStart_eq_nil_iff.2 blank]
  · rw [trimStart_append blank, trimEnd_blanks behind]

/-- A text is its trimmed part between blanks. -/
theorem exists_trim (text : List Char) :
    ∃ lead trail, IsBlankText lead ∧ IsBlankText trail ∧ text = lead ++ (trim text ++ trail) := by
  refine ⟨text.takeWhile isBlank, (trimStart text).rtakeWhile isBlank, ?_, ?_, ?_⟩
  · exact fun c member => List.mem_takeWhile_imp member
  · exact fun c member => List.mem_rtakeWhile_imp member
  · rw [trim, trimEnd_eq, List.rdropWhile_append_rtakeWhile, trimStart, List.takeWhile_append_dropWhile]

theorem trim_prefix_trimStart (text : List Char) : trim text <+: trimStart text := List.rdropWhile_prefix _ _

theorem trim_sublist (text : List Char) : (trim text).Sublist text :=
  (trim_prefix_trimStart text).sublist.trans (List.dropWhile_sublist _)

theorem head?_trim (text : List Char) : ∀ c ∈ (trim text).head?, isBlank c = false := by
  intro c begins
  obtain ⟨behind, parts⟩ := trim_prefix_trimStart text
  have kept : trimStart (trimStart text) = trimStart text := List.dropWhile_idempotent _ _
  refine trimStart_eq_self_iff.1 kept c ?_
  rw [← parts, List.head?_append, Option.mem_def.1 begins]
  rfl

theorem getLast?_trim (text : List Char) : ∀ c ∈ (trim text).getLast?, isBlank c = false :=
  trimEnd_eq_self_iff.1 (List.rdropWhile_idempotent _ _)

theorem lead_eq_nil_of_trim (begins : trim text = lead ++ rest) (blank : IsBlankText lead) :
    lead = [] := by
  cases lead with
  | nil => rfl
  | cons c lead =>
    have shown := head?_trim text c (by rw [begins]; rfl)
    exact absurd (blank c (List.mem_cons_self ..)) (Bool.eq_false_iff.1 shown)

theorem trail_eq_nil_of_trim (ends : trim text = rest ++ trail) (blank : IsBlankText trail) :
    trail = [] := by
  rcases trail.eq_nil_or_concat' with rfl | ⟨front, c, rfl⟩
  · rfl
  · have shown := getLast?_trim text c (by rw [ends, ← List.append_assoc, List.getLast?_concat]; rfl)
    exact absurd (blank c (List.mem_append_right front (List.mem_singleton_self c)))
      (Bool.eq_false_iff.1 shown)

theorem trim_trim (text : List Char) : trim (trim text) = trim text := by
  rw [trim, trimStart_eq_self_iff.2 (head?_trim text), trimEnd_eq_self_iff.2 (getLast?_trim text)]

/-- A part that neither begins nor ends with a blank stays as it is. -/
theorem trim_around {part : List Char} (filled : part ≠ [])
    (begins : ∀ c ∈ part.head?, isBlank c = false) (ends : ∀ c ∈ part.getLast?, isBlank c = false) :
    trim (lead ++ (part ++ trail)) = trimStart lead ++ (part ++ trimEnd trail) := by
  have keptStart : trimStart (part ++ trail) = part ++ trail := by
    rw [trimStart_eq_self_iff, List.head?_append_of_ne_nil part filled]
    exact begins
  have keptEnd : trimEnd (trimStart lead ++ part) = trimStart lead ++ part := by
    rw [trimEnd_eq_self_iff, List.getLast?_append_of_ne_nil _ filled]
    exact ends
  rw [trim, trimStart_before keptStart, ← List.append_assoc, trimEnd_behind keptEnd, List.append_assoc]

/-- What stands among the first characters of a trimmed text. -/
theorem infix_take_trim_iff {part : List Char} {limit : Nat} (filled : part ≠ [])
    (begins : ∀ c ∈ part.head?, isBlank c = false) (ends : ∀ c ∈ part.getLast?, isBlank c = false) :
    part <:+: (trim text).take limit ↔ ∃ before behind, text = before ++ (part ++ behind) ∧
      (trimStart before).length + part.length ≤ limit := by
  constructor
  · rintro ⟨before, behind, parts⟩
    have early : before ++ part <+: (trim text).take limit := ⟨behind, parts⟩
    obtain ⟨⟨more, whole⟩, short⟩ := List.prefix_take_iff.1 early
    obtain ⟨lead, trail, blank, _, rest⟩ := exists_trim text
    refine ⟨lead ++ before, more ++ trail, ?_, ?_⟩
    · rw [rest, ← whole]
      simp
    · rw [List.length_append] at short
      have shorter : (trimStart before).length ≤ before.length := (List.dropWhile_sublist _).length_le
      rw [trimStart_blanks blank]
      omega
  · rintro ⟨before, behind, rfl, short⟩
    rw [trim_around filled begins ends, ← List.append_assoc]
    have early : trimStart before ++ part <+:
        (trimStart before ++ part ++ trimEnd behind).take limit :=
      List.prefix_take_iff.2 ⟨List.prefix_append _ _, by rwa [List.length_append]⟩
    exact (List.suffix_append _ _).isInfix.trans early.isInfix

end ComponentGate.Text
