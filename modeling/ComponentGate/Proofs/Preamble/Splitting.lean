import ComponentGate.Preamble.Basic

/-! Where a preamble ends depends on the preamble alone, so another body can be put behind it. -/

namespace ComponentGate.Preamble

/-- How a text is cut at its first closing line, with `body` behind it. -/
inductive Cut (body : List Char) : List Char → List Char → Prop where
  | here : Cut body (closing ++ body) []
  | later {c : Char} {rest content : List Char} (unclosed : ¬closing.isPrefixOf (c :: rest) = true)
      (cut : Cut body rest content) : Cut body (c :: rest) (c :: content)

section Cuts

variable {c : Char} {source rest content body : List Char}

theorem untilClosing_closing_append (body : List Char) :
    untilClosing (closing ++ body) = some ([], body) := by
  have starts : closing.isPrefixOf (closing ++ body) = true :=
    List.isPrefixOf_iff_prefix.2 (List.prefix_append _ _)
  have parts : closing ++ body = '\n' :: ("---\n".toList ++ body) := rfl
  rw [parts, untilClosing, ← parts, if_pos starts, List.drop_left]

theorem untilClosing_cons (unclosed : ¬closing.isPrefixOf (c :: rest) = true) :
    untilClosing (c :: rest) =
      (untilClosing rest).map fun (content, body) => (c :: content, body) := by
  rw [untilClosing, if_neg unclosed]

theorem untilClosing_eq_some_iff :
    untilClosing source = some (content, body) ↔ Cut body source content := by
  constructor
  · intro found
    induction source generalizing content with
    | nil => cases found
    | cons c rest ih =>
      by_cases closes : closing.isPrefixOf (c :: rest) = true
      · obtain ⟨tail, whole⟩ := List.isPrefixOf_iff_prefix.1 closes
        rw [← whole] at found ⊢
        rw [untilClosing_closing_append, Option.some.injEq, Prod.mk.injEq] at found
        obtain ⟨rfl, rfl⟩ := found
        exact .here
      · rw [untilClosing_cons closes] at found
        obtain ⟨⟨inner, after⟩, later, same⟩ := Option.map_eq_some_iff.1 found
        obtain ⟨rfl, rfl⟩ := Prod.mk.inj same
        exact .later closes (ih later)
  · intro cut
    induction cut with
    | here => exact untilClosing_closing_append body
    | later unclosed _ ih =>
      rw [untilClosing_cons unclosed, ih]
      rfl

theorem Cut.source_eq (cut : Cut body source content) : source = content ++ closing ++ body := by
  induction cut with
  | here => rfl
  | later _ _ ih => rw [ih, List.cons_append, List.cons_append]

/-- A closing line in front of some text is one in front of any other text. -/
theorem isPrefixOf_closing_append (front first second : List Char)
    (room : closing.length ≤ front.length) :
    closing.isPrefixOf (front ++ first) = closing.isPrefixOf (front ++ second) := by
  rw [Bool.eq_iff_iff, List.isPrefixOf_iff_prefix, List.isPrefixOf_iff_prefix,
    List.prefix_iff_eq_take, List.prefix_iff_eq_take, List.take_append_of_le_length room,
    List.take_append_of_le_length room]

/-- The first closing line is the same whatever stands behind it. -/
theorem Cut.with_body (cut : Cut body source content) (other : List Char) :
    Cut other (content ++ closing ++ other) content := by
  induction cut with
  | here => exact .here
  | @later c rest content unclosed cut ih =>
    refine .later (fun closes => unclosed ?_) ih
    have room : closing.length ≤ (c :: content ++ closing).length := by
      simp only [List.length_append]
      omega
    rw [cut.source_eq]
    exact (isPrefixOf_closing_append (c :: content ++ closing) body other room).trans closes

end Cuts

theorem find?_opening_append (text : List Char) : find? (opening ++ text) = untilClosing text := by
  rw [find?, if_pos (List.isPrefixOf_iff_prefix.2 (List.prefix_append _ _)), List.drop_left]

theorem find?_eq_some_iff {source content body : List Char} :
    find? source = some (content, body) ↔ ∃ text, source = opening ++ text ∧ Cut body text content := by
  constructor
  · intro found
    by_cases opens : opening.isPrefixOf source = true
    · obtain ⟨text, rfl⟩ := List.isPrefixOf_iff_prefix.1 opens
      rw [find?_opening_append] at found
      exact ⟨text, rfl, untilClosing_eq_some_iff.1 found⟩
    · rw [find?, if_neg opens] at found
      cases found
  · rintro ⟨text, rfl, cut⟩
    rw [find?_opening_append]
    exact untilClosing_eq_some_iff.2 cut

theorem eq_of_find {source content body : List Char} (found : find? source = some (content, body)) :
    source = opening ++ content ++ closing ++ body := by
  obtain ⟨text, rfl, cut⟩ := find?_eq_some_iff.1 found
  rw [cut.source_eq]
  simp only [List.append_assoc]

theorem find_attach {source content body : List Char} (found : find? source = some (content, body))
    (other : List Char) :
    find? (opening ++ content ++ closing ++ other) = some (content, other) := by
  obtain ⟨text, -, cut⟩ := find?_eq_some_iff.1 found
  refine find?_eq_some_iff.2 ⟨content ++ closing ++ other, ?_, cut.with_body other⟩
  simp only [List.append_assoc]

/-- A source with a preamble keeps it, whatever its body becomes. -/
theorem split_attach {source : String} (present : has source = true) (body : String) :
    split (attach (split source).preamble body) = ⟨(split source).preamble, body⟩ := by
  obtain ⟨⟨content, rest⟩, found⟩ := Option.isSome_iff_exists.1 present
  have preamble : (split source).preamble = String.ofList (opening ++ content ++ closing) := by
    rw [split, found]
  have again : find? (attach (String.ofList (opening ++ content ++ closing)) body).toList =
      some (content, body.toList) := by
    rw [attach, String.toList_append, String.toList_ofList]
    exact find_attach found body.toList
  rw [preamble, split, again]
  simp

/-- A source without a preamble is all body. -/
theorem split_of_not_has {source : String} (absent : has source = false) :
    split source = ⟨"", source⟩ := by
  have none : find? source.toList = Option.none := by simpa [has] using absent
  rw [split, none]

/-- What is cut off and what is left are the whole source. -/
theorem preamble_append_body (source : String) :
    (split source).preamble ++ (split source).body = source := by
  rw [split]
  cases found : find? source.toList with
  | none => simp
  | some parts =>
    obtain ⟨content, body⟩ := parts
    have whole : source.toList = opening ++ content ++ closing ++ body := eq_of_find found
    dsimp only
    rw [← String.ofList_append, ← whole, String.ofList_toList]

theorem has_eq_false_iff (source : String) : has source = false ↔ (split source).preamble = "" := by
  rw [has, split]
  cases find? source.toList with
  | none => simp
  | some parts =>
    obtain ⟨content, body⟩ := parts
    simp [opening]

end ComponentGate.Preamble
