import ComponentGate.Proofs.Text.Trimming

/-! Evenly spaced texts: words with one space between each two. The words of any text make one when they are
put together again, and it stays one when it is cut off somewhere and trimmed. -/

namespace ComponentGate.Text

/-- Words without blanks in them, with one space between each two. -/
inductive Spaced : List Char → Prop where
  | last (shown : isBlank c = false) : Spaced [c]
  | inside (shown : isBlank c = false) (spaced : Spaced text) : Spaced (c :: text)
  | between (shown : isBlank c = false) (spaced : Spaced text) : Spaced (c :: ' ' :: text)

/-- Words in one text, with a space between each two. -/
def spread (words : List (List Char)) : List Char := [' '].intercalate words

variable {text : List Char}

section Words

variable {c next : Char} {rest word : List Char} {more : List (List Char)}

theorem words_of_end (shown : isBlank c = false) (blank : isBlank next = true) (rest : List Char) :
    words (c :: next :: rest) = [c] :: words rest := by
  simp [words, shown, blank]

theorem words_of_letter (shown : isBlank c = false) (letter : isBlank next = false)
    (behind : words (next :: rest) = word :: more) :
    words (c :: next :: rest) = (c :: word) :: more := by
  rw [words, if_neg (by simp [shown]), if_neg (by simp [letter]), behind]

end Words

theorem spread_cons_cons (c : Char) (word : List Char) (words : List (List Char)) :
    spread ((c :: word) :: words) = c :: spread (word :: words) := by
  cases words with
  | nil => simp [spread]
  | cons next words => simp [spread, List.intercalate_cons_cons]

theorem spread_letter_cons (c : Char) (next : List Char) (words : List (List Char)) :
    spread ([c] :: next :: words) = c :: ' ' :: spread (next :: words) := by
  simp [spread, List.intercalate_cons_cons]

theorem spaced_spread_words (text : List Char) : words text = [] ∨ Spaced (spread (words text)) := by
  fun_induction words text with
  | case1 => exact .inl rfl
  | case2 c rest blank ih => exact ih
  | case3 c shown => exact .inr (.last (by simpa using shown))
  | case4 c shown next rest blank ih =>
    have first : isBlank c = false := by simpa using shown
    right
    cases behind : words (next :: rest) with
    | nil => exact .last first
    | cons word more =>
      rw [spread_letter_cons]
      exact .between first (behind ▸ ih.resolve_left (by simp [behind]))
  | case5 c shown next rest letter alone ih =>
    right
    simp only [alone]
    exact .last (by simpa using shown)
  | case6 c shown next rest letter word more behind ih =>
    right
    simp only [behind]
    rw [spread_cons_cons]
    exact .inside (by simpa using shown) (behind ▸ ih.resolve_left (by simp [behind]))

namespace Spaced

theorem ne_nil (spaced : Spaced text) : text ≠ [] := by
  cases spaced <;> exact List.cons_ne_nil _ _

theorem head_shown (spaced : Spaced text) : ∀ c ∈ text.head?, isBlank c = false := by
  rintro c begins
  cases spaced with
  | last shown => exact Option.some.inj begins ▸ shown
  | inside shown _ => exact Option.some.inj begins ▸ shown
  | between shown _ => exact Option.some.inj begins ▸ shown

theorem shown_or_space (spaced : Spaced text) : ∀ c ∈ text, isBlank c = false ∨ c = ' ' := by
  induction spaced with
  | last shown => simp [shown]
  | inside shown _ ih => simpa [shown] using ih
  | between shown _ ih => simpa [shown] using ih

/-- An evenly spaced text is its words with spaces between them. -/
theorem spread_words (spaced : Spaced text) : spread (words text) = text := by
  induction spaced with
  | last shown => simp [words, shown, spread]
  | @inside c text shown spaced ih =>
    obtain ⟨next, rest, rfl⟩ := List.exists_cons_of_ne_nil spaced.ne_nil
    have letter : isBlank next = false := spaced.head_shown next rfl
    cases behind : words (next :: rest) with
    | nil => simp [behind, spread] at ih
    | cons word more =>
      rw [words_of_letter shown letter behind, spread_cons_cons, ← behind, ih]
  | @between c text shown spaced ih =>
    rw [words_of_end shown (by decide)]
    cases behind : words text with
    | nil => exact absurd (by rw [← ih, behind]; rfl) spaced.ne_nil
    | cons word more => rw [spread_letter_cons, ← behind, ih]

theorem map {f : Char → Char} (spaced : Spaced text) (kept : ∀ c, isBlank (f c) = isBlank c)
    (space : f ' ' = ' ') : Spaced (text.map f) := by
  induction spaced with
  | last shown => exact .last ((kept _).trans shown)
  | inside shown _ ih => exact .inside ((kept _).trans shown) ih
  | between shown _ ih =>
    rw [List.map_cons, List.map_cons, space]
    exact .between ((kept _).trans shown) ih

theorem trimEnd_cons {c : Char} (shown : isBlank c = false) (text : List Char) :
    trimEnd (c :: text) = c :: trimEnd text := by
  have kept : trimEnd [c] = [c] := by simp [trimEnd, shown]
  exact trimEnd_behind kept

theorem trimEnd_space_cons (shown : ¬IsBlankText text) : trimEnd (' ' :: text) = ' ' :: trimEnd text := by
  rw [← List.singleton_append, trimEnd_append shown, List.singleton_append]

theorem not_isBlankText (spaced : Spaced text) : ¬IsBlankText text := by
  intro blank
  obtain ⟨c, rest, rfl⟩ := List.exists_cons_of_ne_nil spaced.ne_nil
  exact absurd (blank c List.mem_cons_self) (by simp [spaced.head_shown c rfl])

theorem trimStart_take (spaced : Spaced text) (count : Nat) :
    trimStart (text.take count) = text.take count := by
  rw [trimStart_eq_self_iff, List.head?_take]
  split_ifs
  · simp
  · exact spaced.head_shown

/-- An evenly spaced text has no blanks at its ends. -/
theorem trim_eq_self (spaced : Spaced text) : trim text = text := by
  rw [trim, trimStart_eq_self_iff.2 spaced.head_shown]
  induction spaced with
  | last shown => exact trimEnd_cons shown []
  | inside shown _ ih => rw [trimEnd_cons shown, ih]
  | between shown spaced ih => rw [trimEnd_cons shown, trimEnd_space_cons spaced.not_isBlankText, ih]

/-- The first characters of an evenly spaced text end in at most one space. -/
theorem trimEnd_take (spaced : Spaced text) (count : Nat) :
    trimEnd (text.take count) = [] ∨ Spaced (trimEnd (text.take count)) := by
  induction spaced generalizing count with
  | last shown =>
    cases count with
    | zero => exact .inl rfl
    | succ count =>
      rw [List.take_succ_cons, trimEnd_cons shown, List.take_nil]
      exact .inr (.last shown)
  | inside shown _ ih =>
    cases count with
    | zero => exact .inl rfl
    | succ count =>
      rw [List.take_succ_cons, trimEnd_cons shown]
      rcases ih count with none | spaced
      · exact .inr (none ▸ .last shown)
      · exact .inr (.inside shown spaced)
  | @between c text shown spaced ih =>
    cases count with
    | zero => exact .inl rfl
    | succ count =>
      rw [List.take_succ_cons, trimEnd_cons shown]
      cases count with
      | zero => exact .inr (.last shown)
      | succ count =>
        rw [List.take_succ_cons]
        by_cases blank : IsBlankText (text.take count)
        · have gone : trimEnd (' ' :: text.take count) = [] := by
            rw [trimEnd_eq_nil_iff]
            exact List.forall_mem_cons.2 ⟨by decide, blank⟩
          rw [gone]
          exact .inr (.last shown)
        · rw [trimEnd_space_cons blank]
          refine .inr (.between shown ((ih count).resolve_left ?_))
          rwa [trimEnd_eq_nil_iff]

theorem trim_take (spaced : Spaced text) (count : Nat) :
    trim (text.take count) = [] ∨ Spaced (trim (text.take count)) := by
  rw [trim, spaced.trimStart_take]
  exact spaced.trimEnd_take count

end Spaced

end ComponentGate.Text
