import Mathlib
import ComponentGate.Prompt.Instruction
import ComponentGate.Proofs.Text.Removal

/-! Entities and script schemes as the words that are taken out. Each begins and ends with characters that
it has nowhere else, and the characters at the ends of one kind do not occur in the other. -/

namespace ComponentGate.Prompt

open Text

/-- An ampersand, some letters, digits or number signs, and a semicolon. -/
def IsEntity (text : List Char) : Prop :=
  ∃ name, name ≠ [] ∧ (∀ c ∈ name, isEntityCharacter c = true) ∧ text = '&' :: (name ++ [';'])

/-- The letters of the scheme in any case, blanks, and a colon. -/
def IsScriptScheme (text : List Char) : Prop :=
  ∃ word blanks, word.map folded = "javascript".toList ∧ (∀ c ∈ blanks, isBlank c = true) ∧
    text = word ++ (blanks ++ [':'])

variable {text rest found : List Char} {count : Nat}

theorem entity_of_isEntity (rest : List Char) (isEntity : IsEntity found) :
    entity (found ++ rest) = some found.length := by
  obtain ⟨name, filled, areLetters, rfl⟩ := isEntity
  have parts : '&' :: (name ++ [';']) ++ rest = '&' :: (name ++ ';' :: rest) := by simp
  have run : (name ++ ';' :: rest).takeWhile isEntityCharacter = name := takeWhile_run areLetters rfl
  rw [parts, entity, run, List.drop_left]
  simp [filled]

theorem isEntity_of_entity (matched : entity text = some count) :
    ∃ found rest, text = found ++ rest ∧ IsEntity found ∧ count = found.length := by
  unfold entity at matched
  split at matched
  · rename_i rest
    simp only [Option.ite_none_right_eq_some, Bool.and_eq_true, Bool.not_eq_true',
      beq_iff_eq, Option.some.injEq] at matched
    obtain ⟨⟨filled, ends⟩, rfl⟩ := matched
    obtain ⟨more, parts⟩ := exists_behind_run ends
    refine ⟨'&' :: (rest.takeWhile isEntityCharacter ++ [';']), more, ?_, ⟨_, ?_, ?_, rfl⟩, by simp⟩
    · simpa using parts
    · simpa using filled
    · exact fun c member => List.mem_takeWhile_imp member
  · cases matched

theorem IsEntity.framed (isEntity : IsEntity found) : Framed (· = '&') ';' found := by
  obtain ⟨name, _, areLetters, rfl⟩ := isEntity
  refine ⟨'&', name, rfl, rfl, by decide, fun c member => ⟨?_, ?_⟩⟩ <;>
    · rintro rfl
      exact absurd (areLetters _ member) (by decide)

theorem IsEntity.colon_notMem (isEntity : IsEntity found) : ':' ∉ found := by
  obtain ⟨name, _, areLetters, rfl⟩ := isEntity
  intro member
  simp only [List.mem_cons, List.mem_append, List.not_mem_nil, Char.reduceEq, or_false, false_or]
    at member
  exact absurd (areLetters _ member) (by decide)

theorem recognizes_entity : Recognizes entity IsEntity where
  toSeparate := separate_of_framed IsEntity.framed (by decide)
  matches_of rest isEntity := entity_of_isEntity rest isEntity
  of_matches := isEntity_of_entity

theorem scriptScheme_of_isScriptScheme (rest : List Char) (isScheme : IsScriptScheme found) :
    scriptScheme (found ++ rest) = some found.length := by
  obtain ⟨word, blanks, letters, areBlanks, rfl⟩ := isScheme
  have long : word.length = "javascript".length := by
    have sizes := congrArg List.length letters
    rwa [List.length_map] at sizes
  have parts : word ++ (blanks ++ [':']) ++ rest = word ++ (blanks ++ ':' :: rest) := by simp
  have run : (blanks ++ ':' :: rest).takeWhile isBlank = blanks := takeWhile_run areBlanks rfl
  have begins : beginsWithWord "javascript" (word ++ (blanks ++ ':' :: rest)) = true := by
    rw [beginsWithWord, ← long, List.take_left, letters, beq_self_eq_true]
  have ends : (word ++ (blanks ++ ':' :: rest)).drop (word.length + blanks.length) = ':' :: rest := by
    rw [← List.drop_drop, List.drop_left, List.drop_left]
  rw [parts, scriptScheme, begins]
  simp only [← long, List.drop_left, run, ends]
  simp [Nat.add_assoc]

theorem isScriptScheme_of_scriptScheme (matched : scriptScheme text = some count) :
    ∃ found rest, text = found ++ rest ∧ IsScriptScheme found ∧ count = found.length := by
  simp only [scriptScheme, Option.ite_none_left_eq_some, Option.ite_none_right_eq_some,
    Bool.not_eq_true', Bool.not_eq_false, beq_iff_eq, Option.some.injEq] at matched
  obtain ⟨begins, ends, rfl⟩ := matched
  rw [← List.drop_drop] at ends
  obtain ⟨more, parts⟩ := exists_behind_run ends
  rw [beginsWithWord, beq_iff_eq] at begins
  have long : (text.take "javascript".length).length = "javascript".length := by
    have sizes := congrArg List.length begins
    rwa [List.length_map] at sizes
  refine ⟨text.take "javascript".length ++
    ((text.drop "javascript".length).takeWhile isBlank ++ [':']), more, ?_,
    ⟨_, _, begins, fun c member => List.mem_takeWhile_imp member, rfl⟩, ?_⟩
  · conv =>
      lhs
      rw [← List.take_append_drop "javascript".length text, parts]
    simp
  · rw [List.length_append, long]
    simp [Nat.add_assoc]

theorem folded_of_isBlank {c : Char} (blank : isBlank c = true) : folded c = c := by
  have wide : c ≠ 'ſ' ∧ c ≠ 'İ' ∧ c ≠ 'ı' := by
    refine ⟨?_, ?_, ?_⟩ <;>
      · rintro rfl
        exact absurd blank (by decide)
  have plain : ¬c.isUpper = true := by
    have bounds : c.isUpper = true ↔ 65 ≤ c.toNat ∧ c.toNat ≤ 90 := by
      simp [Char.isUpper, UInt32.le_iff_toNat_le]
    simp only [isBlank, Bool.or_eq_true, Bool.and_eq_true, decide_eq_true_eq, beq_iff_eq] at blank
    rw [bounds]
    omega
  rw [folded, if_neg wide.1, if_neg (not_or.2 wide.2), Char.toLower_eq_of_not_isUpper plain]

/-- A character of a script scheme is a letter of its word, a blank, or the colon. -/
theorem IsScriptScheme.mem_cases {c : Char} (isScheme : IsScriptScheme found) (member : c ∈ found) :
    folded c ∈ "javascript".toList ∨ isBlank c = true ∨ c = ':' := by
  obtain ⟨word, blanks, letters, areBlanks, rfl⟩ := isScheme
  rcases List.mem_append.1 member with letter | behind
  · rw [← letters]
    exact .inl (List.mem_map_of_mem letter)
  · rcases List.mem_append.1 behind with blank | last
    · exact .inr (.inl (areBlanks c blank))
    · exact .inr (.inr (List.mem_singleton.1 last))

theorem IsScriptScheme.ampersand_notMem (isScheme : IsScriptScheme found) : '&' ∉ found := fun member =>
  absurd (isScheme.mem_cases member) (by decide +kernel)

theorem IsScriptScheme.semicolon_notMem (isScheme : IsScriptScheme found) : ';' ∉ found := fun member =>
  absurd (isScheme.mem_cases member) (by decide +kernel)

theorem IsScriptScheme.framed (isScheme : IsScriptScheme found) :
    Framed (fun c => folded c = 'j') ':' found := by
  obtain ⟨word, blanks, letters, areBlanks, rfl⟩ := isScheme
  have spelled : "javascript".toList = 'j' :: "avascript".toList := by decide
  rw [spelled] at letters
  obtain ⟨first, others, rfl, starts, follow⟩ := List.map_eq_cons_iff.1 letters
  refine ⟨first, others ++ blanks, by simp, starts, ?_, fun c member => ?_⟩
  · rintro rfl
    exact absurd starts (by decide)
  · rcases List.mem_append.1 member with letter | blank
    · have listed : folded c ∈ "avascript".toList := follow ▸ List.mem_map_of_mem letter
      constructor
      · intro begins
        rw [begins] at listed
        exact absurd listed (by decide)
      · rintro rfl
        exact absurd listed (by decide)
    · have isBlank := areBlanks c blank
      have same := folded_of_isBlank isBlank
      constructor
      · intro begins
        rw [← same, begins] at isBlank
        exact absurd isBlank (by decide)
      · rintro rfl
        exact absurd isBlank (by decide)

theorem recognizes_scriptScheme : Recognizes scriptScheme IsScriptScheme where
  toSeparate := separate_of_framed IsScriptScheme.framed (by decide)
  matches_of rest isScheme := scriptScheme_of_isScriptScheme rest isScheme
  of_matches := isScriptScheme_of_scriptScheme

end ComponentGate.Prompt
