import ComponentGate.Proofs.Prompt.Plainness
import ComponentGate.Proofs.Prompt.References

/-! Spliced references. Entities and then script schemes are taken out in one reading each, and what a
reading brings together is not looked at again: an entity or a script scheme is left exactly where others
stood between its characters. -/

namespace ComponentGate.Prompt

open Text

/-- An entity or a script scheme with others between its characters: script schemes that stand there once
the entities are taken out, and entities anywhere. A scheme has one that is not an entity. -/
inductive Spliced : (word text : List Char) → Prop where
  | entity (isEntity : IsEntity word) (schemes : Laced IsScriptScheme word spelled)
      (entities : Laced IsEntity spelled text) (altered : text ≠ word) : Spliced word text
  | scheme (isScheme : IsScriptScheme word) (schemes : Laced IsScriptScheme word spelled)
      (altered : spelled ≠ word) (entities : Laced IsEntity spelled text) : Spliced word text

variable {text word spelled before behind : List Char}

theorem IsEntity.not_isScriptScheme (isEntity : IsEntity word) : ¬IsScriptScheme word := fun isScheme =>
  isEntity.colon_notMem (List.mem_of_getLast? isScheme.framed.getLast?_eq)

section Sheltered

theorem IsEntity.sheltered_from_schemes (isEntity : IsEntity word) : Sheltered IsScriptScheme word :=
  sheltered_of_foreign IsScriptScheme.framed isEntity.framed.getLast?_eq
    IsScriptScheme.semicolon_notMem isEntity.colon_notMem

theorem IsScriptScheme.sheltered_from_schemes (isScheme : IsScriptScheme word) :
    Sheltered IsScriptScheme word :=
  isScheme.framed.sheltered IsScriptScheme.framed (by decide)

theorem IsEntity.sheltered_from_entities (isEntity : IsEntity word)
    (schemes : Laced IsScriptScheme word spelled) : Sheltered IsEntity spelled := by
  refine (schemes.framed isEntity.framed fun isScheme member => ⟨?_, ?_⟩).sheltered IsEntity.framed
    (by decide)
  · rintro rfl
    exact isScheme.ampersand_notMem member
  · rintro rfl
    exact isScheme.semicolon_notMem member

theorem IsScriptScheme.sheltered_from_entities (isScheme : IsScriptScheme word)
    (schemes : Laced IsScriptScheme word spelled) : Sheltered IsEntity spelled := by
  have foreign := isScheme.semicolon_notMem
  obtain ⟨first, inner, rfl, _⟩ := isScheme.framed
  have laced : Laced IsScriptScheme (first :: inner ++ [':']) spelled := schemes
  obtain ⟨wider, rfl, members⟩ := laced.exists_inner
  refine sheltered_of_foreign IsEntity.framed List.getLast?_concat IsEntity.colon_notMem fun member => ?_
  rcases List.mem_append.1 member with inside | last
  · rcases members _ inside with own | ⟨found, isFound, within⟩
    · exact foreign (List.mem_append_left [':'] own)
    · exact isFound.semicolon_notMem within
  · exact absurd (List.mem_singleton.1 last) (by decide)

end Sheltered

theorem removes_entity (text : List Char) : Removes IsEntity text (removeMatches entity text) :=
  recognizes_entity.removes text

theorem removes_scriptScheme (text : List Char) :
    Removes IsScriptScheme text (removeMatches scriptScheme text) :=
  recognizes_scriptScheme.removes text

theorem withoutReferences_laced {between : List Char} (fromEntities : Sheltered IsEntity spelled)
    (entities : Laced IsEntity spelled between) (parted : IsEntity spelled → between ≠ spelled)
    (fromSchemes : Sheltered IsScriptScheme word) (schemes : Laced IsScriptScheme word spelled)
    (altered : IsScriptScheme word → spelled ≠ word) :
    withoutReferences (before ++ (between ++ behind)) =
      withoutReferences before ++ (word ++ withoutReferences behind) := by
  have first := recognizes_entity.removeMatches_eq <|
    fromEntities.removes recognizes_entity.toSeparate entities parted (removes_entity before)
      (removes_entity behind)
  have second := recognizes_scriptScheme.removeMatches_eq <|
    fromSchemes.removes recognizes_scriptScheme.toSeparate schemes altered
      (removes_scriptScheme (removeMatches entity before))
      (removes_scriptScheme (removeMatches entity behind))
  rw [withoutReferences, first, second]
  rfl

/-- A spliced word is left. -/
theorem Spliced.left {between : List Char} (spliced : Spliced word between) :
    withoutReferences (before ++ (between ++ behind)) =
      withoutReferences before ++ (word ++ withoutReferences behind) := by
  cases spliced with
  | entity isEntity schemes entities altered =>
    refine withoutReferences_laced (isEntity.sheltered_from_entities schemes) entities ?_
      isEntity.sheltered_from_schemes schemes fun isScheme => absurd isScheme isEntity.not_isScriptScheme
    intro isOther
    rcases schemes.eq_or_exists_part with rfl | ⟨found, isScheme, within⟩
    · exact altered
    · have colon := List.mem_of_getLast? isScheme.framed.getLast?_eq
      exact absurd (within colon) isOther.colon_notMem
  | scheme isScheme schemes altered entities =>
    refine withoutReferences_laced (isScheme.sheltered_from_entities schemes) entities ?_
      isScheme.sheltered_from_schemes schemes fun _ => altered
    have colon := List.mem_of_getLast? isScheme.framed.getLast?_eq
    exact fun isOther => absurd (schemes.sublist.subset colon) isOther.colon_notMem

/-- What is left was spliced. -/
theorem exists_spliced (isReference : IsEntity word ∨ IsScriptScheme word)
    (parts : withoutReferences text = before ++ (word ++ behind)) :
    ∃ front between rest, text = front ++ (between ++ rest) ∧ Spliced word between ∧
      withoutReferences front = before := by
  have filled : word ≠ [] := isReference.elim recognizes_entity.filled recognizes_scriptScheme.filled
  obtain ⟨front, spelled, rest, laced, schemes, frontLeft, restLeft⟩ :=
    (removes_scriptScheme (removeMatches entity text)).exists_laced parts filled
  have spelt : spelled ≠ [] := fun nothing => filled (List.sublist_nil.1 (nothing ▸ schemes.sublist))
  obtain ⟨first, between, last, rfl, entities, firstLeft, lastLeft⟩ :=
    (removes_entity text).exists_laced laced spelt
  refine ⟨first, between, last, rfl, ?_, ?_⟩
  · rcases isReference with isEntity | isScheme
    · refine .entity isEntity schemes entities ?_
      rintro rfl
      exact spelt (recognizes_entity.eq_nil_of_part isEntity firstLeft lastLeft laced)
    · refine .scheme isScheme schemes ?_ entities
      rintro rfl
      rw [withoutReferences, laced] at parts
      exact filled (recognizes_scriptScheme.eq_nil_of_part isScheme frontLeft restLeft parts)
  · rw [withoutReferences, recognizes_entity.removeMatches_eq firstLeft,
      recognizes_scriptScheme.removeMatches_eq frontLeft]

theorem Spliced.isReference (spliced : Spliced word text) : IsEntity word ∨ IsScriptScheme word := by
  cases spliced with
  | entity isEntity => exact .inl isEntity
  | scheme isScheme => exact .inr isScheme

theorem head?_of_isReference (isReference : IsEntity word ∨ IsScriptScheme word) :
    ∀ c ∈ word.head?, isBlank c = false := by
  rintro c begins
  rcases isReference with isEntity | isScheme
  · obtain ⟨_, _, rfl, rfl, _⟩ := isEntity.framed
    cases begins
    rfl
  · obtain ⟨first, _, rfl, starts, _⟩ := isScheme.framed
    obtain rfl : first = c := Option.some.inj begins
    rw [← Bool.not_eq_true]
    intro blank
    have same : first = 'j' := (folded_of_isBlank blank).symm.trans starts
    rw [same] at blank
    exact absurd blank (by decide)

theorem getLast?_of_isReference (isReference : IsEntity word ∨ IsScriptScheme word) :
    ∀ c ∈ word.getLast?, isBlank c = false := by
  rintro c ends
  rcases isReference with isEntity | isScheme
  · rw [isEntity.framed.getLast?_eq] at ends
    cases ends
    rfl
  · rw [isScheme.framed.getLast?_eq] at ends
    cases ends
    rfl

/-- An entity or a script scheme is left where one was spliced that ends among the characters kept. -/
theorem infix_sanitized_iff {text : String} (isReference : IsEntity word ∨ IsScriptScheme word) :
    word <:+: (sanitized text).toList ↔
      ∃ before between behind, withoutTags text = before ++ (between ++ behind) ∧
        Spliced word between ∧
          (trimStart (withoutReferences before)).length + word.length ≤ instructionLimit := by
  have filled : word ≠ [] := isReference.elim recognizes_entity.filled recognizes_scriptScheme.filled
  rw [toList_sanitized, infix_take_trim_iff filled (head?_of_isReference isReference)
    (getLast?_of_isReference isReference)]
  constructor
  · rintro ⟨before, behind, parts, short⟩
    obtain ⟨front, between, rest, whole, spliced, rfl⟩ := exists_spliced isReference parts
    exact ⟨front, between, rest, whole, spliced, short⟩
  · rintro ⟨before, between, behind, whole, spliced, short⟩
    exact ⟨withoutReferences before, withoutReferences behind, whole ▸ spliced.left, short⟩

/-- What is left of a text has no entity and no script scheme exactly when no other ones stand between the
characters of one once control characters, script blocks and tags are out, except where it then ends behind
the last character that is kept. -/
theorem sanitized_clear_iff (text : String) :
    (∀ part, part <:+: (sanitized text).toList → ¬IsEntity part ∧ ¬IsScriptScheme part) ↔
      ∀ before between behind word, withoutTags text = before ++ (between ++ behind) →
        Spliced word between →
          instructionLimit < (trimStart (withoutReferences before)).length + word.length := by
  constructor
  · intro clear before between behind word whole spliced
    by_contra short
    have stands := (infix_sanitized_iff spliced.isReference).2
      ⟨before, between, behind, whole, spliced, not_lt.1 short⟩
    obtain ⟨notEntity, notScheme⟩ := clear word stands
    exact spliced.isReference.elim notEntity notScheme
  · intro late part stands
    rw [← not_or]
    intro isReference
    obtain ⟨before, between, behind, whole, spliced, short⟩ := (infix_sanitized_iff isReference).1 stands
    exact absurd (late before between behind part whole spliced) (not_lt.2 short)

/-- An entity that stands inside another one leaves one, and so does a script scheme in a scheme. -/
theorem nested_references_left :
    (∃ part, part <:+: (sanitized "&am&amp;p;").toList ∧ IsEntity part) ∧
      ∃ part, part <:+: (sanitized "javajavascript:script:").toList ∧ IsScriptScheme part := by
  have entityLeft : sanitized "&am&amp;p;" = "&amp;" := by decide +kernel
  have schemeLeft : sanitized "javajavascript:script:" = "javascript:" := by decide +kernel
  rw [entityLeft, schemeLeft]
  exact ⟨⟨_, List.infix_refl _, ['a', 'm', 'p'], by simp, by simp [isEntityCharacter], rfl⟩,
    _, List.infix_refl _, "javascript".toList, [], by decide, by simp, by decide⟩

end ComponentGate.Prompt
