import ComponentGate.Proofs.Review.Caution
import ComponentGate.Syntax.Parse
import Mathlib.Data.List.Perm.Basic

/-! Independence of rules. The standard rules share nothing but labels, and only the rule on form controls
has anything to do with these: what it says on the condition of a label hangs on labels that it has seen
itself. So a list of rules finds what its rules find one by one. -/

namespace ComponentGate

open Syntax

section Linking

variable {document : Document} {policy : Policy} {rules others : List Rule}

/-- A standard rule other than the one on form controls has a message or none. -/
theorem exists_ofMessage {rule : Rule} (member : rule ∈ Rule.standard)
    (other : rule ≠ Rule.formControlLabel) (place : Place) :
    ∃ message?, rule.verdict document policy place = .ofMessage? message? := by
  rw [Rule.standard_eq, List.mem_append] at member
  rcases member with charged | cautioned
  · obtain ⟨entry, listed, rfl⟩ := List.mem_map.1 charged
    exact ⟨_, verdict_charge listed⟩
  · obtain ⟨entry, listed, rfl⟩ := List.mem_map.1 cautioned
    simp only [Rule.cautions, List.mem_cons, List.not_mem_nil, or_false] at listed
    rcases listed with rfl | rfl | rfl | rfl | rfl
    · exact ⟨_, verdict_storage⟩
    · exact ⟨_, verdict_bypass⟩
    · rw [verdict_clickable]
      cases (document.caution place).element with
      | none => exact ⟨none, rfl⟩
      | some element => exact ⟨element.clickable?, rfl⟩
    · rw [verdict_picture]
      cases (document.caution place).element with
      | none => exact ⟨none, rfl⟩
      | some element => exact ⟨element.picture?, rfl⟩
    · exact absurd rfl other

/-- A judgement that waits for a label or is one is the rule's on form controls. -/
theorem rule_of_linked (builtIn : ∀ rule ∈ rules, rule ∈ Rule.standard) {judgement : Judgement}
    (judged : judgement ∈ judgements document policy rules)
    (linked : judgement.waiting? ≠ none ∨ judgement.labelled? ≠ none) :
    judgement.rule = Rule.formControlLabel := by
  obtain ⟨place, -, rule, listed, inspected, rfl⟩ := mem_judgements_iff.1 judged
  by_contra other
  obtain ⟨message?, said⟩ := @exists_ofMessage document policy _ (builtIn rule listed) other place
  rw [Rule.verdict, if_pos inspected] at said
  rw [said] at linked
  obtain ⟨-, waiting, labelled⟩ := judgement_ofMessage rule place.tree.line message?
  rcases linked with waits | labels
  · exact waits waiting
  · exact labels labelled

/-- Rules that wait for a label see every label that other rules see. -/
theorem labels_subset (builtIn : ∀ rule ∈ rules ++ others, rule ∈ Rule.standard)
    {entry : String × Finding}
    (waits : entry ∈ (judgements document policy rules).filterMap Judgement.waiting?) :
    (judgements document policy others).filterMap Judgement.labelled? ⊆
      (judgements document policy rules).filterMap Judgement.labelled? := by
  intro target labels
  obtain ⟨waiting, judged, found⟩ := List.mem_filterMap.1 waits
  obtain ⟨label, judged', named⟩ := List.mem_filterMap.1 labels
  rw [List.forall_mem_append] at builtIn
  have same := rule_of_linked builtIn.1 judged (.inl (by simp [found]))
  have same' := rule_of_linked builtIn.2 judged' (.inr (by simp [named]))
  obtain ⟨_, _, rule, listed, _, rfl⟩ := mem_judgements_iff.1 judged
  obtain ⟨place, visited, rule', _, inspected, rfl⟩ := mem_judgements_iff.1 judged'
  obtain rfl : rule = Rule.formControlLabel := same
  obtain rfl : rule' = Rule.formControlLabel := same'
  exact List.mem_filterMap.2
    ⟨_, mem_judgements_iff.2 ⟨place, visited, _, listed, inspected, rfl⟩, named⟩

theorem judgements_append_perm :
    (judgements document policy (rules ++ others)).Perm
      (judgements document policy rules ++ judgements document policy others) := by
  have split : judgementsAt document policy (rules ++ others) = fun place =>
      judgementsAt document policy rules place ++ judgementsAt document policy others place := by
    funext place
    rw [judgementsAt, List.filter_append, List.map_append, judgementsAt, judgementsAt]
  rw [judgements, split]
  exact (List.flatMap_append_perm _ _ _).symm

end Linking

section Settling

variable {first second : List Judgement}

/-- The findings do not depend on the order of the judgements, but for their own order. -/
theorem settle_perm (same : first.Perm second) : (settle first).Perm (settle second) := by
  have labels (target : String) : (first.filterMap Judgement.labelled?).contains target =
      (second.filterMap Judgement.labelled?).contains target := by
    rw [Bool.eq_iff_iff, List.contains_iff_mem, List.contains_iff_mem]
    exact (same.filterMap _).mem_iff
  simp only [settle, labels]
  exact (same.filterMap _).append (((same.filterMap _).filter _).map _)

/-- What waits for labels that it has already is settled as without the others. -/
theorem filter_unlabelled {waiting : List (String × Finding)} {labels all : List String}
    (known : labels ⊆ all) (own : ∀ entry ∈ waiting, all ⊆ labels) :
    (waiting.filter fun entry => !all.contains entry.1) =
      waiting.filter fun entry => !labels.contains entry.1 := by
  refine List.filter_congr fun entry waits => ?_
  rw [Bool.not_inj_iff, Bool.eq_iff_iff, List.contains_iff_mem, List.contains_iff_mem]
  exact ⟨fun named => own entry waits named, fun named => known named⟩

/-- Where either list has the labels of both once it waits for any, the findings on both lists are the
findings on each. -/
theorem settle_append_perm
    (own : ∀ entry ∈ first.filterMap Judgement.waiting?,
      second.filterMap Judgement.labelled? ⊆ first.filterMap Judgement.labelled?)
    (own' : ∀ entry ∈ second.filterMap Judgement.waiting?,
      first.filterMap Judgement.labelled? ⊆ second.filterMap Judgement.labelled?) :
    (settle (first ++ second)).Perm (settle first ++ settle second) := by
  have all : (first ++ second).filterMap Judgement.labelled? =
      first.filterMap Judgement.labelled? ++ second.filterMap Judgement.labelled? :=
    List.filterMap_append
  have kept := @filter_unlabelled (first.filterMap Judgement.waiting?) _ _
    (List.subset_append_left _ _) fun entry waits =>
      List.append_subset.2 ⟨List.Subset.refl _, own entry waits⟩
  have kept' := @filter_unlabelled (second.filterMap Judgement.waiting?) _ _
    (List.subset_append_right _ _) fun entry waits =>
      List.append_subset.2 ⟨own' entry waits, List.Subset.refl _⟩
  simp only [settle, all]
  simp only [List.filterMap_append, List.filter_append, kept, kept', List.map_append]
  -- only the findings that wait for a label change places
  rw [List.append_assoc, List.append_assoc]
  refine List.Perm.append_left _ ?_
  rw [← List.append_assoc, ← List.append_assoc]
  exact List.Perm.append_right _ List.perm_append_comm

end Settling

section Reviews

variable {document : Document} {policy : Policy} {rules others : List Rule}

/-- What two lists of standard rules find together is what they find apart. -/
theorem findings_append_perm (builtIn : ∀ rule ∈ rules ++ others, rule ∈ Rule.standard)
    (readable : document.hasErrors = false) :
    (reviewDocument document policy (rules ++ others)).findings.Perm
      ((reviewDocument document policy rules).findings ++
        (reviewDocument document policy others).findings) := by
  have swapped : ∀ rule ∈ others ++ rules, rule ∈ Rule.standard := by
    rw [List.forall_mem_append] at builtIn ⊢
    exact builtIn.symm
  simp only [reviewDocument, readable, Bool.false_eq_true, if_false]
  exact (settle_perm judgements_append_perm).trans
    (settle_append_perm (fun _ waits => labels_subset builtIn waits)
      fun _ waits => labels_subset swapped waits)

/-- A list of standard rules finds what its rules find one by one. -/
theorem findings_perm_flatMap (builtIn : ∀ rule ∈ rules, rule ∈ Rule.standard)
    (readable : document.hasErrors = false) :
    (reviewDocument document policy rules).findings.Perm
      (rules.flatMap fun rule => (reviewDocument document policy [rule]).findings) := by
  induction rules with
  | nil => simp [reviewDocument, readable, settle, judgements, judgementsAt]
  | cons rule rest ih =>
    rw [List.flatMap_cons]
    rw [List.forall_mem_cons] at builtIn
    have apart := @findings_append_perm document policy [rule] rest (by simpa using builtIn) readable
    exact apart.trans ((ih builtIn.2).append_left _)

theorem findings_perm_of_perm (builtIn : ∀ rule ∈ rules, rule ∈ Rule.standard)
    (readable : document.hasErrors = false) (reordered : others.Perm rules) :
    (reviewDocument document policy others).findings.Perm
      (reviewDocument document policy rules).findings := by
  have builtIn' : ∀ rule ∈ others, rule ∈ Rule.standard :=
    fun rule listed => builtIn rule (reordered.subset listed)
  have apart := @findings_perm_flatMap document policy others builtIn' readable
  have apart' := @findings_perm_flatMap document policy rules builtIn readable
  exact (apart.trans (reordered.flatMap_right _)).trans apart'.symm

end Reviews

/-- The findings of two lists of standard rules together are their findings apart, whatever rules they
share. So the order of the rules matters for the order of the findings only, and a rule that is added
takes no finding away and changes none. -/
theorem findings_of_joined_rules (parse : Parse) (source : String) (policy : Policy)
    (rules others : List Rule) (builtIn : ∀ rule ∈ rules ++ others, rule ∈ Rule.standard)
    (readable : (Document.ofSource parse source).hasErrors = false) :
    (review parse source policy (rules ++ others)).findings.Perm
        ((review parse source policy rules).findings ++
          (review parse source policy others).findings) ∧
      (∀ reordered : List Rule, reordered.Perm rules →
        (review parse source policy reordered).findings.Perm
          (review parse source policy rules).findings) ∧
      ∀ added ∈ Rule.standard, ∀ before after, rules = before ++ after →
        (review parse source policy (before ++ added :: after)).findings.Perm
          ((review parse source policy rules).findings ++
            (review parse source policy [added]).findings) := by
  simp only [review_eq]
  have builtIn' := (List.forall_mem_append.1 builtIn).1
  refine ⟨findings_append_perm builtIn readable, ?_, ?_⟩
  · intro reordered same
    exact findings_perm_of_perm builtIn' readable same
  · rintro added standard before after rfl
    have known : ∀ rule ∈ (before ++ after) ++ [added], rule ∈ Rule.standard := by
      rw [List.forall_mem_append, List.forall_mem_singleton]
      exact ⟨builtIn', standard⟩
    have moved : (before ++ added :: after).Perm ((before ++ after) ++ [added]) :=
      List.perm_middle.trans (List.perm_append_singleton _ _).symm
    exact (findings_perm_of_perm known readable moved).trans (findings_append_perm known readable)

def labelledInputs : String :=
  "<p><input id='a'/><label htmlFor='a'/><input id='b'/><img/></p>;\n"

/-- The rule on form controls stands in both lists, and each time it finds the one control that no label
names. -/
theorem labelledInputs_of_joined_rules :
    ((review Syntax.parse labelledInputs .standard [Rule.imgAlt, Rule.formControlLabel]).findings.length,
        (review Syntax.parse labelledInputs .standard [Rule.formControlLabel]).findings.length) =
          (2, 1) ∧
      (review Syntax.parse labelledInputs .standard
          ([Rule.imgAlt, Rule.formControlLabel] ++ [Rule.formControlLabel])).findings.Perm
        ((review Syntax.parse labelledInputs .standard
            [Rule.imgAlt, Rule.formControlLabel]).findings ++
          (review Syntax.parse labelledInputs .standard [Rule.formControlLabel]).findings) := by
  -- evaluated together, so that the text is parsed once
  obtain ⟨readable, found⟩ : (Document.ofSource Syntax.parse labelledInputs).hasErrors = false ∧
      ((review Syntax.parse labelledInputs .standard
          [Rule.imgAlt, Rule.formControlLabel]).findings.length,
        (review Syntax.parse labelledInputs .standard [Rule.formControlLabel]).findings.length) =
          (2, 1) := by
    decide +kernel
  have builtIn : ∀ rule ∈ [Rule.imgAlt, Rule.formControlLabel] ++ [Rule.formControlLabel],
      rule ∈ Rule.standard := by
    simp [Rule.standard]
  exact ⟨found, (findings_of_joined_rules Syntax.parse labelledInputs .standard _ _ builtIn readable).1⟩

end ComponentGate
