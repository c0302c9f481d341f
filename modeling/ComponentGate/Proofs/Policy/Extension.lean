import ComponentGate.Proofs.Review.Caution
import ComponentGate.Proofs.Review.Imports
import ComponentGate.Syntax.Parse

/-! Extending the allow-list. A policy with more entries allows what it allowed and what the new entries
match, the order of the extensions apart from repetitions does not matter, and a review under it differs
in the forbidden imports only. -/

namespace ComponentGate

open Syntax

namespace Policy

variable {entry : String} {kept entries more : List String}

/-- Puts an entry behind those that are kept, unless it is one of them. -/
def keep (kept : List String) (entry : String) : List String :=
  if kept.contains entry then kept else kept ++ [entry]

theorem distinct_eq (entries : List String) : distinct entries = entries.foldl keep [] := rfl

theorem mem_foldl_keep : entry ∈ entries.foldl keep kept ↔ entry ∈ kept ∨ entry ∈ entries := by
  induction entries generalizing kept with
  | nil => simp
  | cons first rest ih =>
    rw [List.foldl_cons, ih, keep]
    by_cases known : first ∈ kept
    · have absorbed : entry = first → entry ∈ kept := fun same => same ▸ known
      simp only [List.contains_iff_mem, known, if_true, List.mem_cons]
      tauto
    · simp [known, or_assoc]

theorem nodup_foldl_keep (nodup : kept.Nodup) : (entries.foldl keep kept).Nodup := by
  induction entries generalizing kept with
  | nil => exact nodup
  | cons first rest ih =>
    refine ih ?_
    rw [keep]
    split
    · exact nodup
    · rename_i new
      have apart : ∀ other ∈ kept, ∀ added ∈ [first], other ≠ added := by
        rintro other member added listed rfl
        rw [List.mem_singleton.1 listed] at member
        exact new (List.contains_iff_mem.2 member)
      exact List.nodup_append.2 ⟨nodup, List.nodup_singleton first, apart⟩

/-- Entries that are new and differ from each other are all put behind those that are kept. -/
theorem foldl_keep_of_nodup (nodup : (kept ++ entries).Nodup) :
    entries.foldl keep kept = kept ++ entries := by
  induction entries generalizing kept with
  | nil => simp
  | cons first rest ih =>
    have new : first ∉ kept := by
      intro known
      exact (List.nodup_append.1 nodup).2.2 first known first List.mem_cons_self rfl
    have next : keep kept first = kept ++ [first] := by simp [keep, new]
    rw [List.foldl_cons, next, ih (by simpa using nodup), List.append_assoc, List.singleton_append]

theorem mem_distinct : entry ∈ distinct entries ↔ entry ∈ entries := by
  simp [distinct_eq, mem_foldl_keep]

theorem nodup_distinct (entries : List String) : (distinct entries).Nodup :=
  nodup_foldl_keep List.nodup_nil

theorem distinct_distinct_append : distinct (distinct entries ++ more) = distinct (entries ++ more) := by
  have again : distinct (distinct entries) = distinct entries :=
    foldl_keep_of_nodup (nodup_distinct entries)
  rw [distinct_eq, List.foldl_append, ← distinct_eq, again, distinct_eq, distinct_eq,
    List.foldl_append]

theorem withAllowed_withAllowed (policy : Policy) :
    (policy.withAllowed entries).withAllowed more = policy.withAllowed (entries ++ more) := by
  simp only [withAllowed, distinct_distinct_append, List.append_assoc]

end Policy

theorem isAllowed_withAllowed_iff {policy : Policy} {entries : List String} {specifier : String} :
    Specifier.isAllowed (policy.withAllowed entries) specifier = true ↔
      Specifier.isAllowed policy specifier = true ∨
        specifier ≠ "" ∧ ∃ entry ∈ entries, Specifier.matchesEntry specifier entry = true := by
  have prefixes : (policy.withAllowed entries).localPrefixes = policy.localPrefixes := rfl
  have allowed : (policy.withAllowed entries).allowedImports.any (Specifier.matchesEntry specifier) =
      (policy.allowedImports.any (Specifier.matchesEntry specifier) ||
        entries.any (Specifier.matchesEntry specifier)) := by
    rw [← List.any_append, Bool.eq_iff_iff, List.any_eq_true, List.any_eq_true]
    simp only [Policy.withAllowed, Policy.mem_distinct]
  rw [← List.any_eq_true, Specifier.isAllowed, Specifier.isAllowed, prefixes, allowed]
  simp only [Bool.and_eq_true, Bool.or_eq_true, decide_eq_true_eq]
  tauto

section Reviews

variable {document : Document}

/-- The policy matters to what is said of a specifier only. -/
theorem charge_congr {charge : Rule × (Policy → Concern → Option String)}
    (member : charge ∈ Rule.charges) (other : charge.1.category ≠ .forbiddenImport)
    (policy policy' : Policy) (concern : Concern) :
    charge.2 policy concern = charge.2 policy' concern := by
  simp only [Rule.charges, List.mem_cons, List.not_mem_nil, or_false] at member
  rcases member with rfl | rfl | rfl | rfl | rfl | rfl | rfl | rfl | rfl | rfl | rfl | rfl | rfl | rfl
  · exact absurd rfl other
  all_goals rfl

theorem filter_objections_congr (policy policy' : Policy) (line : Nat) (concern : Concern) :
    (concern.objections policy line).filter (·.category != .forbiddenImport) =
      (concern.objections policy' line).filter (·.category != .forbiddenImport) := by
  rw [Concern.objections, Concern.objections, List.filter_filterMap, List.filter_filterMap]
  refine List.filterMap_congr fun charge member => ?_
  by_cases imported : charge.1.category = .forbiddenImport
  · have dropped (message? : Option String) : (message?.map fun message =>
        charge.1.finding message (some line)).filter (·.category != .forbiddenImport) = none := by
      cases message? <;> simp [Rule.finding, imported]
    rw [dropped, dropped]
  · rw [charge_congr member imported policy policy' concern]

/-- Reviews under two policies differ in the forbidden imports only. -/
theorem filter_findings_congr (policy policy' : Policy) (readable : document.hasErrors = false) :
    (reviewDocument document policy Rule.standard).findings.filter (·.category != .forbiddenImport) =
      (reviewDocument document policy' Rule.standard).findings.filter
        (·.category != .forbiddenImport) := by
  have remarks (scene : Scene) : (scene.remarks policy).filter (·.category != .forbiddenImport) =
      (scene.remarks policy').filter (·.category != .forbiddenImport) := by
    rw [Scene.remarks, Scene.remarks, List.filter_append, List.filter_append,
      filter_objections_congr policy policy']
  simp only [findings_reviewDocument readable, Scene.settle, List.filter_append, List.filter_flatMap,
    remarks]

/-- Of the statements that a policy rejects its extension rejects those that no new entry matches. -/
theorem rejected_withAllowed (policy : Policy) (entries : List String) (nodes : List Tree) :
    document.rejected (policy.withAllowed entries) nodes =
      (document.rejected policy nodes).filter fun statement =>
        statement.2 == "" || !entries.any (Specifier.matchesEntry statement.2) := by
  rw [Document.rejected, Document.rejected, List.filter_filterMap]
  have extended (specifier : String) :
      (!Specifier.isAllowed (policy.withAllowed entries) specifier) =
        (!Specifier.isAllowed policy specifier &&
          (specifier == "" || !entries.any (Specifier.matchesEntry specifier))) := by
    have allowed := @isAllowed_withAllowed_iff policy entries specifier
    rw [← List.any_eq_true] at allowed
    rw [Bool.eq_iff_iff]
    simp only [Bool.not_eq_true', Bool.and_eq_true, Bool.or_eq_true, beq_iff_eq, ← Bool.not_eq_true,
      allowed]
    tauto
  refine List.filterMap_congr fun node _ => ?_
  rw [Document.rejected?, Document.rejected?]
  split
  · rw [Option.filter_map, Option.filter_filter]
    simp only [extended]
    rfl
  · rfl

end Reviews

/-- An extended policy allows what the policy allowed and what one of the new entries matches; extending
twice is extending once by both lists; and a review under the extended policy has the same findings of
every other kind, while its forbidden imports are the statements that the policy rejects and whose
specifier is empty or matched by no new entry. -/
theorem withAllowed_is_union (parse : Parse) (source : String) (policy : Policy)
    (entries more : List String) :
    (∀ specifier, Specifier.isAllowed (policy.withAllowed entries) specifier = true ↔
        Specifier.isAllowed policy specifier = true ∨
          specifier ≠ "" ∧ ∃ entry ∈ entries, Specifier.matchesEntry specifier entry = true) ∧
      (policy.withAllowed entries).withAllowed more = policy.withAllowed (entries ++ more) ∧
      ((Document.ofSource parse source).hasErrors = false →
        (review parse source (policy.withAllowed entries) Rule.standard).findings.filter
            (·.category != .forbiddenImport) =
          (review parse source policy Rule.standard).findings.filter
            (·.category != .forbiddenImport) ∧
        (review parse source policy Rule.standard).ofCategory .forbiddenImport =
          ((Document.ofSource parse source).rejected policy
            (Document.ofSource parse source).root.preorder).map policy.importFinding ∧
        (review parse source (policy.withAllowed entries) Rule.standard).ofCategory
            .forbiddenImport =
          (((Document.ofSource parse source).rejected policy
            (Document.ofSource parse source).root.preorder).filter fun statement =>
              statement.2 == "" || !entries.any (Specifier.matchesEntry statement.2)).map
            (policy.withAllowed entries).importFinding) := by
  refine ⟨fun _ => isAllowed_withAllowed_iff, Policy.withAllowed_withAllowed policy, ?_⟩
  intro readable
  simp only [review_eq]
  refine ⟨filter_findings_congr _ _ readable, ofCategory_forbiddenImport_eq readable, ?_⟩
  rw [ofCategory_forbiddenImport_eq readable, rejected_withAllowed]

def mixedImports : String :=
  "import a from 'lodash/fp';\nimport b from 'fs';\nimport '';\neval(a);\n"

/-- Of three forbidden imports two stay forbidden once a package is allowed. -/
theorem mixedImports_withAllowed :
    ((review Syntax.parse mixedImports .standard Rule.standard).ofCategory
        .forbiddenImport).map Finding.line = [some 1, some 2, some 3] ∧
      (review Syntax.parse mixedImports (Policy.standard.withAllowed ["lodash", "react"])
          Rule.standard).ofCategory .forbiddenImport =
        (((Document.ofSource Syntax.parse mixedImports).rejected .standard
          (Document.ofSource Syntax.parse mixedImports).root.preorder).filter fun statement =>
            statement.2 == "" || !(["lodash", "react"].any (Specifier.matchesEntry statement.2))).map
          (Policy.standard.withAllowed ["lodash", "react"]).importFinding ∧
      ((review Syntax.parse mixedImports (Policy.standard.withAllowed ["lodash", "react"])
          Rule.standard).ofCategory .forbiddenImport).map Finding.line = [some 2, some 3] := by
  -- evaluated together, so that the text is parsed once
  obtain ⟨readable, before, after⟩ : (Document.ofSource Syntax.parse mixedImports).hasErrors = false ∧
      ((review Syntax.parse mixedImports .standard Rule.standard).ofCategory
        .forbiddenImport).map Finding.line = [some 1, some 2, some 3] ∧
      ((review Syntax.parse mixedImports (Policy.standard.withAllowed ["lodash", "react"])
          Rule.standard).ofCategory .forbiddenImport).map Finding.line = [some 2, some 3] := by
    decide +kernel
  have extended := (withAllowed_is_union Syntax.parse mixedImports .standard ["lodash", "react"] []).2.2
    readable
  exact ⟨before, extended.2.2, after⟩

end ComponentGate
