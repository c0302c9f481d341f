import ComponentGate.Proofs.Repair.Harmless
import ComponentGate.Proofs.Repair.Rounds

/-! Whether repairs keep a source valid. Where the passes lead to the trees that they are meant for,
nothing but the import can be refused afterwards, and whether it is depends on the policy alone. -/

namespace ComponentGate

open Syntax

namespace Repair

section Steps

variable {parse : Parse} {policy : Policy} {prospect : Prospect} {before after : Document}
  {progress : Progress} {stages : List Prospect}

theorem allowed_of_isMet (met : prospect.isMet before after = true)
    (harmless : (prospect.graft before).Harmless policy) (allowed : AllAllowed before policy) :
    AllAllowed after policy := by
  simp only [Prospect.isMet, Bool.and_eq_true, beq_iff_eq] at met
  obtain ⟨⟨plain, -⟩, same⟩ := met
  apply not_refused_of_allowed telling_isTold plain
  have grafted := allowed_grafted telling_isTold harmless allowed
  rw [← same] at grafted
  exact grafted

theorem allowed_step (foreseen : isForeseen parse progress (prospect :: stages) = true)
    (harmless : (prospect.graft progress.document).Harmless policy)
    (allowed : AllAllowed progress.document policy) :
    AllAllowed (progress.step parse prospect.pass).document policy := by
  rw [isForeseen, Bool.and_eq_true] at foreseen
  rw [Progress.step]
  cases made : attempt? parse progress.document (prospect.pass.plan progress.document).edits with
  | none => exact allowed
  | some result =>
    have met : prospect.isMet progress.document result.2 = true := by simpa [made] using foreseen.1
    exact allowed_of_isMet met harmless allowed

theorem allowed_foldl
    (tame : ∀ prospect ∈ stages, ∀ document, AllAllowed document policy →
      (prospect.graft document).Harmless policy)
    (foreseen : isForeseen parse progress stages = true)
    (allowed : AllAllowed progress.document policy) :
    AllAllowed ((stages.map Prospect.pass).foldl (Progress.step parse) progress).document policy := by
  induction stages generalizing progress with
  | nil => exact allowed
  | cons prospect rest ih =>
    have harmless := tame prospect List.mem_cons_self progress.document allowed
    have next := allowed_step foreseen harmless allowed
    rw [isForeseen, Bool.and_eq_true] at foreseen
    exact ih (fun later member => tame later (List.mem_cons_of_mem _ member)) foreseen.2 next

theorem isForeseen_append (parse : Parse) (progress : Progress) (first second : List Prospect) :
    isForeseen parse progress (first ++ second) =
      (isForeseen parse progress first &&
        isForeseen parse ((first.map Prospect.pass).foldl (Progress.step parse) progress) second) := by
  induction first generalizing progress with
  | nil => rfl
  | cons prospect rest ih =>
    rw [List.cons_append, isForeseen, ih, isForeseen, Bool.and_assoc]
    rfl

end Steps

theorem tame_innerProspects (policy : Policy) :
    ∀ prospect ∈ innerProspects, ∀ document, AllAllowed document policy →
      (prospect.graft document).Harmless policy := by
  intro prospect member document allowed
  simp only [innerProspects, List.mem_cons, List.not_mem_nil, or_false] at member
  rcases member with rfl | rfl | rfl
  · exact harmless_hoistGraft allowed
  · exact harmless_keyGraft allowed
  · exact Graft.harmless_none policy

section Records

/-- The record of the import. -/
def importRecord : String := "Added missing React import"

theorem prefix_append {opening : List Char} {first second : String}
    (begins : opening <+: first.toList) : opening <+: (first ++ second).toList := by
  rw [String.toList_append]
  exact begins.trans (List.prefix_append _ _)

/-- A record is another one if it begins in another way. -/
theorem ne_importRecord {opening : List Char} {record : String} (begins : opening <+: record.toList)
    (other : ¬opening <+: importRecord.toList) : importRecord ≠ record := by
  rintro rfl
  exact other begins

theorem importRecord_ne_hoistRecord (document : Document) (target : String) (declaration : Tree) :
    importRecord ≠ hoistRecord document target declaration := by
  have word : "Hoisted".toList <+: "Hoisted top-level ".toList := by decide
  have begins : "Hoisted".toList <+: (hoistRecord document target declaration).toList :=
    prefix_append (prefix_append (prefix_append (prefix_append (prefix_append word))))
  exact ne_importRecord begins (by decide)

theorem importRecord_ne_keyRecord (tag : String) :
    importRecord ≠ s!"Added key to <{tag}> rendered by map()" := by
  have words : "Added key".toList <+: "Added key to <".toList := by decide
  exact ne_importRecord (prefix_append (prefix_append words)) (by decide)

theorem importRecord_ne_handlerRecord (spelled proper : String) :
    importRecord ≠ s!"Converted {spelled} to {proper}" := by
  have word : "Converted".toList <+: "Converted ".toList := by decide
  exact ne_importRecord (prefix_append (prefix_append (prefix_append word))) (by decide)

theorem importRecord_notMem_keyRepairs (document : Document) (call : Tree) :
    importRecord ∉ (keyRepairs document call).records := by
  rcases keyRepairs_cases document call with none | ⟨_, _, tag, _, -, planned⟩
  · rw [none]
    exact List.not_mem_nil
  · rw [planned]
    exact fun member => importRecord_ne_keyRecord _ (List.mem_singleton.1 member)

theorem importRecord_notMem_handlerRepairs (document : Document) (given : Tree) :
    importRecord ∉ (handlerRepairs document given).records := by
  rcases handlerRepairs_cases document given with none | ⟨name, proper, -, -, -, planned⟩
  · rw [none]
    exact List.not_mem_nil
  · rw [planned]
    exact fun member => importRecord_ne_handlerRecord _ _ (List.mem_singleton.1 member)

theorem importRecord_notMem_hoistDeclarations (document : Document) :
    importRecord ∉ (hoistDeclarations.plan document).records := by
  rcases hoistDeclarations_cases document with none | ⟨target, _, -, -, -, planned⟩
  · rw [none]
    exact List.not_mem_nil
  · rw [planned]
    intro member
    obtain ⟨declaration, -, same⟩ := List.mem_map.1 member
    exact importRecord_ne_hoistRecord _ _ _ same.symm

/-- No pass in front of the import tells of one. -/
theorem importRecord_notMem_inner {prospect : Prospect} (member : prospect ∈ innerProspects)
    (document : Document) : importRecord ∉ (prospect.pass.plan document).records := by
  simp only [innerProspects, List.mem_cons, List.not_mem_nil, or_false] at member
  rcases member with rfl | rfl | rfl
  · exact importRecord_notMem_hoistDeclarations document
  · intro told
    obtain ⟨repairs, made, here⟩ := List.mem_flatMap.1 (Repairs.records_concat _ ▸ told)
    obtain ⟨call, -, rfl⟩ := List.mem_map.1 made
    exact importRecord_notMem_keyRepairs document call here
  · intro told
    obtain ⟨repairs, made, here⟩ := List.mem_flatMap.1 (Repairs.records_concat _ ▸ told)
    obtain ⟨given, -, rfl⟩ := List.mem_map.1 made
    exact importRecord_notMem_handlerRepairs document given here

theorem importRecord_notMem_foldl {parse : Parse} {progress : Progress} {stages : List Prospect}
    (inner : ∀ prospect ∈ stages, ∀ document, importRecord ∉ (prospect.pass.plan document).records)
    (untold : importRecord ∉ progress.records) :
    importRecord ∉ ((stages.map Prospect.pass).foldl (Progress.step parse) progress).records := by
  induction stages generalizing progress with
  | nil => exact untold
  | cons prospect rest ih =>
    apply ih fun later member => inner later (List.mem_cons_of_mem _ member)
    rw [Progress.step]
    split
    · intro member
      rcases List.mem_append.1 member with before | added
      · exact untold before
      · exact inner prospect List.mem_cons_self _ added
    · exact untold

theorem records_of_attempt_import {parse : Parse} {document : Document} {result : String × Document}
    (made : attempt? parse document (ensureBaseImport.plan document).edits = some result) :
    (ensureBaseImport.plan document).records = [importRecord] := by
  have filled := (edits_of_attempt made).1
  simp only [ensureBaseImport] at filled ⊢
  split
  · rfl
  · rename_i idle
    rw [if_neg idle] at filled
    exact absurd rfl filled

end Records

section Endings

variable {parse : Parse} {source : String} {policy : Policy}

/-- Of an import that stands where it was meant to stand, the policy decides. -/
theorem allowed_import_iff {before after : Document}
    (met : Prospect.isMet ⟨ensureBaseImport, importGraft⟩ before after = true)
    (allowed : AllAllowed before policy) :
    AllAllowed after policy ↔ Specifier.isAllowed policy baseLibrary = true := by
  constructor
  · intro fine
    simp only [Prospect.isMet, Bool.and_eq_true, beq_iff_eq, Bool.not_eq_true'] at met
    obtain ⟨⟨-, outside⟩, same⟩ := met
    have present : importPart ∈ (after.sketch after.root).children := by
      rw [same, children_grafted, outside]
      simp [importGraft]
    rw [Document.sketch, children_of_spares (Graft.spares_none _)] at present
    obtain ⟨statement, kept, shown⟩ := List.mem_map.1 present
    have child := (List.mem_filter.1 kept).1
    have sight : after.sight statement = importPart.sight := by
      rw [← shown]
      exact (sight_grafted telling_isTold (Graft.spares_none _)).symm
    have visited := Tree.mem_preorder_of_mem_children after.root.mem_preorder_self child
    have clear := fine statement visited
    rw [refused_import_iff (kind_of_importPart sight) (specifier_of_importPart sight),
      Bool.not_eq_false] at clear
    exact clear
  · intro free
    exact allowed_of_isMet met (harmless_importGraft free) allowed

theorem allowed_ending_iff
    (allowed : AllAllowed (.read parse (Preamble.split source).body) policy)
    (foreseen : isForeseen parse (.start parse (Preamble.split source).body) prospects = true) :
    AllAllowed (ending parse source).document policy ↔
      importRecord ∉ (ending parse source).records ∨
        Specifier.isAllowed policy baseLibrary = true := by
  rw [prospects, isForeseen_append, Bool.and_eq_true] at foreseen
  have inner := allowed_foldl (tame_innerProspects policy) foreseen.1 allowed
  have untold : importRecord ∉ ((innerProspects.map Prospect.pass).foldl (Progress.step parse)
      (.start parse (Preamble.split source).body)).records :=
    importRecord_notMem_foldl (fun _ member document => importRecord_notMem_inner member document)
      nofun
  have last := foreseen.2
  rw [ending, passes_eq, prospects, List.map_append, List.foldl_append]
  generalize (innerProspects.map Prospect.pass).foldl (Progress.step parse)
    (.start parse (Preamble.split source).body) = prepared at inner untold last ⊢
  rw [List.map_singleton, List.foldl_cons, List.foldl_nil, Progress.step]
  cases made : attempt? parse prepared.document (ensureBaseImport.plan prepared.document).edits with
  | none => exact iff_of_true inner (.inl untold)
  | some result =>
    have met : Prospect.isMet ⟨ensureBaseImport, importGraft⟩ prepared.document result.2 = true := by
      simpa [isForeseen, made] using last
    have told : importRecord ∈
        prepared.records ++ (ensureBaseImport.plan prepared.document).records := by
      rw [records_of_attempt_import made]
      exact List.mem_append_right _ List.mem_cons_self
    exact (allowed_import_iff met inner).trans (or_iff_right (not_not_intro told)).symm

theorem fixes_of_readable
    (readable : ¬(Document.read parse (Preamble.split source).body).hasErrors = true) :
    (repair parse source).fixes = (ending parse source).records := by
  rw [repair_of_readable readable]
  cases (ending parse source).records <;> rfl

/-- Behind a preamble that stays as it was stands the body that the passes made. -/
theorem body_of_kept (fixes : (repair parse source).fixes ≠ [])
    (kept : (Preamble.split (repair parse source).code).preamble = (Preamble.split source).preamble) :
    (Preamble.split (repair parse source).code).body = (ending parse source).body := by
  have whole := Preamble.preamble_append_body (repair parse source).code
  rw [kept] at whole
  have made := code_of_fixes fixes
  rw [← whole, Preamble.attach] at made
  exact (String.append_right_inj _).1 made

end Endings

/-- A valid source stays valid if no import is added to it or the policy allows the one that is, where
every pass leads to the tree that it is meant for and the preamble stays what it was. -/
theorem isValid_repair_iff (parse : Parse) (source : String) (policy : Policy)
    (valid : (review parse source policy Rule.standard).isValid = true)
    (kept : (Preamble.split (repair parse source).code).preamble = (Preamble.split source).preamble)
    (foreseen : isForeseen parse (.start parse (Preamble.split source).body) prospects = true) :
    (review parse (repair parse source).code policy Rule.standard).isValid = true ↔
      importRecord ∉ (repair parse source).fixes ∨
        Specifier.isAllowed policy baseLibrary = true := by
  by_cases fixes : (repair parse source).fixes = []
  · have same := repair_of_fixes_eq_nil fixes
    rw [same]
    exact iff_of_true valid (.inl nofun)
  have readable : ¬(Document.read parse (Preamble.split source).body).hasErrors = true := by
    intro erroneous
    exact fixes (by rw [repair_of_hasErrors erroneous])
  have allowed := (isValid_review_iff parse source policy).1 valid
  rw [isValid_review_iff, body_of_kept fixes kept, fixes_of_readable readable,
    ← allowed_ending_iff allowed foreseen, document_ending]
  rfl

def bareMarkup : String := "export default () => <a/>;\n"

/-- A policy for another library refuses the import that a component gets. -/
theorem bareMarkup_refused :
    (review Syntax.parse bareMarkup { Policy.standard with allowedImports := ["preact"] }
        Rule.standard).isValid = true ∧
      (review Syntax.parse (repair Syntax.parse bareMarkup).code
        { Policy.standard with allowedImports := ["preact"] } Rule.standard).isValid = false := by
  decide +kernel

def looseMarkup : String := "var x;\nexport default () => <a/>;\n"

theorem looseMarkup_isValid_iff :
    (repair Syntax.parse looseMarkup).fixes =
        ["Hoisted top-level var declaration of x into default", "Added missing React import"] ∧
      isForeseen Syntax.parse (.start Syntax.parse (Preamble.split looseMarkup).body)
        prospects = true ∧
      ((review Syntax.parse (repair Syntax.parse looseMarkup).code .standard
        Rule.standard).isValid = true ↔ importRecord ∉ (repair Syntax.parse looseMarkup).fixes ∨
          Specifier.isAllowed .standard baseLibrary = true) := by
  -- One evaluation for all four, which share the reading of the source.
  obtain ⟨fixes, valid, kept, foreseen⟩ :
      (repair Syntax.parse looseMarkup).fixes =
          ["Hoisted top-level var declaration of x into default", "Added missing React import"] ∧
        (review Syntax.parse looseMarkup .standard Rule.standard).isValid = true ∧
        (Preamble.split (repair Syntax.parse looseMarkup).code).preamble =
          (Preamble.split looseMarkup).preamble ∧
        isForeseen Syntax.parse (.start Syntax.parse (Preamble.split looseMarkup).body)
          prospects = true := by
    decide +kernel
  exact ⟨fixes, foreseen, isValid_repair_iff _ _ _ valid kept foreseen⟩

end Repair

end ComponentGate
