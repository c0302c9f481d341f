import ComponentGate.Erasure.Basic
import ComponentGate.Proofs.Preamble.Splitting
import ComponentGate.Repair.Staged
import ComponentGate.Review.Validation
import ComponentGate.Syntax.Parse

/-! Preambles are set aside. Whatever is done to a source is done to its body as if nothing stood in front,
and the preamble comes back untouched. -/

namespace ComponentGate.Preamble

section Parts

variable {parse : Parse} {source preamble body : String}

theorem repair_of_split (parts : split source = ⟨preamble, body⟩) (bare : split body = ⟨"", body⟩) :
    repair parse source = ⟨preamble ++ (repair parse body).code, (repair parse body).fixes⟩ := by
  have whole : preamble ++ body = source := by
    have joined := preamble_append_body source
    rwa [parts] at joined
  rw [repair, repair, parts, bare]
  dsimp only
  by_cases erroneous : (Repair.Progress.start parse body).document.hasErrors = true
  · rw [if_pos erroneous, if_pos erroneous, whole]
  rw [if_neg erroneous, if_neg erroneous]
  generalize Repair.passes.foldl (Repair.Progress.step parse) (.start parse body) = done
  by_cases quiet : done.records.isEmpty = true
  · rw [if_pos quiet, if_pos quiet, whole]
  · rw [if_neg quiet, if_neg quiet, attach, attach, String.empty_append]

theorem eraseTypes_of_split (parts : split source = ⟨preamble, body⟩)
    (bare : split body = ⟨"", body⟩) :
    eraseTypes parse source = preamble ++ eraseTypes parse body := by
  have whole : preamble ++ body = source := by
    have joined := preamble_append_body source
    rwa [parts] at joined
  rw [eraseTypes, eraseTypes, parts, bare]
  dsimp only
  generalize Document.read parse body = document
  by_cases erroneous : document.hasErrors = true
  · rw [if_pos erroneous, if_pos erroneous, whole]
  rw [if_neg erroneous, if_neg erroneous]
  by_cases idle : (Erasure.edits document).isEmpty = true
  · rw [if_pos idle, if_pos idle, whole]
  rw [if_neg idle, if_neg idle]
  cases document.render (Erasure.edits document) with
  | error failure => exact whole.symm
  | ok erased =>
    dsimp only
    by_cases broken : (Document.read parse erased).hasErrors = true
    · rw [if_pos broken, if_pos broken, whole]
    · rw [if_neg broken, if_neg broken, attach, attach, String.empty_append]

theorem review_of_split (parts : split source = ⟨preamble, body⟩) (bare : split body = ⟨"", body⟩)
    (policy : Policy) (rules : List Rule) :
    review parse source policy rules = review parse body policy rules := by
  rw [review, review, parts, bare]

theorem importedSpecifiers_of_split (parts : split source = ⟨preamble, body⟩)
    (bare : split body = ⟨"", body⟩) :
    importedSpecifiers parse source = importedSpecifiers parse body := by
  rw [importedSpecifiers, importedSpecifiers, parts, bare]

theorem fields_attach (present : has preamble = true) (whole : split preamble = ⟨preamble, ""⟩)
    (body : String) : fields (preamble ++ body) = fields preamble := by
  obtain ⟨⟨content, rest⟩, found⟩ := Option.isSome_iff_exists.1 present
  have cut : (split preamble).preamble.toList = opening ++ content ++ closing := by
    rw [split, found]
    simp
  rw [whole] at cut
  have again : find? (preamble ++ body).toList = some (content, body.toList) := by
    rw [String.toList_append, cut]
    exact find_attach found body.toList
  rw [fields, fields, found, again]

end Parts

/-- A preamble in front of a body without one is cut off as it is, all passes do to the whole what they do
to the body, and its fields are those of the preamble. -/
theorem preamble_set_aside (parse : Parse) {preamble body : String}
    (whole : split preamble = ⟨preamble, ""⟩) (present : preamble ≠ "")
    (bare : (split body).preamble = "") :
    split (preamble ++ body) = ⟨preamble, body⟩ ∧
      repair parse (preamble ++ body) =
        ⟨preamble ++ (repair parse body).code, (repair parse body).fixes⟩ ∧
      eraseTypes parse (preamble ++ body) = preamble ++ eraseTypes parse body ∧
      (∀ policy rules,
        review parse (preamble ++ body) policy rules = review parse body policy rules) ∧
      importedSpecifiers parse (preamble ++ body) = importedSpecifiers parse body ∧
      fields (preamble ++ body) = fields preamble := by
  have titled : has preamble = true := by
    cases titled : has preamble with
    | true => rfl
    | false =>
      rw [has_eq_false_iff, whole] at titled
      exact absurd titled present
  have parts : split (preamble ++ body) = ⟨preamble, body⟩ := by
    have again := split_attach titled body
    rwa [whole] at again
  have alone : split body = ⟨"", body⟩ := split_of_not_has ((has_eq_false_iff body).2 bare)
  exact ⟨parts, repair_of_split parts alone, eraseTypes_of_split parts alone,
    review_of_split parts alone, importedSpecifiers_of_split parts alone,
    fields_attach titled whole body⟩

/-- A preamble that has a line of dashes for its first line of content. -/
def dashedTitle : String := "---\n---\ntitle: 'A card'\n\n---\n"

/-- A body that begins like a preamble which nothing closes. -/
def dashedBody : String := "---\ny!;\n(<a/>);\n"

theorem dashedTitle_set_aside :
    split dashedTitle = ⟨dashedTitle, ""⟩ ∧ dashedTitle ≠ "" ∧ (split dashedBody).preamble = "" ∧
      (repair Syntax.parse dashedBody).fixes = ["Added missing React import"] ∧
      eraseTypes Syntax.parse dashedBody ≠ dashedBody ∧
      split (dashedTitle ++ dashedBody) = ⟨dashedTitle, dashedBody⟩ ∧
      repair Syntax.parse (dashedTitle ++ dashedBody) =
        ⟨dashedTitle ++ (repair Syntax.parse dashedBody).code,
          (repair Syntax.parse dashedBody).fixes⟩ ∧
      eraseTypes Syntax.parse (dashedTitle ++ dashedBody) =
        dashedTitle ++ eraseTypes Syntax.parse dashedBody ∧
      (∀ policy rules, review Syntax.parse (dashedTitle ++ dashedBody) policy rules =
        review Syntax.parse dashedBody policy rules) ∧
      importedSpecifiers Syntax.parse (dashedTitle ++ dashedBody) =
        importedSpecifiers Syntax.parse dashedBody ∧
      fields (dashedTitle ++ dashedBody) = fields dashedTitle := by
  have whole : split dashedTitle = ⟨dashedTitle, ""⟩ := by decide +kernel
  have present : dashedTitle ≠ "" := by decide
  have bare : (split dashedBody).preamble = "" := by decide +kernel
  have fixes : (repair Syntax.parse dashedBody).fixes = ["Added missing React import"] := by
    decide +kernel
  have erased : eraseTypes Syntax.parse dashedBody ≠ dashedBody := by decide +kernel
  exact ⟨whole, present, bare, fixes, erased, preamble_set_aside Syntax.parse whole present bare⟩

end ComponentGate.Preamble
