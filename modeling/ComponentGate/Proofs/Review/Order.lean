import ComponentGate.Proofs.Review.Independence
import ComponentGate.Proofs.Syntax.Spans

/-! The order of a report. A walk visits the nodes of a tree in the order of the text, so the findings that
it makes at once come in the order of their lines, and so do those that it puts off. Only warnings are put
off: the errors of a report come in the order of their lines too. -/

namespace ComponentGate

open Syntax

/-- The findings that a walk makes at once. -/
def collected (document : Document) (policy : Policy) (rules : List Rule) : List Finding :=
  document.root.places.flatMap (remarks document policy rules)

/-- The controls that labels name. -/
def labelledControls (document : Document) (policy : Policy) (rules : List Rule) : List String :=
  (judgements document policy rules).filterMap Judgement.labelled?

/-- The findings on a place that a walk puts off and no label settles. -/
def deferredAt (document : Document) (policy : Policy) (rules : List Rule) (place : Place) :
    List Finding :=
  (((judgementsAt document policy rules place).filterMap Judgement.waiting?).filter fun entry =>
    !(labelledControls document policy rules).contains entry.1).map (·.2)

/-- The findings that come after all others. -/
def deferred (document : Document) (policy : Policy) (rules : List Rule) : List Finding :=
  document.root.places.flatMap (deferredAt document policy rules)

/-- Whether findings tell their lines, from above to below. -/
def InOrder (findings : List Finding) : Prop :=
  ∃ lines : List Nat, findings.map Finding.line = lines.map some ∧ lines.Pairwise (· ≤ ·)

section Parts

variable {document : Document} {policy : Policy} {rules : List Rule}

theorem findings_eq (readable : document.hasErrors = false) :
    (reviewDocument document policy rules).findings =
      collected document policy rules ++ deferred document policy rules := by
  simp only [reviewDocument, readable, Bool.false_eq_true, if_false, settle]
  rw [filterMap_immediate_judgements, deferred, ← labelledControls]
  simp only [judgements, List.filterMap_flatMap, List.filter_flatMap, List.map_flatMap]
  rfl

/-- What is found at once at a place tells the line of the place. -/
theorem line_of_mem_remarks {place : Place} {finding : Finding}
    (member : finding ∈ remarks document policy rules place) :
    finding.line = some place.tree.line := by
  obtain ⟨rule, -, said⟩ := List.mem_filterMap.1 member
  obtain ⟨message, -, rfl⟩ := Option.map_eq_some_iff.1 said
  rfl

theorem exists_waiting_of_mem_deferredAt {place : Place} {finding : Finding}
    (member : finding ∈ deferredAt document policy rules place) :
    ∃ judgement ∈ judgementsAt document policy rules place, ∃ target,
      judgement.waiting? = some (target, finding) := by
  obtain ⟨⟨target, _⟩, kept, rfl⟩ := List.mem_map.1 member
  obtain ⟨judgement, judged, waits⟩ := List.mem_filterMap.1 (List.mem_filter.1 kept).1
  exact ⟨judgement, judged, target, waits⟩

/-- What is put off at a place tells the line of the place, too. -/
theorem line_of_mem_deferredAt {place : Place} {finding : Finding}
    (member : finding ∈ deferredAt document policy rules place) :
    finding.line = some place.tree.line := by
  obtain ⟨judgement, judged, target, waits⟩ := exists_waiting_of_mem_deferredAt member
  obtain ⟨rule, -, rfl⟩ := List.mem_map.1 judged
  rw [Judgement.waiting?] at waits
  split at waits
  · obtain ⟨-, rfl⟩ := Prod.mk.inj (Option.some.inj waits)
    rfl
  · cases waits

/-- No error is put off. -/
theorem filter_isError_deferred (builtIn : ∀ rule ∈ rules, rule ∈ Rule.standard) :
    (deferred document policy rules).filter Finding.isError = [] := by
  apply List.filter_eq_nil_iff.2
  intro finding member
  obtain ⟨place, visited, put⟩ := List.mem_flatMap.1 member
  obtain ⟨judgement, judged, target, waits⟩ := exists_waiting_of_mem_deferredAt put
  have walked : judgement ∈ judgements document policy rules :=
    List.mem_flatMap.2 ⟨place, visited, judged⟩
  have own := rule_of_linked builtIn walked (.inl (by simp [waits]))
  rw [Finding.isError, severity_of_waiting waits, own]
  decide

end Parts

section Lines

variable {root : Tree}

theorem pairwise_line_places (lined : root.Lined) :
    root.places.Pairwise fun first second => first.tree.line ≤ second.tree.line := by
  have sorted := lined.pairwise_line
  rw [← root.nodes_eq_preorder, Tree.nodes, List.pairwise_map] at sorted
  exact sorted

/-- Findings that tell the line of their place come in order if their places do. -/
theorem inOrder_flatMap (lined : root.Lined) {found : Place → List Finding}
    (own : ∀ place, ∀ finding ∈ found place, finding.line = some place.tree.line) :
    InOrder (root.places.flatMap found) := by
  refine ⟨root.places.flatMap fun place => (found place).map fun _ => place.tree.line, ?_, ?_⟩
  · rw [List.map_flatMap, List.map_flatMap]
    refine List.flatMap_congr fun place _ => ?_
    rw [List.map_map]
    exact List.map_congr_left fun finding member => own place finding member
  · rw [List.pairwise_flatMap]
    constructor
    · intro place _
      exact List.pairwise_map.2 (List.pairwise_of_forall fun _ _ => Nat.le_refl _)
    · refine (pairwise_line_places lined).imp fun {first second} order line here later there => ?_
      obtain ⟨_, -, rfl⟩ := List.mem_map.1 here
      obtain ⟨_, -, rfl⟩ := List.mem_map.1 there
      exact order

end Lines

/-- The errors of a report come in the order of their lines. The report consists of the findings of the
walk and of those that the walk put off, and each of these parts comes in the order of its lines. -/
theorem findings_in_source_order (parse : Parse) (source : String) (policy : Policy)
    (rules : List Rule) (builtIn : ∀ rule ∈ rules, rule ∈ Rule.standard)
    (readable : (Document.ofSource parse source).hasErrors = false)
    (lined : (Document.ofSource parse source).root.Lined) :
    InOrder ((review parse source policy rules).findings.filter Finding.isError) ∧
      (review parse source policy rules).findings =
        collected (.ofSource parse source) policy rules ++
          deferred (.ofSource parse source) policy rules ∧
      InOrder (collected (.ofSource parse source) policy rules) ∧
      InOrder (deferred (.ofSource parse source) policy rules) := by
  have parts := @findings_eq (.ofSource parse source) policy rules readable
  refine ⟨?_, parts, ?_, ?_⟩
  · rw [review_eq, parts, List.filter_append, filter_isError_deferred builtIn, List.append_nil,
      collected, List.filter_flatMap]
    exact inOrder_flatMap lined fun place finding member =>
      line_of_mem_remarks (List.mem_filter.1 member).1
  · exact inOrder_flatMap lined fun place finding member => line_of_mem_remarks member
  · exact inOrder_flatMap lined fun place finding member => line_of_mem_deferredAt member

/-- Two controls of which the first waits for a label, with an error behind them. -/
def mixedFindings : String := "<p>\n<input id='a'/>\n<input/>\n</p>;\neval('1');\n"

theorem mixedFindings_in_source_order :
    (Document.ofSource Syntax.parse mixedFindings).root.Lined ∧
      (review Syntax.parse mixedFindings .standard Rule.standard).findings.map Finding.line =
        [some 3, some 5, some 2] ∧
      InOrder ((review Syntax.parse mixedFindings .standard Rule.standard).findings.filter
        Finding.isError) := by
  -- evaluated together, so that the text is parsed once
  obtain ⟨readable, lined, lines⟩ :
      (Document.ofSource Syntax.parse mixedFindings).hasErrors = false ∧
      (Document.ofSource Syntax.parse mixedFindings).root.Lined ∧
      (review Syntax.parse mixedFindings .standard Rule.standard).findings.map Finding.line =
        [some 3, some 5, some 2] := by
    decide +kernel
  exact ⟨lined, lines,
    (findings_in_source_order _ _ _ Rule.standard (fun _ listed => listed) readable lined).1⟩

end ComponentGate
