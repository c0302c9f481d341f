import ComponentGate.Proofs.Syntax.Preorder
import ComponentGate.Review.Validation
import Mathlib.Data.List.Nodup

/-! Validity node by node. A source is valid if none of its nodes is erroneous or reported by one of the
standard rules whose findings are errors; such a rule looks at nothing but the node. -/

namespace ComponentGate

open Syntax

namespace Rule

/-- The standard rules whose findings block a source. -/
def blocking : List Rule := standard.filter fun rule => rule.severity == .error

theorem mem_blocking_iff : rule ∈ blocking ↔ rule ∈ standard ∧ rule.severity = .error := by
  simp [blocking]

theorem blocking_eq :
    blocking = [importPolicy, noEval, noFunctionConstructor, noRequire, noDynamicImport,
      noStringTimer, noFetch, noNetworkConstructor, noPrivilegedGlobal, noPrivilegedMember,
      noCookieWrite, noLocationAssignment, noMarkupAssignment, noMarkupInjection] := rfl

theorem eq_of_name {rule other : Rule} (member : rule ∈ blocking) (listed : other ∈ blocking)
    (same : rule.name = other.name) : rule = other := by
  have distinct : (blocking.map Rule.name).Nodup := by
    rw [blocking_eq]
    decide
  exact List.inj_on_of_nodup_map distinct member listed same

/-- Whether a rule looks at nodes alone. -/
def OnNodes (rule : Rule) : Prop :=
  ∃ name category severity kinds message?, rule = onNodes name category severity kinds message?

theorem onNodes_onCalls (name : String) (message? : Document → Tree → Option String) :
    OnNodes (onCalls name message?) := ⟨_, _, _, _, _, rfl⟩

theorem onNodes_onTargets (name : String) (targets : List String) (message : String) :
    OnNodes (onTargets name targets message) := ⟨_, _, _, _, _, rfl⟩

theorem onNodes_of_mem_blocking (member : rule ∈ blocking) : rule = importPolicy ∨ OnNodes rule := by
  rw [blocking_eq, List.mem_cons] at member
  rcases member with rfl | member
  · exact .inl rfl
  · right
    simp only [List.mem_cons, List.not_mem_nil, or_false] at member
    rcases member with rfl | rfl | rfl | rfl | rfl | rfl | rfl | rfl | rfl | rfl | rfl | rfl | rfl
      <;> first
        | exact ⟨_, _, _, _, _, rfl⟩
        | exact onNodes_onCalls _ _
        | exact onNodes_onTargets _ _ _

theorem check_of_mem_blocking (member : rule ∈ blocking) (document : Document) (policy : Policy)
    (place : Place) :
    rule.check document policy place = rule.check document policy (.ofRoot place.tree) := by
  rcases onNodes_of_mem_blocking member with rfl | ⟨_, _, _, _, _, rfl⟩
  · rfl
  · rfl

theorem clean_or_report_importPolicy (document : Document) (policy : Policy) (place : Place) :
    importPolicy.check document policy place = .clean ∨
      ∃ message, importPolicy.check document policy place = .report message := by
  simp only [importPolicy]
  split
  · split
    · exact .inl rfl
    · exact .inr ⟨_, rfl⟩
  · exact .inl rfl

/-- A blocking rule decides at once. -/
theorem clean_or_report_of_mem_blocking (member : rule ∈ blocking) (document : Document)
    (policy : Policy) (place : Place) :
    rule.check document policy place = .clean ∨
      ∃ message, rule.check document policy place = .report message := by
  rcases onNodes_of_mem_blocking member with rfl | ⟨_, _, _, _, message?, rfl⟩
  · exact clean_or_report_importPolicy document policy place
  · simp only [onNodes]
    cases message? document place.tree with
    | none => exact .inl rfl
    | some message => exact .inr ⟨message, rfl⟩

end Rule

/-- Whether a blocking rule reports a node. -/
def Blocked (document : Document) (policy : Policy) (node : Tree) : Prop :=
  ∃ rule ∈ Rule.blocking, node.isOneOf rule.kinds = true ∧
    ∃ message, rule.check document policy (.ofRoot node) = .report message

/-- Whether a node keeps its source from being valid. -/
def Refused (document : Document) (policy : Policy) (node : Tree) : Prop :=
  node.isKind .error = true ∨ Blocked document policy node

section Findings

variable {judgement : Judgement} {finding : Finding}

theorem severity_of_immediate (found : judgement.immediate? = some finding) :
    finding.severity = judgement.rule.severity := by
  cases verdict : judgement.verdict <;> simp [Judgement.immediate?, verdict] at found
  rw [← found]
  rfl

theorem severity_of_waiting {target : String} (found : judgement.waiting? = some (target, finding)) :
    finding.severity = judgement.rule.severity := by
  cases verdict : judgement.verdict <;> simp [Judgement.waiting?, verdict] at found
  rw [← found.2]
  rfl

/-- A finding comes from a judgement of its severity that is no clean one. -/
theorem exists_judgement_of_mem_settle {judgements : List Judgement}
    (member : finding ∈ settle judgements) :
    ∃ judgement ∈ judgements, judgement.verdict ≠ .clean ∧
      finding.severity = judgement.rule.severity := by
  rw [settle, List.mem_append] at member
  rcases member with atOnce | late
  · obtain ⟨judgement, judged, found⟩ := List.mem_filterMap.1 atOnce
    refine ⟨judgement, judged, ?_, severity_of_immediate found⟩
    intro clean
    simp [Judgement.immediate?, clean] at found
  · obtain ⟨⟨target, waited⟩, kept, rfl⟩ := List.mem_map.1 late
    obtain ⟨judgement, judged, found⟩ := List.mem_filterMap.1 (List.mem_filter.1 kept).1
    refine ⟨judgement, judged, ?_, severity_of_waiting found⟩
    intro clean
    simp [Judgement.waiting?, clean] at found

theorem mem_settle_of_report {judgements : List Judgement} (judged : judgement ∈ judgements)
    (reported : judgement.verdict = .report message) :
    judgement.rule.finding message (some judgement.line) ∈ settle judgements := by
  rw [settle, List.mem_append]
  left
  apply List.mem_filterMap.2
  exact ⟨judgement, judged, by simp [Judgement.immediate?, reported]⟩

end Findings

variable {document : Document} {policy : Policy}

theorem mem_judgements_iff {rules : List Rule} {judgement : Judgement} :
    judgement ∈ judgements document policy rules ↔
      ∃ place ∈ document.root.places, ∃ rule ∈ rules, rule.inspects place = true ∧
        ⟨rule, place.tree.line, rule.check document policy place⟩ = judgement := by
  simp [judgements, judgementsAt, and_assoc]

theorem exists_place_iff {root : Tree} {good : Tree → Prop} :
    (∃ place ∈ root.places, good place.tree) ↔ ∃ node ∈ root.preorder, good node := by
  rw [← root.nodes_eq_preorder, Tree.nodes]
  constructor
  · rintro ⟨place, visited, holds⟩
    exact ⟨place.tree, List.mem_map_of_mem visited, holds⟩
  · rintro ⟨node, visited, holds⟩
    obtain ⟨place, present, rfl⟩ := List.mem_map.1 visited
    exact ⟨place, present, holds⟩

/-- Some finding is an error if and only if some node is blocked. -/
theorem exists_error_iff :
    (∃ finding ∈ settle (judgements document policy Rule.standard), finding.isError = true) ↔
      ∃ node ∈ document.root.preorder, Blocked document policy node := by
  rw [← exists_place_iff]
  constructor
  · rintro ⟨finding, found, error⟩
    obtain ⟨judgement, judged, unclean, severity⟩ := exists_judgement_of_mem_settle found
    obtain ⟨place, visited, rule, member, inspected, rfl⟩ := mem_judgements_iff.1 judged
    have blocking : rule ∈ Rule.blocking := by
      refine Rule.mem_blocking_iff.2 ⟨member, ?_⟩
      rw [← severity]
      simpa [Finding.isError] using error
    rcases Rule.clean_or_report_of_mem_blocking blocking document policy place with clean | ⟨_, said⟩
    · exact absurd clean unclean
    · rw [Rule.check_of_mem_blocking blocking] at said
      exact ⟨place, visited, rule, blocking, inspected, _, said⟩
  · rintro ⟨place, visited, rule, blocking, inspected, message, said⟩
    obtain ⟨member, severity⟩ := Rule.mem_blocking_iff.1 blocking
    rw [← Rule.check_of_mem_blocking blocking] at said
    have judged : ⟨rule, place.tree.line, rule.check document policy place⟩ ∈
        judgements document policy Rule.standard :=
      mem_judgements_iff.2 ⟨place, visited, rule, member, inspected, rfl⟩
    refine ⟨_, mem_settle_of_report judged said, ?_⟩
    simpa [Finding.isError, Rule.finding] using severity

theorem hasErrors_iff :
    document.hasErrors = true ↔ ∃ node ∈ document.root.preorder, node.isKind .error = true := by
  simp [Document.hasErrors, Tree.hasError]

theorem isValid_reviewDocument_iff :
    (reviewDocument document policy Rule.standard).isValid = true ↔
      ∀ node ∈ document.root.preorder, ¬Refused document policy node := by
  rw [reviewDocument]
  by_cases erroneous : document.hasErrors = true
  · rw [if_pos erroneous]
    obtain ⟨node, visited, error⟩ := hasErrors_iff.1 erroneous
    constructor
    · intro valid
      simp [Report.isValid, parseFailure, Finding.isError] at valid
    · intro allowed
      exact absurd (.inl error) (allowed node visited)
  · rw [if_neg erroneous]
    have sound : ∀ node ∈ document.root.preorder, ¬node.isKind .error = true := by
      intro node visited error
      exact erroneous (hasErrors_iff.2 ⟨node, visited, error⟩)
    constructor
    · intro valid node visited refused
      rcases refused with error | blocked
      · exact sound node visited error
      · obtain ⟨finding, found, error⟩ := exists_error_iff.2 ⟨node, visited, blocked⟩
        simp only [Report.isValid, Bool.not_eq_true', List.any_eq_false] at valid
        exact valid finding found error
    · intro allowed
      simp only [Report.isValid, Bool.not_eq_true', List.any_eq_false]
      intro finding found error
      obtain ⟨node, visited, blocked⟩ := exists_error_iff.1 ⟨finding, found, error⟩
      exact allowed node visited (.inr blocked)

theorem isValid_review_iff (parse : Parse) (source : String) (policy : Policy) :
    (review parse source policy Rule.standard).isValid = true ↔
      ∀ node ∈ (parse (Preamble.split source).body).preorder,
        ¬Refused (.read parse (Preamble.split source).body) policy node :=
  isValid_reviewDocument_iff

end ComponentGate
