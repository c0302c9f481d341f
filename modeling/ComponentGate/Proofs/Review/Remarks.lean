import ComponentGate.Proofs.Review.Validity

/-! Remarks: what the rules say of a place at once. The findings of a kind whose rules never wait for a
label are the remarks of these rules, in the order of the walk. -/

namespace ComponentGate

open Syntax

/-- The document as which a source is reviewed: what stands behind its preamble. -/
def Document.ofSource (parse : Parse) (source : String) : Document :=
  .read parse (Preamble.split source).body

theorem review_eq (parse : Parse) (source : String) (policy : Policy) (rules : List Rule) :
    review parse source policy rules = reviewDocument (.ofSource parse source) policy rules := rfl

/-- What a rule says at once of a place. -/
def Rule.message? (rule : Rule) (document : Document) (policy : Policy) (place : Place) :
    Option String :=
  if rule.inspects place then
    match rule.check document policy place with
    | .report message => some message
    | _ => none
  else none

/-- A finding tells its message before its line. -/
theorem Rule.prefix_message_finding (rule : Rule) (message : String) (line : Nat) :
    message.toList <+: (rule.finding message (some line)).message.toList := by
  have told : (rule.finding message (some line)).message =
      message ++ " (line " ++ toString line ++ ")" := rfl
  rw [told]
  simp only [String.toList_append, List.append_assoc]
  exact List.prefix_append _ _

def Rule.remark? (rule : Rule) (document : Document) (policy : Policy) (place : Place) :
    Option Finding :=
  (rule.message? document policy place).map fun message =>
    rule.finding message (some place.tree.line)

def remarks (document : Document) (policy : Policy) (rules : List Rule) (place : Place) :
    List Finding :=
  rules.filterMap fun rule => rule.remark? document policy place

section Places

variable {document : Document} {policy : Policy} {rules : List Rule} {rule : Rule} {place : Place}

theorem message_eq_some_iff {message : String} :
    rule.message? document policy place = some message ↔
      rule.inspects place = true ∧ rule.check document policy place = .report message := by
  rw [Rule.message?]
  by_cases inspected : rule.inspects place = true
  · cases said : rule.check document policy place <;> simp [inspected]
  · simp [inspected]

theorem remark_eq_none_iff :
    rule.remark? document policy place = none ↔
      (rule.inspects place = true →
        ∀ message, rule.check document policy place ≠ .report message) := by
  rw [Rule.remark?, Option.map_eq_none_iff, Option.eq_none_iff_forall_ne_some]
  simp only [ne_eq, message_eq_some_iff, not_and]
  exact forall_comm

theorem filterMap_immediate_judgementsAt :
    (judgementsAt document policy rules place).filterMap Judgement.immediate? =
      remarks document policy rules place := by
  rw [judgementsAt, List.filterMap_map, remarks, List.filterMap_filter]
  apply List.filterMap_congr
  intro rule _
  simp only [Function.comp, Judgement.immediate?, Rule.remark?, Rule.message?]
  split
  · cases rule.check document policy place <;> rfl
  · rfl

theorem filterMap_immediate_judgements :
    (judgements document policy rules).filterMap Judgement.immediate? =
      document.root.places.flatMap (remarks document policy rules) := by
  rw [judgements, List.filterMap_flatMap]
  simp only [filterMap_immediate_judgementsAt]

/-- A choice among findings that is a choice among rules chooses the remarks of these rules. -/
theorem filter_remarks {chosen : Finding → Bool} {kept : Rule → Bool}
    (agree : ∀ rule message line, chosen (Rule.finding rule message line) = kept rule) :
    (remarks document policy rules place).filter chosen =
      remarks document policy (rules.filter kept) place := by
  rw [remarks, remarks, List.filter_filterMap, List.filterMap_filter]
  apply List.filterMap_congr
  intro rule _
  cases said : rule.message? document policy place <;>
    simp [Rule.remark?, said, Option.filter, agree]

/-- Where the chosen rules never wait for a label, the findings of their kind are their remarks. -/
theorem filter_findings {chosen : Finding → Bool} {kept : Rule → Bool}
    (agree : ∀ rule message line, chosen (Rule.finding rule message line) = kept rule)
    (prompt : ∀ rule ∈ rules, kept rule = true → ∀ place target message,
      rule.check document policy place ≠ .unlessLabelled target message)
    (readable : document.hasErrors = false) :
    (reviewDocument document policy rules).findings.filter chosen =
      document.root.places.flatMap (remarks document policy (rules.filter kept)) := by
  have none : ∀ entry ∈ (judgements document policy rules).filterMap Judgement.waiting?,
      chosen entry.2 = false := by
    intro entry member
    obtain ⟨judgement, judged, found⟩ := List.mem_filterMap.1 member
    obtain ⟨place, -, rule, listed, -, rfl⟩ := mem_judgements_iff.1 judged
    rw [Judgement.waiting?] at found
    split at found
    · rename_i target message verdict
      obtain rfl := Option.some.inj found
      rw [agree, Bool.eq_false_iff]
      intro picked
      exact prompt rule listed picked place target message verdict
    · cases found
  have late : ((((judgements document policy rules).filterMap Judgement.waiting?).filter fun entry =>
      !((judgements document policy rules).filterMap Judgement.labelled?).contains entry.1).map
        (·.2)).filter chosen = [] := by
    apply List.filter_eq_nil_iff.2
    intro finding member
    obtain ⟨entry, kept, rfl⟩ := List.mem_map.1 member
    simp [none entry (List.mem_filter.1 kept).1]
  simp only [reviewDocument, readable, Bool.false_eq_true, if_false, settle]
  rw [List.filter_append, late, List.append_nil, filterMap_immediate_judgements, List.filter_flatMap]
  simp only [filter_remarks agree]

/-- A blocking rule says of a place what it says of the node there. -/
theorem remarks_blocking :
    remarks document policy Rule.blocking place =
      remarks document policy Rule.blocking (.ofRoot place.tree) := by
  apply List.filterMap_congr
  intro rule member
  simp only [Rule.remark?, Rule.message?, Rule.check_of_mem_blocking member document policy place]
  rfl

end Places

/-- What the blocking rules have against a node. -/
def objections (document : Document) (policy : Policy) (node : Tree) : List Finding :=
  remarks document policy Rule.blocking (.ofRoot node)

section Objections

variable {document : Document} {policy : Policy} {node : Tree}

theorem objections_eq_nil_iff :
    objections document policy node = [] ↔ ¬Blocked document policy node := by
  simp only [objections, remarks, List.filterMap_eq_nil_iff, remark_eq_none_iff, Blocked, not_exists,
    not_and]
  exact Iff.rfl

theorem flatMap_places (root : Tree) (f : Tree → List α) :
    (root.places.flatMap fun place => f place.tree) = root.preorder.flatMap f := by
  rw [← root.nodes_eq_preorder, Tree.nodes, List.flatMap_map]

/-- The errors of a text that can be read are what the blocking rules have against its nodes. -/
theorem filter_isError_findings (readable : document.hasErrors = false) :
    (reviewDocument document policy Rule.standard).findings.filter Finding.isError =
      document.root.preorder.flatMap (objections document policy) := by
  have prompt : ∀ rule ∈ Rule.standard, (rule.severity == .error) = true →
      ∀ place target message, rule.check document policy place ≠ .unlessLabelled target message := by
    intro rule member blocks place target message waits
    have blocking := Rule.mem_blocking_iff.2 ⟨member, by simpa using blocks⟩
    rcases Rule.clean_or_report_of_mem_blocking blocking document policy place with clean | ⟨_, said⟩
    · rw [clean] at waits
      cases waits
    · rw [said] at waits
      cases waits
  rw [filter_findings (fun _ _ _ => rfl) prompt readable, ← flatMap_places]
  exact List.flatMap_congr fun place _ => remarks_blocking

end Objections

end ComponentGate
