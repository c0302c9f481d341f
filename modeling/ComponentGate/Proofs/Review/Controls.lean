import ComponentGate.Proofs.Review.Order

/-! Controls without a label. One walk collects the controls that labels name and puts off the verdict on
those that a label may still name. What it finds is what two passes over the text find: the first for all
that labels name, the second for the controls. The walk takes the second named part of an attribute for its
value and braces in a tag for a spread; a comment can be that part, and braces may hold something else. -/

namespace ComponentGate

open Syntax

/-- The attribute of a name. Of several the last one counts. -/
def Document.lastAttribute? (document : Document) (element : Tree) (name : String) : Option Tree :=
  (element.openingTag.namedChildren.filter fun child =>
    child.isKind .markupAttribute && child.namedChildren.head?.map document.text == some name).getLast?

/-- How the parts of a tag are read: the literal that an attribute is set to, and whether braces spread a
value over the tag. -/
structure Reading where
  value? : Tree → Option String
  spreads : Tree → Bool

namespace Document

/-- The reading of the walk. -/
def seen (document : Document) : Reading := ⟨document.attributeValue?, fun _ => true⟩

/-- The reading of the text: comments aside, and with nothing taken for a spread that is none. -/
def written (document : Document) : Reading where
  value? given := given.significantChildren[1]?.bind document.stringValue?
  spreads braces := braces.children.any (·.isKind .spreadElement)

/-- Whether no comment stands in an attribute and all braces in a tag hold a spread. -/
def Legible (document : Document) : Prop :=
  ∀ node ∈ document.root.preorder,
    (node.isKind .markupAttribute = true → ∀ part ∈ node.children, part.isComment = false) ∧
    (node.isElement = true → ∀ part ∈ node.openingTag.namedChildren,
      part.isKind .markupExpression = true → document.written.spreads part = true)

instance (document : Document) : Decidable document.Legible :=
  inferInstanceAs (Decidable (∀ node ∈ _, _))

end Document

namespace Rule

def labelMessage (tag : String) : String :=
  s!"<{tag}> should have an associated label, aria-label or aria-labelledby"

end Rule

/-- Whether a finding is a warning on a control without a label. -/
def Finding.isLabelWarning (finding : Finding) : Bool :=
  finding.severity == .warning && finding.category == .accessibility &&
    Rule.formControls.any fun tag => (Rule.labelMessage tag).toList.isPrefixOf finding.message.toList

/-- The warning on the control at a place. -/
def Document.labelWarning (document : Document) (place : Place) : Finding :=
  Rule.formControlLabel.finding (Rule.labelMessage ((document.tagName? place.tree).getD ""))
    (some place.tree.line)

namespace Reading

variable (reading : Reading) (document : Document)

/-- The literal that an element's attribute of a name is set to. -/
def given? (element : Tree) (name : String) : Option String :=
  (document.lastAttribute? element name).bind reading.value?

def filled? (element : Tree) (name : String) : Option String :=
  (reading.given? document element name).filter (· ≠ "")

def hasSpread (element : Tree) : Bool :=
  element.openingTag.namedChildren.any fun part =>
    part.isKind .markupExpression && reading.spreads part

/-- The control that a node names if it is a label. -/
def target? (node : Tree) : Option String :=
  if node.isElement && document.tagName? node == some "label" then
    reading.filled? document node "htmlFor"
  else none

/-- The controls that labels name: the first pass. -/
def targets : List String := document.root.preorder.filterMap (reading.target? document)

/-- Whether a control stands at a place that is neither named by itself nor inside a label. -/
def isBare (place : Place) : Bool :=
  place.tree.isElement && (document.tagName? place.tree).any Rule.formControls.contains &&
    !reading.hasSpread place.tree &&
    !(document.tagName? place.tree == some "input" &&
      (reading.given? document place.tree "type").any Rule.unlabelledInputTypes.contains) &&
    !(Rule.labelAttributes.any fun name => (document.lastAttribute? place.tree name).isSome) &&
    !document.isInsideLabel place

/-- Whether no label names the control at a place. -/
def isUnnamed (place : Place) : Bool :=
  !(reading.filled? document place.tree "id").any (reading.targets document).contains

/-- The controls without a label that have an `id` that a label could name, or have none: the second
pass. -/
def unlabelled (identified : Bool) : List Place :=
  document.root.places.filter fun place =>
    reading.isBare document place && reading.isUnnamed document place &&
      (reading.filled? document place.tree "id").isSome == identified

/-- Whether findings have exactly one warning for each control without a label, and those on controls that a
label could name behind all else. -/
structure Settles (findings : List Finding) : Prop where
  warnings : findings.filter Finding.isLabelWarning =
    (reading.unlabelled document false ++ reading.unlabelled document true).map document.labelWarning
  last : ∃ others, findings = others ++ (reading.unlabelled document true).map document.labelWarning

end Reading

section Verdicts

variable {document : Document} {policy : Policy} {place : Place}

theorem attribute_eq_last (document : Document) (element : Tree) (name : String) :
    document.attribute? element name = document.lastAttribute? element name := by
  have own : ((element.openingTag.namedChildren.filterMap (Document.attributes.named? document)).filter
      (·.1 == name)) = (element.openingTag.namedChildren.filter fun child =>
        child.isKind .markupAttribute &&
          child.namedChildren.head?.map document.text == some name).map fun child => (name, child) := by
    rw [List.filter_filterMap, ← List.filterMap_eq_map, List.filterMap_filter]
    refine List.filterMap_congr fun child _ => ?_
    rw [Document.attributes.named?]
    cases child.isKind .markupAttribute with
    | false => rfl
    | true =>
      cases child.namedChildren.head? with
      | none => rfl
      | some first => by_cases same : document.text first = name <;> simp [same, Option.filter]
  rw [Document.attribute?, Document.attributes, Entries.get?_ofPairs, own, List.getLast?_map,
    Option.map_map]
  exact Option.map_id'

theorem hasAttribute_eq (document : Document) (element : Tree) (names : List String) :
    Rule.hasAttribute document element names =
      names.any fun name => (document.lastAttribute? element name).isSome := by
  rw [Rule.hasAttribute, Entries.any_contains]
  simp only [← attribute_eq_last]
  rfl

theorem hasSpread_seen (element : Tree) : document.seen.hasSpread element = element.hasSpread := by
  simp [Reading.hasSpread, Document.seen, Tree.hasSpread]

theorem given_seen (element : Tree) (name : String) :
    document.seen.given? document element name =
      (document.attribute? element name).bind document.attributeValue? := by
  rw [attribute_eq_last]
  rfl

theorem literal_seen (element : Tree) (name : String) :
    Rule.literal? document element name = document.seen.filled? document element name := by
  rw [Rule.literal?, ← given_seen]
  rfl

theorem ite_gates (listed spread exempt named inside : Bool) (verdict : Verdict) :
    (if (!listed || spread) = true then .clean
      else if exempt = true then .clean
      else if (named || inside) = true then .clean
      else verdict) =
      if (listed && !spread && !exempt && !named && !inside) = true then verdict else .clean := by
  cases listed <;> cases spread <;> cases exempt <;> cases named <;> cases inside <;> rfl

/-- What the walk takes for a label, and for a control that needs one. -/
theorem verdict_seen :
    Rule.formControlLabel.verdict document policy place =
      if document.seen.isBare document place then
        match document.seen.filled? document place.tree "id" with
        | some target =>
          .unlessLabelled target (Rule.labelMessage ((document.tagName? place.tree).getD ""))
        | none => .report (Rule.labelMessage ((document.tagName? place.tree).getD ""))
      else
        match document.seen.target? document place.tree with
        | some target => .labels target
        | none => .clean := by
  have inspected : Rule.formControlLabel.inspects place = place.tree.isElement := rfl
  rw [Rule.verdict, inspected, Reading.isBare, Reading.target?]
  cases place.tree.isElement with
  | false => rfl
  | true =>
    simp only [Rule.formControlLabel, if_true, Bool.true_and]
    cases document.tagName? place.tree with
    | none => rfl
    | some tag =>
      by_cases label : tag = "label"
      · subst label
        simp only [literal_seen]
        rfl
      · simp only [beq_iff_eq, label, if_false, Rule.judgeControl, hasSpread_seen,
          hasAttribute_eq, Rule.isExempt, ← given_seen, literal_seen, Option.any_some,
          Option.some_beq_some, Option.getD_some, Rule.labelMessage]
        exact ite_gates _ _ _ _ _ _

/-- A remark is what a verdict says at once. -/
theorem remark_eq (rule : Rule) :
    rule.remark? document policy place =
      Judgement.immediate? ⟨rule, place.tree.line, rule.verdict document policy place⟩ := by
  rw [Rule.remark?, Rule.message?, Rule.verdict, Judgement.immediate?]
  cases rule.inspects place with
  | false => rfl
  | true => cases rule.check document policy place <;> rfl

theorem standard_accessibility :
    (Rule.standard.filter fun rule => rule.severity == .warning && rule.category == .accessibility) =
      [.clickableWithoutKeyboard, .imgAlt, .formControlLabel] := rfl

/-- How the messages of the other rules on elements begin. -/
def otherOpenings : List String := ["<div", "<span", "<img", "<area"]

/-- What begins as another rule's message is no warning on a control. -/
theorem not_isLabelWarning_of_opening {rule : Rule} {message opening : String} {line : Nat}
    (other : opening ∈ otherOpenings) (opens : opening.toList <+: message.toList) :
    (rule.finding message (some line)).isLabelWarning = false := by
  have apart : ∀ opening ∈ otherOpenings, ∀ tag ∈ Rule.formControls,
      opening.toList.length ≤ (Rule.labelMessage tag).toList.length ∧
        ¬opening.toList <+: (Rule.labelMessage tag).toList := by decide +kernel
  rw [Finding.isLabelWarning, Bool.and_eq_false_iff]
  right
  rw [List.any_eq_false]
  intro tag listed warned
  obtain ⟨shorter, different⟩ := apart opening other tag listed
  rw [List.isPrefixOf_iff_prefix] at warned
  exact different (List.prefix_of_prefix_length_le
    (opens.trans (rule.prefix_message_finding message line)) warned shorter)

theorem opens_of_clickable {element : Element} {message : String}
    (said : element.clickable? = some message) :
    ∃ opening ∈ otherOpenings, opening.toList <+: message.toList := by
  rw [Element.clickable?] at said
  split at said
  · rename_i tag _
    obtain ⟨shown, same⟩ := Option.ite_none_right_eq_some.1 said
    obtain rfl := Option.some.inj same
    simp only [Bool.and_eq_true, List.contains_iff_mem, List.mem_cons, List.not_mem_nil, or_false] at shown
    rcases shown.1.1 with rfl | rfl
    · exact ⟨"<div", by decide, by decide +kernel⟩
    · exact ⟨"<span", by decide, by decide +kernel⟩
  · cases said

theorem opens_of_picture {element : Element} {message : String}
    (said : element.picture? = some message) :
    ∃ opening ∈ otherOpenings, opening.toList <+: message.toList := by
  rw [Element.picture?] at said
  split at said
  · rename_i tag _
    obtain ⟨shown, same⟩ := Option.ite_none_right_eq_some.1 said
    obtain rfl := Option.some.inj same
    simp only [Bool.and_eq_true, List.contains_iff_mem, List.mem_cons, List.not_mem_nil, or_false] at shown
    rcases shown.1.1 with rfl | rfl
    · exact ⟨"<img", by decide, by decide +kernel⟩
    · exact ⟨"<area", by decide, by decide +kernel⟩
  · cases said

theorem exists_element_of_report {seen? : Option Element} {said : Element → Option String}
    {message : String}
    (verdict : (seen?.elim Verdict.clean fun element => .ofMessage? (said element)) = .report message) :
    ∃ element, said element = some message := by
  cases seen? with
  | none => cases verdict
  | some element =>
    refine ⟨element, ?_⟩
    cases told : said element with
    | none =>
      rw [Option.elim_some, told] at verdict
      cases verdict
    | some own =>
      rw [Option.elim_some, told] at verdict
      rw [Verdict.report.inj verdict]

/-- No other rule warns as the rule on controls does. -/
theorem eq_formControlLabel_of_warned {rule : Rule} {finding : Finding} (member : rule ∈ Rule.standard)
    (said : rule.remark? document policy place = some finding)
    (warned : finding.isLabelWarning = true) : rule = Rule.formControlLabel := by
  obtain ⟨message, told, rfl⟩ := Option.map_eq_some_iff.1 said
  obtain ⟨inspected, reports⟩ := message_eq_some_iff.1 told
  have verdict : rule.verdict document policy place = .report message := by
    rw [Rule.verdict, if_pos inspected, reports]
  have accessible : rule ∈ Rule.standard.filter fun rule =>
      rule.severity == .warning && rule.category == .accessibility := by
    refine List.mem_filter.2 ⟨member, ?_⟩
    rw [Finding.isLabelWarning, Bool.and_eq_true] at warned
    exact warned.1
  have silent : ¬∃ opening ∈ otherOpenings, opening.toList <+: message.toList := by
    rintro ⟨opening, other, opens⟩
    rw [not_isLabelWarning_of_opening other opens] at warned
    cases warned
  rw [standard_accessibility] at accessible
  simp only [List.mem_cons, List.not_mem_nil, or_false] at accessible
  rcases accessible with rfl | rfl | rfl
  · rw [verdict_clickable] at verdict
    obtain ⟨element, own⟩ := exists_element_of_report verdict
    exact absurd (opens_of_clickable own) silent
  · rw [verdict_picture] at verdict
    obtain ⟨element, own⟩ := exists_element_of_report verdict
    exact absurd (opens_of_picture own) silent
  · rfl

theorem exists_tag_of_isBare (bare : document.seen.isBare document place = true) :
    ∃ tag, document.tagName? place.tree = some tag ∧ tag ∈ Rule.formControls := by
  simp only [Reading.isBare, Bool.and_eq_true, Option.any_eq_true, List.contains_iff_mem] at bare
  obtain ⟨⟨⟨⟨⟨-, tag⟩, -⟩, -⟩, -⟩, -⟩ := bare
  exact tag

theorem isLabelWarning_of_isBare (bare : document.seen.isBare document place = true) :
    (document.labelWarning place).isLabelWarning = true := by
  obtain ⟨tag, named, listed⟩ := exists_tag_of_isBare bare
  have accessible : (Rule.formControlLabel.severity == .warning &&
      Rule.formControlLabel.category == .accessibility) = true := rfl
  rw [Finding.isLabelWarning, Bool.and_eq_true]
  refine ⟨accessible, List.any_eq_true.2 ⟨tag, listed, ?_⟩⟩
  rw [List.isPrefixOf_iff_prefix, Document.labelWarning, named, Option.getD_some]
  exact Rule.formControlLabel.prefix_message_finding _ _

/-- What is told of none of the other rules is told of the rule on controls. -/
theorem filterMap_standard {told : Rule → Option α}
    (silent : ∀ rule ∈ Rule.standard, rule ≠ Rule.formControlLabel → told rule = none) :
    Rule.standard.filterMap told = (told Rule.formControlLabel).toList := by
  have last : Rule.standard = Rule.standard.dropLast ++ [Rule.formControlLabel] := rfl
  have others : Rule.standard.dropLast.filterMap told = [] := by
    have apart : ∀ rule ∈ Rule.standard.dropLast, rule.name ≠ Rule.formControlLabel.name := by decide
    refine List.filterMap_eq_nil_iff.2 fun rule member => ?_
    exact silent rule ((List.dropLast_sublist _).subset member) fun same => apart rule member (same ▸ rfl)
  rw [last, List.filterMap_append, others, List.nil_append, List.filterMap_cons, List.filterMap_nil]
  cases told Rule.formControlLabel <;> rfl

theorem filter_remarks_standard :
    (remarks document policy Rule.standard place).filter Finding.isLabelWarning =
      if document.seen.isBare document place &&
          (document.seen.filled? document place.tree "id").isNone then
        [document.labelWarning place]
      else [] := by
  rw [remarks, List.filter_filterMap, filterMap_standard]
  · rw [remark_eq, verdict_seen]
    by_cases bare : document.seen.isBare document place = true
    · have warned := isLabelWarning_of_isBare bare
      rw [if_pos bare, bare, Bool.true_and]
      cases document.seen.filled? document place.tree "id" with
      | none => exact congrArg Option.toList (Option.filter_some_pos warned)
      | some target => rfl
    · rw [if_neg bare, Bool.eq_false_iff.2 bare]
      cases document.seen.target? document place.tree <;> rfl
  · intro rule member other
    rw [Option.filter_eq_none_iff]
    intro finding said warned
    exact other (eq_formControlLabel_of_warned member said warned)

theorem filterMap_linked (told : Judgement → Option α)
    (silent : ∀ rule line message?, told ⟨rule, line, .ofMessage? message?⟩ = none) :
    (judgementsAt document policy Rule.standard place).filterMap told =
      (told ⟨Rule.formControlLabel, place.tree.line,
        Rule.formControlLabel.verdict document policy place⟩).toList := by
  rw [filterMap_verdicts _ _ _ fun rule line => silent rule line none, filterMap_standard]
  intro rule member other
  obtain ⟨message?, said⟩ := @exists_ofMessage document policy _ member other place
  rw [said, silent]

/-- A control is no label. -/
theorem target_of_isBare (bare : document.seen.isBare document place = true) :
    document.seen.target? document place.tree = none := by
  obtain ⟨tag, named, listed⟩ := exists_tag_of_isBare bare
  have other : (document.tagName? place.tree == some "label") = false := by
    rw [named, beq_eq_false_iff_ne]
    rintro ⟨⟩
    revert listed
    decide
  rw [Reading.target?, other, Bool.and_false]
  rfl

theorem labelled_verdict :
    Judgement.labelled? ⟨Rule.formControlLabel, place.tree.line,
      Rule.formControlLabel.verdict document policy place⟩ =
      document.seen.target? document place.tree := by
  rw [verdict_seen]
  by_cases bare : document.seen.isBare document place = true
  · rw [if_pos bare, target_of_isBare bare]
    cases document.seen.filled? document place.tree "id" <;> rfl
  · rw [if_neg bare]
    cases document.seen.target? document place.tree <;> rfl

theorem waiting_verdict :
    Judgement.waiting? ⟨Rule.formControlLabel, place.tree.line,
      Rule.formControlLabel.verdict document policy place⟩ =
      if document.seen.isBare document place then
        (document.seen.filled? document place.tree "id").map (·, document.labelWarning place)
      else none := by
  rw [verdict_seen]
  by_cases bare : document.seen.isBare document place = true
  · rw [if_pos bare, if_pos bare]
    cases document.seen.filled? document place.tree "id" <;> rfl
  · rw [if_neg bare, if_neg bare]
    cases document.seen.target? document place.tree <;> rfl

end Verdicts

section Passes

variable {document : Document} {policy : Policy}

/-- The walk collects what the first pass finds. -/
theorem labelledControls_standard :
    labelledControls document policy Rule.standard = document.seen.targets document := by
  have own (place : Place) : (judgementsAt document policy Rule.standard place).filterMap
      Judgement.labelled? = (document.seen.target? document place.tree).toList := by
    rw [filterMap_linked _ fun rule line message? => (judgement_ofMessage rule line message?).2.2,
      labelled_verdict]
  rw [labelledControls, judgements, List.filterMap_flatMap, Reading.targets,
    List.filterMap_eq_flatMap_toList]
  simp only [own]
  exact flatMap_places _ fun node => (document.seen.target? document node).toList

theorem deferredAt_standard (place : Place) :
    deferredAt document policy Rule.standard place =
      if document.seen.isBare document place && document.seen.isUnnamed document place &&
          (document.seen.filled? document place.tree "id").isSome == true then
        [document.labelWarning place]
      else [] := by
  rw [deferredAt, filterMap_linked _ fun rule line message? =>
    (judgement_ofMessage rule line message?).2.1, waiting_verdict, labelledControls_standard]
  cases document.seen.isBare document place with
  | false => rfl
  | true =>
    rw [Reading.isUnnamed]
    cases document.seen.filled? document place.tree "id" with
    | none => rfl
    | some target =>
      by_cases named : target ∈ document.seen.targets document <;> simp [named]

theorem deferred_standard :
    deferred document policy Rule.standard =
      (document.seen.unlabelled document true).map document.labelWarning := by
  rw [deferred, Reading.unlabelled, ← flatMap_ite]
  exact List.flatMap_congr fun place _ => deferredAt_standard place

theorem filter_collected_standard :
    (collected document policy Rule.standard).filter Finding.isLabelWarning =
      (document.seen.unlabelled document false).map document.labelWarning := by
  rw [collected, List.filter_flatMap, Reading.unlabelled, ← flatMap_ite]
  refine List.flatMap_congr fun place _ => ?_
  rw [filter_remarks_standard, Reading.isUnnamed]
  cases document.seen.filled? document place.tree "id" <;> simp

/-- As the walk reads tags, its warnings are those of two passes. -/
theorem settles_seen (readable : document.hasErrors = false) :
    document.seen.Settles document (reviewDocument document policy Rule.standard).findings where
  warnings := by
    have late : ((document.seen.unlabelled document true).map document.labelWarning).filter
        Finding.isLabelWarning =
          (document.seen.unlabelled document true).map document.labelWarning := by
      refine List.filter_eq_self.2 fun finding member => ?_
      obtain ⟨place, shown, rfl⟩ := List.mem_map.1 member
      have bare := (List.mem_filter.1 shown).2
      simp only [Bool.and_eq_true] at bare
      exact isLabelWarning_of_isBare bare.1.1
    rw [findings_eq readable, List.filter_append, filter_collected_standard, deferred_standard, late,
      List.map_append]
  last := ⟨collected document policy Rule.standard, by
    rw [findings_eq readable, deferred_standard]⟩

end Passes

section Legibility

variable {document : Document} (legible : document.Legible) {element : Tree}
  (visited : element ∈ document.root.preorder)

theorem mem_of_lastAttribute {given : Tree} {name : String}
    (found : document.lastAttribute? element name = some given) :
    given ∈ element.openingTag.children ∧ given.isKind .markupAttribute = true := by
  obtain ⟨child, own⟩ := List.mem_filter.1 (List.mem_of_getLast? found)
  rw [Bool.and_eq_true] at own
  exact ⟨(List.mem_filter.1 child).1, own.1⟩

include legible visited

theorem given_written (name : String) :
    document.written.given? document element name = document.seen.given? document element name := by
  rw [Reading.given?, Reading.given?]
  cases found : document.lastAttribute? element name with
  | none => rfl
  | some given =>
    obtain ⟨child, markup⟩ := mem_of_lastAttribute found
    have inside := Tree.mem_preorder_of_mem_children (Tree.openingTag_mem_preorder visited) child
    have plain : given.significantChildren = given.namedChildren := by
      refine List.filter_eq_self.2 fun part member => ?_
      rw [(legible given inside).1 markup part (List.mem_filter.1 member).1]
      rfl
    change given.significantChildren[1]?.bind document.stringValue? =
      given.namedChildren[1]?.bind document.stringValue?
    rw [plain]

theorem filled_written (name : String) :
    document.written.filled? document element name = document.seen.filled? document element name := by
  rw [Reading.filled?, Reading.filled?, given_written legible visited]

theorem target_written :
    document.written.target? document element = document.seen.target? document element := by
  rw [Reading.target?, Reading.target?, filled_written legible visited]

theorem hasSpread_written (shown : element.isElement = true) :
    document.written.hasSpread element = document.seen.hasSpread element := by
  rw [Reading.hasSpread, Reading.hasSpread, Bool.eq_iff_iff, List.any_eq_true, List.any_eq_true]
  refine exists_congr fun part => and_congr_right fun member => ?_
  cases braces : part.isKind .markupExpression with
  | false => rfl
  | true =>
    rw [(legible element visited).2 shown part member braces]
    rfl

end Legibility

/-- Where a text is legible, its controls are read as they are written. -/
theorem unlabelled_written {document : Document} (legible : document.Legible) (identified : Bool) :
    document.written.unlabelled document identified =
      document.seen.unlabelled document identified := by
  have targets : document.written.targets document = document.seen.targets document :=
    List.filterMap_congr fun node visited => target_written legible visited
  refine List.filter_congr fun place walked => ?_
  have visited : place.tree ∈ document.root.preorder := Place.mem_preorder_of_mem_walkWhere walked
  have filled := filled_written legible visited "id"
  have bare : document.written.isBare document place = document.seen.isBare document place := by
    rw [Reading.isBare, Reading.isBare, given_written legible visited]
    cases shown : place.tree.isElement with
    | false => rfl
    | true => rw [hasSpread_written legible visited shown]
  rw [bare, Reading.isUnnamed, Reading.isUnnamed, filled, targets]

/-- The warnings on controls without a label are exactly those of two passes over the text as the walk
reads it, and those on controls that a label could name come last. Where no comment stands in an attribute
and all braces in a tag hold a spread, they are those of the text as it is written. -/
theorem labelWarnings_in_two_passes (parse : Parse) (source : String) (policy : Policy)
    (readable : (Document.ofSource parse source).hasErrors = false) :
    (Document.ofSource parse source).seen.Settles (.ofSource parse source)
        (review parse source policy Rule.standard).findings ∧
      ((Document.ofSource parse source).Legible →
        (Document.ofSource parse source).written.Settles (.ofSource parse source)
          (review parse source policy Rule.standard).findings) := by
  have settled := @settles_seen (.ofSource parse source) policy readable
  refine ⟨settled, fun legible => ⟨?_, ?_⟩⟩
  · rw [unlabelled_written legible, unlabelled_written legible]
    exact settled.warnings
  · rw [unlabelled_written legible]
    exact settled.last

/-- A control without a label that has an `id`, one that has none, and one that is named behind it. -/
def crowdedForm : String :=
  "<p>\n<input id='a'/>\n<input/>\n<textarea id='b'/>\n<label htmlFor='b'/>\n</p>;\n"

theorem crowdedForm_settled :
    (review Syntax.parse crowdedForm .standard Rule.standard).findings.map Finding.line =
        [some 3, some 2] ∧
      (Document.ofSource Syntax.parse crowdedForm).written.Settles (.ofSource Syntax.parse crowdedForm)
        (review Syntax.parse crowdedForm .standard Rule.standard).findings := by
  -- evaluated together, so that the text is parsed once
  obtain ⟨readable, legible, lines⟩ :
      (Document.ofSource Syntax.parse crowdedForm).hasErrors = false ∧
      (Document.ofSource Syntax.parse crowdedForm).Legible ∧
      (review Syntax.parse crowdedForm .standard Rule.standard).findings.map Finding.line =
        [some 3, some 2] := by
    decide +kernel
  exact ⟨lines, (labelWarnings_in_two_passes _ _ .standard readable).2 legible⟩

/-- A control that a label names, with a comment before its `id`. -/
def commentedControl : String := "<p><label htmlFor='a'/><input id=/*c*/'a'/></p>;\n"

/-- A control without a label, with braces that spread nothing. -/
def bracedControl : String := "<p><input \x7bx\x7d/></p>;\n"

/-- A comment hides the `id` that a label names, and braces hide a control that no label names. -/
theorem illegibleControls_not_settled :
    ((Document.ofSource Syntax.parse commentedControl).hasErrors = false ∧
      ¬(Document.ofSource Syntax.parse commentedControl).written.Settles
        (.ofSource Syntax.parse commentedControl)
        (review Syntax.parse commentedControl .standard Rule.standard).findings) ∧
    (Document.ofSource Syntax.parse bracedControl).hasErrors = false ∧
      ¬(Document.ofSource Syntax.parse bracedControl).written.Settles
        (.ofSource Syntax.parse bracedControl)
        (review Syntax.parse bracedControl .standard Rule.standard).findings := by
  refine ⟨⟨by decide +kernel, fun settled => ?_⟩, by decide +kernel, fun settled => ?_⟩
  · have warnings := settled.warnings
    revert warnings
    decide +kernel
  · have warnings := settled.warnings
    revert warnings
    decide +kernel

end ComponentGate
