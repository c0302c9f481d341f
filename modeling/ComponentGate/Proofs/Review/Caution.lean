import ComponentGate.Proofs.Review.Concern
import Mathlib.Data.List.Induction

/-! Cautions. All that the warning rules can see of a place: a storage that is reached, markup that is
set raw, an element with its attributes. With the concern of its node it makes the scene of a place, and
a review is read off the scenes of its text. -/

namespace ComponentGate

open Syntax

namespace Entries

theorem get?_cons (entry : String × α) (rest : List (String × α)) (key : String) :
    get? (entry :: rest) key = if entry.1 = key then some entry.2 else get? rest key := by
  rw [get?, List.find?_cons]
  by_cases same : entry.1 = key
  · simp [same]
  · simp [same, get?, beq_eq_false_iff_ne.2 same]

theorem get?_append_singleton (entries : List (String × α)) (pair : String × α) (key : String) :
    get? (entries ++ [pair]) key =
      (get? entries key).or (if pair.1 = key then some pair.2 else none) := by
  induction entries with
  | nil => exact get?_cons pair [] key
  | cons entry rest ih =>
    rw [List.cons_append, get?_cons, get?_cons, ih]
    split <;> simp

theorem isSome_get? (entries : List (String × α)) (key : String) :
    (get? entries key).isSome = contains entries key := by
  induction entries with
  | nil => rfl
  | cons entry rest ih =>
    rw [get?_cons, contains, List.any_cons, ← contains, ← ih]
    by_cases same : entry.1 = key <;> simp [same]

theorem get?_overwritten (entries : List (String × α)) (key other : String) (value : α) :
    get? (entries.map fun entry => if entry.1 == key then (key, value) else entry) other =
      if key = other then (get? entries key).map fun _ => value else get? entries other := by
  induction entries with
  | nil => simp [get?]
  | cons entry rest ih =>
    rw [List.map_cons, get?_cons, get?_cons, get?_cons, ih]
    by_cases own : entry.1 = key
    · by_cases same : key = other <;> simp [own, same]
    · by_cases same : key = other
      · simp [own, ← same]
      · simp [own, same]

theorem get?_put (entries : List (String × α)) (key other : String) (value : α) :
    get? (put entries key value) other = if key = other then some value else get? entries other := by
  have known := isSome_get? entries key
  rw [put]
  split
  · rename_i kept
    rw [kept, Option.isSome_iff_exists] at known
    obtain ⟨old, found⟩ := known
    rw [get?_overwritten, found, Option.map_some]
  · rename_i missing
    rw [Bool.eq_false_iff.2 missing, Option.isSome_eq_false_iff, Option.isNone_iff_eq_none] at known
    rw [get?_append_singleton]
    by_cases same : key = other
    · simp [← same, known]
    · simp [same]

/-- The last of the pairs under a key gives it its value. -/
theorem get?_ofPairs (pairs : List (String × α)) (key : String) :
    get? (ofPairs pairs) key = ((pairs.filter (·.1 == key)).getLast?).map (·.2) := by
  induction pairs using List.reverseRecOn with
  | nil => rfl
  | append_singleton pairs pair ih =>
    have next : ofPairs (pairs ++ [pair]) = put (ofPairs pairs) pair.1 pair.2 := by
      simp [ofPairs]
    rw [next, get?_put, ih, List.filter_append]
    by_cases same : pair.1 = key <;> simp [same]

theorem any_contains (entries : List (String × α)) (keys : List String) :
    (entries.any fun entry => keys.contains entry.1) =
      keys.any fun key => (get? entries key).isSome := by
  simp only [isSome_get?, contains]
  rw [Bool.eq_iff_iff]
  simp only [List.any_eq_true, List.contains_iff_mem, beq_iff_eq]
  constructor
  · rintro ⟨entry, member, listed⟩
    exact ⟨entry.1, listed, entry, member, rfl⟩
  · rintro ⟨key, listed, entry, member, rfl⟩
    exact ⟨entry, member, listed⟩

theorem put_map (f : α → β) (entries : List (String × α)) (key : String) (value : α) :
    put (entries.map (Prod.map id f)) key (f value) = (put entries key value).map (Prod.map id f) := by
  have known : contains (entries.map (Prod.map id f)) key = contains entries key := by
    rw [contains, contains, List.any_map]
    rfl
  rw [put, put, known]
  by_cases kept : contains entries key = true
  · rw [if_pos kept, if_pos kept, List.map_map, List.map_map]
    refine List.map_congr_left fun entry _ => ?_
    simp only [Function.comp, Prod.map_fst, id]
    split <;> rfl
  · rw [if_neg kept, if_neg kept, List.map_append]
    rfl

theorem ofPairs_map (f : α → β) (pairs : List (String × α)) :
    ofPairs (pairs.map (Prod.map id f)) = (ofPairs pairs).map (Prod.map id f) := by
  suffices general : ∀ entries : List (String × α),
      (pairs.map (Prod.map id f)).foldl (fun kept pair => put kept pair.1 pair.2)
          (entries.map (Prod.map id f)) =
        (pairs.foldl (fun kept pair => put kept pair.1 pair.2) entries).map (Prod.map id f) from
    general []
  induction pairs with
  | nil => exact fun _ => rfl
  | cons pair rest ih =>
    intro entries
    rw [List.map_cons, List.foldl_cons, List.foldl_cons, ← ih, ← put_map]
    rfl

theorem get?_map (f : α → β) (entries : List (String × α)) (key : String) :
    get? (entries.map (Prod.map id f)) key = (get? entries key).map f := by
  rw [get?, get?, List.find?_map, Option.map_map, Option.map_map]
  rfl

end Entries

/-- What is told of each element that is shown. -/
theorem flatMap_ite (shown : α → Bool) (told : α → β) (list : List α) :
    (list.flatMap fun item => if shown item then [told item] else []) =
      (list.filter shown).map told := by
  induction list with
  | nil => rfl
  | cons item rest ih =>
    rw [List.flatMap_cons, ih, List.filter_cons]
    split <;> rfl

/-- An element as the rules on markup see it. -/
structure Element where
  tag : Option String
  /-- The attributes by name, with the values that are given as literal strings. -/
  given : List (String × Option String)
  spread : Bool
  /-- Whether a label stands around the element. -/
  isLabelled : Bool
  deriving DecidableEq, Repr

namespace Element

def has (element : Element) (names : List String) : Bool :=
  element.given.any fun entry => names.contains entry.1

/-- The literal value of an attribute. -/
def value? (element : Element) (name : String) : Option String :=
  (Entries.get? element.given name).bind id

def clickable? (element : Element) : Option String :=
  match element.tag with
  | some tag =>
    if ["div", "span"].contains tag && element.has ["onClick"] &&
        !element.has ("role" :: Rule.keyboardHandlers) then
      some s!"<{tag}> with onClick should have a keyboard handler (onKeyDown) or a role attribute"
    else none
  | none => none

def picture? (element : Element) : Option String :=
  match element.tag with
  | some tag =>
    if ["img", "area"].contains tag && !element.spread && !element.has ["alt"] then
      some s!"<{tag}> is missing an alt attribute"
    else none
  | none => none

def control (element : Element) (tag : String) : Verdict :=
  if !Rule.formControls.contains tag || element.spread then .clean
  else if tag == "input" && (element.value? "type").any Rule.unlabelledInputTypes.contains then .clean
  else if element.has Rule.labelAttributes || element.isLabelled then .clean
  else
    let message := s!"<{tag}> should have an associated label, aria-label or aria-labelledby"
    match (element.value? "id").filter (· ≠ "") with
    | some target => .unlessLabelled target message
    | none => .report message

def labelling (element : Element) : Verdict :=
  match element.tag with
  | some tag =>
    if tag == "label" then
      match (element.value? "htmlFor").filter (· ≠ "") with
      | some target => .labels target
      | none => .clean
    else element.control tag
  | none => .clean

end Element

structure Caution where
  /-- The storage that an access reaches. -/
  storage : Option String
  /-- Whether an attribute sets raw markup. -/
  bypasses : Bool
  element : Option Element
  deriving DecidableEq, Repr

def Caution.empty : Caution := ⟨none, false, none⟩

/-- The warning rules with what each of them says of a caution. -/
def Rule.cautions : List (Rule × (Caution → Verdict)) := [
  (storageAccess, fun caution => .ofMessage? (caution.storage.map fun name =>
    s!"{name} usage detected - ensure no sensitive data is stored")),
  (dangerousInnerHtml, fun caution => .ofMessage? (
    if caution.bypasses then
      some "dangerouslySetInnerHTML bypasses escaping - make sure the content is sanitized"
    else none)),
  (clickableWithoutKeyboard, fun caution =>
    caution.element.elim .clean fun element => .ofMessage? element.clickable?),
  (imgAlt, fun caution => caution.element.elim .clean fun element => .ofMessage? element.picture?),
  (formControlLabel, fun caution => caution.element.elim .clean Element.labelling)]

theorem Rule.standard_eq : standard = charges.map Prod.fst ++ cautions.map Prod.fst := rfl

namespace Document

def element (document : Document) (place : Place) : Element where
  tag := document.tagName? place.tree
  given := (document.attributes place.tree).map (Prod.map id document.attributeValue?)
  spread := place.tree.hasSpread
  isLabelled := document.isInsideLabel place

def caution (document : Document) (place : Place) : Caution where
  storage :=
    if place.tree.isOneOf Rule.accessKinds then Rule.storage? document place.tree else none
  bypasses := place.tree.isOneOf [.markupAttribute] &&
    place.tree.namedChildren.head?.map document.text == some "dangerouslySetInnerHTML"
  element := if place.tree.isOneOf elementKinds then some (document.element place) else none

end Document

/-- What a rule says of a place; of constructs that it does not inspect it says nothing. -/
def Rule.verdict (rule : Rule) (document : Document) (policy : Policy) (place : Place) : Verdict :=
  if rule.inspects place then rule.check document policy place else .clean

section Verdicts

variable {document : Document} {policy : Policy} {place : Place}

theorem has_element (names : List String) :
    (document.element place).has names = Rule.hasAttribute document place.tree names := by
  rw [Element.has, Document.element, List.any_map]
  rfl

theorem value_element (name : String) :
    (document.element place).value? name =
      (document.attribute? place.tree name).bind document.attributeValue? := by
  rw [Element.value?, Document.element, Entries.get?_map, Document.attribute?, Option.bind_map]
  rfl

theorem verdict_onNodes (name : String) (category : Category) (severity : Severity) (kinds : List Kind)
    (message? : Document → Tree → Option String) :
    (Rule.onNodes name category severity kinds message?).verdict document policy place =
      .ofMessage? (if place.tree.isOneOf kinds then message? document place.tree else none) := by
  rw [Rule.verdict, Rule.inspects, apply_ite Verdict.ofMessage?]
  rfl

theorem verdict_storage :
    Rule.storageAccess.verdict document policy place =
      .ofMessage? ((document.caution place).storage.map fun name =>
        s!"{name} usage detected - ensure no sensitive data is stored") := by
  rw [Rule.storageAccess, verdict_onNodes, Document.caution]
  split <;> rfl

theorem verdict_bypass :
    Rule.dangerousInnerHtml.verdict document policy place =
      .ofMessage? (if (document.caution place).bypasses then
        some "dangerouslySetInnerHTML bypasses escaping - make sure the content is sanitized"
      else none) := by
  rw [Rule.dangerousInnerHtml, verdict_onNodes, Document.caution]
  cases place.tree.isOneOf [.markupAttribute] <;> simp

/-- A rule on elements says of a place what it says of the element there. -/
theorem verdict_element {rule : Rule} {said : Element → Verdict} (kinds : rule.kinds = elementKinds)
    (agree : rule.check document policy place = said (document.element place)) :
    rule.verdict document policy place = (document.caution place).element.elim .clean said := by
  rw [Rule.verdict, Rule.inspects, kinds, Document.caution, agree]
  cases place.tree.isOneOf elementKinds <;> rfl

theorem verdict_clickable :
    Rule.clickableWithoutKeyboard.verdict document policy place =
      (document.caution place).element.elim .clean fun element => .ofMessage? element.clickable? := by
  refine verdict_element rfl ?_
  simp only [Element.clickable?, has_element]
  rfl

theorem verdict_picture :
    Rule.imgAlt.verdict document policy place =
      (document.caution place).element.elim .clean fun element => .ofMessage? element.picture? := by
  refine verdict_element rfl ?_
  simp only [Element.picture?, has_element]
  rfl

theorem verdict_labelling :
    Rule.formControlLabel.verdict document policy place =
      (document.caution place).element.elim .clean Element.labelling := by
  refine verdict_element rfl ?_
  simp only [Element.labelling, Element.control, has_element, value_element]
  rfl

theorem verdict_caution (member : entry ∈ Rule.cautions) :
    entry.1.verdict document policy place = entry.2 (document.caution place) := by
  simp only [Rule.cautions, List.mem_cons, List.not_mem_nil, or_false] at member
  rcases member with rfl | rfl | rfl | rfl | rfl
  · exact verdict_storage
  · exact verdict_bypass
  · exact verdict_clickable
  · exact verdict_picture
  · exact verdict_labelling

/-- What a blocking rule says of a place is what it says of the concern of the node there. -/
theorem verdict_charge (member : entry ∈ Rule.charges) :
    entry.1.verdict document policy place =
      .ofMessage? (entry.2 policy (document.sight place.tree).concern) := by
  have listed : entry.1 ∈ Rule.blocking := by
    rw [← Rule.map_charges]
    exact List.mem_map_of_mem member
  rw [← message_charge member, Rule.verdict, Rule.message?]
  simp only [Rule.check_of_mem_blocking listed document policy place]
  change (if entry.1.inspects (.ofRoot place.tree) then _ else _) = _
  split
  · rcases Rule.clean_or_report_of_mem_blocking listed document policy (.ofRoot place.tree) with
      clean | ⟨message, said⟩
    · rw [clean]
      rfl
    · rw [said]
      rfl
  · rfl

end Verdicts

/-- All that the rules see of a place. -/
structure Scene where
  concern : Concern
  caution : Caution
  line : Nat
  deriving DecidableEq, Repr

def Document.scene (document : Document) (place : Place) : Scene :=
  ⟨(document.sight place.tree).concern, document.caution place, place.tree.line⟩

namespace Caution

def judgements (line : Nat) (caution : Caution) : List Judgement :=
  Rule.cautions.map fun entry => ⟨entry.1, line, entry.2 caution⟩

/-- What the warning rules say at once of a caution on a line. -/
def remarks (line : Nat) (caution : Caution) : List Finding :=
  (caution.judgements line).filterMap Judgement.immediate?

/-- What they say of it unless a label names its control. -/
def waiting (line : Nat) (caution : Caution) : List (String × Finding) :=
  (caution.judgements line).filterMap Judgement.waiting?

/-- The controls that it names as a label. -/
def labelled (line : Nat) (caution : Caution) : List String :=
  (caution.judgements line).filterMap Judgement.labelled?

end Caution

namespace Scene

def remarks (policy : Policy) (scene : Scene) : List Finding :=
  scene.concern.objections policy scene.line ++ scene.caution.remarks scene.line

def waiting (scene : Scene) : List (String × Finding) := scene.caution.waiting scene.line

def labelled (scene : Scene) : List String := scene.caution.labelled scene.line

/-- The findings on scenes, and after them those whose control no label names. -/
def settle (policy : Policy) (scenes : List Scene) : List Finding :=
  let labels := scenes.flatMap labelled
  scenes.flatMap (remarks policy) ++
    ((scenes.flatMap waiting).filter fun entry => !labels.contains entry.1).map (·.2)

end Scene

section Scenes

variable {document : Document} {policy : Policy}

/-- What is told of a place is told of the verdicts there. -/
theorem filterMap_verdicts (rules : List Rule) (place : Place) (told : Judgement → Option α)
    (silent : ∀ rule line, told ⟨rule, line, .clean⟩ = none) :
    (judgementsAt document policy rules place).filterMap told =
      rules.filterMap fun rule =>
        told ⟨rule, place.tree.line, rule.verdict document policy place⟩ := by
  rw [judgementsAt, List.filterMap_map, List.filterMap_filter]
  refine List.filterMap_congr fun rule _ => ?_
  rw [Rule.verdict]
  split
  · rfl
  · exact (silent _ _).symm

/-- What the rules say of a place is what they say of its scene. -/
theorem filterMap_judgementsAt (place : Place) (told : Judgement → Option α)
    (silent : ∀ rule line, told ⟨rule, line, .clean⟩ = none) :
    (judgementsAt document policy Rule.standard place).filterMap told =
      (Rule.charges.filterMap fun entry => told ⟨entry.1, place.tree.line,
        .ofMessage? (entry.2 policy (document.sight place.tree).concern)⟩) ++
      ((document.caution place).judgements place.tree.line).filterMap told := by
  rw [filterMap_verdicts _ _ _ silent, Rule.standard_eq, List.filterMap_append, List.filterMap_map,
    List.filterMap_map, Caution.judgements, List.filterMap_map]
  congr 1
  · refine List.filterMap_congr fun entry member => ?_
    rw [Function.comp, verdict_charge member]
  · refine List.filterMap_congr fun entry member => ?_
    rw [Function.comp, Function.comp, verdict_caution member]

/-- A rule that has a message or none never waits for a label and is none. -/
theorem judgement_ofMessage (rule : Rule) (line : Nat) (message? : Option String) :
    Judgement.immediate? ⟨rule, line, .ofMessage? message?⟩ =
        message?.map (fun message => rule.finding message (some line)) ∧
      Judgement.waiting? ⟨rule, line, .ofMessage? message?⟩ = none ∧
      Judgement.labelled? ⟨rule, line, .ofMessage? message?⟩ = none := by
  cases message? <;> exact ⟨rfl, rfl, rfl⟩

theorem filterMap_immediate_scene (place : Place) :
    (judgementsAt document policy Rule.standard place).filterMap Judgement.immediate? =
      (document.scene place).remarks policy := by
  rw [filterMap_judgementsAt place _ fun _ _ => rfl]
  simp only [judgement_ofMessage]
  rfl

theorem filterMap_waiting_scene (place : Place) :
    (judgementsAt document policy Rule.standard place).filterMap Judgement.waiting? =
      (document.scene place).waiting := by
  rw [filterMap_judgementsAt place _ fun _ _ => rfl, List.filterMap_eq_nil_iff.2]
  · rfl
  · simp only [judgement_ofMessage, implies_true]

theorem filterMap_labelled_scene (place : Place) :
    (judgementsAt document policy Rule.standard place).filterMap Judgement.labelled? =
      (document.scene place).labelled := by
  rw [filterMap_judgementsAt place _ fun _ _ => rfl, List.filterMap_eq_nil_iff.2]
  · rfl
  · simp only [judgement_ofMessage, implies_true]

/-- The findings on a text are the findings on its scenes. -/
theorem findings_reviewDocument (readable : document.hasErrors = false) :
    (reviewDocument document policy Rule.standard).findings =
      Scene.settle policy (document.root.places.map document.scene) := by
  simp only [reviewDocument, readable, Bool.false_eq_true, if_false, settle, judgements,
    List.filterMap_flatMap, filterMap_immediate_scene, filterMap_waiting_scene,
    filterMap_labelled_scene, Scene.settle, List.flatMap_map]

end Scenes

end ComponentGate
