import ComponentGate.Proofs.Review.Naming
import ComponentGate.Syntax.Parse

/-! Parentheses. The rules do not look through parentheses, so a name or a text that is put into them is
lost to the construct that is judged by it. Nothing else is lost, and nothing is found instead. -/

namespace ComponentGate

open Syntax

namespace Draft

def token (text : String) (row : Nat) : Draft := .node ⟨.token text, none, row, none, none⟩ []

def inRole (role : Option Role) (draft : Draft) : Draft :=
  .node { draft.face with role := role } draft.children

/-- An expression in parentheses, of which the second stands `row` line feeds into the text. -/
def parenthesized (row : Nat) (draft : Draft) : Draft :=
  .node ⟨.construct .parenthesized, draft.face.role, draft.face.row, none, none⟩
    [token "(" draft.face.row, draft.inRole none, token ")" row]

/-- Whether a node can stand in parentheses. -/
def isExpression (draft : Draft) : Bool :=
  draft.face.kind?.isSome && !draft.face.isOneOf [.comment, .markupAttribute, .markupExpression]

end Draft

namespace Frame

/-- Whether a construct, which is no list of arguments, is judged by what stands in its gap. -/
def reads (frame : Frame) (draft : Draft) : Bool :=
  frame.face.role != some .arguments && frame.isNamedBy draft

/-- Whether the gap in a list of arguments is where the first one stands. -/
def opens (frame : Frame) (draft : Draft) : Bool :=
  frame.face.isKind .arguments && frame.face.role == some .arguments &&
    draft.outlook.isSignificant && !frame.left.any fun other => other.outlook.isSignificant

end Frame

/-- Whether a gap is the place of what is called, constructed, looked into or assigned to, or given to a
call first. -/
def isJudged : List Frame → Draft → Bool
  | [], _ => false
  | frame :: outer, part =>
    frame.reads part ||
      (frame.opens part && outer.head?.any fun call =>
        call.face.isOneOf [.callExpression] && call.shows (frame.plug part) .arguments)

/-- Whether a construct around a gap is objected to for a dotted name that begins in the gap. -/
def namesForbidden : List Frame → Draft → Bool
  | [], _ => false
  | frame :: outer, part =>
    frame.isNamedBy part &&
      ((frame.plug part).concern.isNamed ||
        (frame.face.isOneOf Rule.accessKinds && namesForbidden outer (frame.plug part)))

/-- Whether a rule objects to what parentheses around a part hide from it: the construct that is judged
by the part, a name that begins with the part, a text that is given to a timer. -/
def hides (policy : Policy) : List Frame → Draft → Bool
  | [], _ => false
  | frame :: outer, part =>
    (frame.reads part &&
      ((frame.plug part).concern.isForbidden policy ||
        (frame.face.isOneOf Rule.accessKinds && namesForbidden outer (frame.plug part)))) ||
    (frame.opens part &&
      outer.head?.any fun call => (call.plug (frame.plug part)).concern.timer.isSome)

section Wrapping

variable {draft : Draft} {policy : Policy}

theorem errors_inRole (role : Option Role) :
    (draft.inRole role).errors policy = draft.errors policy := by
  have dotted : (draft.inRole role).outlook.dotted = draft.outlook.dotted := by
    rw [Draft.outlook_eq, Draft.outlook_eq]
    rfl
  have objections : (draft.inRole role).objections policy = draft.objections policy := by
    simp only [Draft.objections, Draft.concern, Draft.sight, dotted]
    rfl
  rw [Draft.errors_eq, Draft.errors_eq, objections]
  rfl

theorem concern_token (text : String) (row : Nat) : (Draft.token text row).concern = Concern.empty := by
  rw [Draft.concern_other _ rfl]
  rfl

theorem concern_parenthesized (row : Nat) : (draft.parenthesized row).concern = Concern.empty := by
  rw [Draft.concern_other _ rfl]
  rfl

theorem errors_parenthesized (policy : Policy) (draft : Draft) (row : Nat) :
    (draft.parenthesized row).errors policy = draft.errors policy := by
  have silent (text : String) (row : Nat) : (Draft.token text row).errors policy = [] := by
    rw [Draft.errors_eq, Draft.objections, concern_token]
    rfl
  rw [Draft.errors_eq, Draft.objections, concern_parenthesized, Concern.objections_empty,
    Draft.parenthesized, Draft.children_node]
  simp [silent, errors_inRole]

end Wrapping

section Judging

variable {frame : Frame} {draft other : Draft} {policy : Policy}

theorem namingRole_access (access : frame.face.isOneOf Rule.accessKinds = true) :
    frame.face.namingRole? = some .object := by
  have call := isOneOf_disjoint [.callExpression] access (by decide)
  have construction := isOneOf_disjoint [.newExpression] access (by decide)
  simp [Face.namingRole?, namingParts, call, construction, access]

theorem isNamedBy_access (access : frame.face.isOneOf Rule.accessKinds = true) :
    frame.isNamedBy draft = frame.shows draft .object := by
  rw [Frame.isNamedBy, namingRole_access access, Option.any_some]

/-- What a construct is not judged by it does not look into. -/
theorem apart_of_not_isNamedBy (unjudged : frame.isNamedBy draft = false) :
    (frame.face.isOneOf Rule.accessKinds && frame.shows draft .object) = false := by
  cases access : frame.face.isOneOf Rule.accessKinds with
  | false => rfl
  | true => rw [← isNamedBy_access access, unjudged, Bool.true_and]

/-- A construct that is judged by a part without name, property and kind is not objected to. -/
theorem concern_blank (named : frame.isNamedBy draft = true)
    (dotted : draft.outlook.dotted = none) (member : draft.outlook.member = none)
    (sort : draft.outlook.sort = none) : (frame.plug draft).concern = Concern.empty := by
  rw [Frame.isNamedBy] at named
  rcases namingRole_cases frame.face with ⟨call, naming⟩ | ⟨construction, naming⟩ |
    ⟨access, naming⟩ | ⟨assignment, naming⟩ | naming
  · rw [naming, Option.any_some] at named
    simp [Draft.concern_call (frame.plug draft) call, played_of_shows named, dotted, member,
      Outlook.isSort, sort, Concern.empty]
  · rw [naming, Option.any_some] at named
    simp [Draft.concern_construction (frame.plug draft) construction,
      played_of_shows named, dotted, Concern.empty]
  · rw [naming, Option.any_some] at named
    have unnamed : (frame.plug draft).outlook.dotted = none :=
      dotted_eq_none access (by rw [played_of_shows named, Option.bind_some, dotted])
    simp [Draft.concern_access (frame.plug draft) access, unnamed, Concern.empty]
  · rw [naming, Option.any_some] at named
    simp [Draft.concern_assignment (frame.plug draft) assignment, played_of_shows named,
      dotted, member, Concern.empty]
  · rw [naming, Option.any_none] at named
    cases named

/-- Parts that bring no attribute and no spread leave those of the node around them as they are. -/
theorem attributes_congr (frame : Frame) (named : other.outlook.isNamed = draft.outlook.isNamed)
    (entry : other.outlook.pair? = draft.outlook.pair?)
    (sort : other.outlook.isSort .markupExpression = draft.outlook.isSort .markupExpression) :
    (frame.plug other).outlook.attributes = (frame.plug draft).outlook.attributes ∧
      (frame.plug other).outlook.spread = (frame.plug draft).outlook.spread := by
  simp only [outlook_plug, Outlook.ofNode, Frame.inside_plug, List.filter_append]
  cases shown : draft.outlook.isNamed with
  | true =>
    rw [shown] at named
    simp [List.filterMap_cons, named, shown, entry, sort]
  | false =>
    rw [shown] at named
    simp [named, shown]

theorem outlook_of_isExpression (expression : draft.isExpression = true) :
    draft.outlook.isNamed = true ∧ draft.outlook.pair? = none ∧
      draft.outlook.isSort .markupExpression = false ∧ draft.outlook.isSignificant = true := by
  rw [Draft.isExpression, Bool.and_eq_true, Bool.not_eq_true', Face.isOneOf] at expression
  obtain ⟨named, other⟩ := expression
  obtain ⟨kind, found⟩ := Option.isSome_iff_exists.1 named
  simp only [found, Option.any_some, List.contains_eq_mem, decide_eq_false_iff_not, List.mem_cons,
    List.not_mem_nil, or_false, not_or] at other
  rw [Draft.outlook_eq]
  simp [Outlook.ofNode, Outlook.pair?, Outlook.isSignificant, Outlook.isSort, found, other,
    Option.filter_some]

theorem outlook_parenthesized (draft : Draft) (row : Nat) :
    (draft.parenthesized row).outlook.isNamed = true ∧
      (draft.parenthesized row).outlook.sort = none ∧
      (draft.parenthesized row).outlook.pair? = none ∧
      (draft.parenthesized row).outlook.dotted = none ∧
      (draft.parenthesized row).outlook.member = none := by
  rw [Draft.outlook_eq]
  refine ⟨rfl, rfl, rfl, rfl, rfl⟩

theorem role_parenthesized (draft : Draft) (row : Nat) :
    (draft.parenthesized row).face.role = draft.face.role := rfl

theorem not_markupAttribute (judged : frame.isNamedBy draft = true) :
    frame.face.isKind .markupAttribute = false := by
  rw [Bool.eq_false_iff]
  intro markup
  have kind : frame.face.kind? = some .markupAttribute := by simpa [Face.isKind] using markup
  simp [Frame.isNamedBy, Face.namingRole?, namingParts, Face.isOneOf, kind, Rule.accessKinds,
    Rule.assignmentKinds] at judged

/-- But for the name, a construct around parentheses looks as it did without them. -/
theorem nameless_reads (expression : draft.isExpression = true) (reads : frame.reads draft = true)
    (row : Nat) :
    (frame.plug (draft.parenthesized row)).outlook.nameless =
      (frame.plug draft).outlook.nameless := by
  obtain ⟨named, entry, sort, -⟩ := outlook_of_isExpression expression
  obtain ⟨named', sorted', entry', -⟩ := outlook_parenthesized draft row
  obtain ⟨attributes, spread⟩ := attributes_congr frame (named'.trans named.symm)
    (entry'.trans entry.symm) (by rw [sort, Outlook.isSort, sorted']; rfl)
  rw [Frame.reads, Bool.and_eq_true, bne_iff_ne] at reads
  obtain ⟨unlisted, judged⟩ := reads
  have opens (part : Draft) : (frame.plug part).outlook.opensText = false := by
    simp [outlook_plug, Outlook.ofNode, unlisted]
  have value (part : Draft) : (frame.plug part).outlook.value = none := by
    simp [outlook_plug, Outlook.ofNode, not_markupAttribute judged]
  have member : (frame.plug (draft.parenthesized row)).outlook.member =
      (frame.plug draft).outlook.member := by
    simp only [outlook_plug, Outlook.ofNode]
    by_cases access : frame.face.isKind .memberExpression = true
    · have kind : frame.face.kind? = some .memberExpression := by simpa [Face.isKind] using access
      have accesses : frame.face.isOneOf Rule.accessKinds = true := by
        simp [Face.isOneOf, kind, Rule.accessKinds]
      rw [isNamedBy_access accesses] at judged
      have hidden : frame.shows draft .property = false := by
        simp [Frame.shows, role_of_shows judged]
      have same := played_of_not_shows hidden (role_parenthesized draft row)
      rw [Draft.played, Draft.played] at same
      rw [same]
    · rw [if_neg access, if_neg access]
  have rest (part : Draft) : (frame.plug part).outlook.nameless =
      { role := frame.face.role, isNamed := frame.face.kind?.isSome
        sort := frame.face.kind?.filter soughtKinds.contains, spelling := frame.face.spelling
        title := frame.face.title, literal := frame.face.literal?, dotted := none
        member := (frame.plug part).outlook.member, opensText := (frame.plug part).outlook.opensText
        value := (frame.plug part).outlook.value
        attributes := (frame.plug part).outlook.attributes
        spread := (frame.plug part).outlook.spread } := by
    rw [outlook_plug]
    rfl
  rw [rest, rest, opens, opens, value, value, member, attributes, spread]

/-- An access into parentheses has no name; other constructs around them look as they did. -/
theorem outlook_reads (expression : draft.isExpression = true) (reads : frame.reads draft = true)
    (row : Nat) :
    (frame.plug (draft.parenthesized row)).outlook =
      if frame.face.isOneOf Rule.accessKinds then (frame.plug draft).outlook.nameless
      else (frame.plug draft).outlook := by
  have rest := nameless_reads expression reads row
  rw [Frame.reads, Bool.and_eq_true] at reads
  obtain ⟨-, judged⟩ := reads
  cases access : frame.face.isOneOf Rule.accessKinds with
  | true =>
    rw [if_pos rfl]
    refine eq_of_nameless rest (dotted_eq_none access ?_)
    rw [isNamedBy_access access, ← shows_congr (role_parenthesized draft row)] at judged
    rw [played_of_shows judged]
    exact (outlook_parenthesized draft row).2.2.2.1
  | false =>
    refine eq_of_nameless rest ?_
    simp [outlook_plug, Outlook.ofNode, Outlook.dotted?, access]

/-- What parentheses hide from a construct that is judged by what stands in them. -/
theorem trimmed_reads (policy : Policy) (reads : frame.reads draft = true) (row : Nat) :
    Trimmed ((frame.plug draft).concern.isForbidden policy = true)
      ((frame.plug (draft.parenthesized row)).objections policy)
      ((frame.plug draft).objections policy) := by
  rw [Frame.reads, Bool.and_eq_true] at reads
  obtain ⟨-, sort, -, dotted, member⟩ := outlook_parenthesized draft row
  have silent : (frame.plug (draft.parenthesized row)).concern = Concern.empty :=
    concern_blank reads.2 dotted member sort
  have none : (frame.plug (draft.parenthesized row)).objections policy = [] := by
    rw [Draft.objections, silent, Concern.objections_empty]
  rw [none]
  exact .of_nil (by simp [Draft.objections_eq_nil_iff])

end Judging

section Names

variable {draft other : Draft} {policy : Policy}

/-- Around a part that has lost its name nothing is lost but objections to names that begin with it. -/
theorem trimmed_errors_obscured {lost : Prop} {frames : List Frame}
    (obscured : Obscured other.outlook draft.outlook)
    (inner : Trimmed lost (other.errors policy) (draft.errors policy)) :
    Trimmed (lost ∨ namesForbidden frames draft = true) ((Draft.fill frames other).errors policy)
      ((Draft.fill frames draft).errors policy) := by
  induction frames generalizing lost draft other with
  | nil => exact inner.congr (by simp [namesForbidden])
  | cons frame outer ih =>
    have concern := concern_obscured obscured frame
    cases judged : frame.isNamedBy draft with
    | false =>
      rw [judged, if_neg (by simp)] at concern
      have outlook := outlook_elsewhere frame obscured.plain (apart_of_not_isNamedBy judged)
      have own := Trimmed.of_eq not_false (objections_congr policy concern rfl)
      refine (trimmed_errors_fill outlook (trimmed_errors_plug own inner)).congr ?_
      simp [namesForbidden, judged]
    | true =>
      rw [judged, if_pos rfl] at concern
      have whole := trimmed_errors_plug (trimmed_nameless policy concern rfl) inner
      cases access : frame.face.isOneOf Rule.accessKinds with
      | false =>
        have outlook := outlook_elsewhere frame obscured.plain (by rw [access, Bool.false_and])
        refine (trimmed_errors_fill outlook whole).congr ?_
        simp [namesForbidden, judged, access, or_comm]
      | true =>
        refine (ih (obscured_plug obscured access (by rw [← isNamedBy_access access, judged]))
          whole).congr ?_
        simp only [namesForbidden, judged, access, Bool.true_and, Bool.or_eq_true]
        tauto

end Names

section Texts

variable {frame list : Frame} {draft other : Draft} {policy : Policy}

/-- A text that is gone from a list of arguments is given to no timer. -/
theorem concern_closed (closed : other.outlook = draft.outlook.closed)
    (call : frame.face.isOneOf [.callExpression] = true)
    (shown : frame.shows draft .arguments = true) :
    (frame.plug other).concern = { (frame.plug draft).concern with timer := none } := by
  have role : other.face.role = draft.face.role := role_of_outlook (by rw [closed]; rfl)
  have dotted := bind_played_congr frame .function Outlook.dotted role (by rw [closed]; rfl)
  have member := bind_played_congr frame .function Outlook.member role (by rw [closed]; rfl)
  have sort := any_played_congr frame .function (·.isSort .importName) role (by rw [closed]; rfl)
  rw [← shows_congr role] at shown
  rw [Draft.concern_call (frame.plug other) call,
    Draft.concern_call (frame.plug draft) call, dotted, member, sort,
    played_of_shows shown, closed]
  rfl

/-- A call that is objected to as a timer is objected to for nothing else. -/
theorem timer_alone (draft : Draft) (call : draft.face.isOneOf [.callExpression] = true)
    (timer : draft.concern.timer.isSome = true) :
    { draft.concern with timer := none } = Concern.empty := by
  rw [Draft.concern_call draft call] at timer ⊢
  simp only at timer
  split at timer
  · obtain ⟨name, called, listed⟩ := exists_of_isSome_filter timer
    obtain ⟨loads, inserts⟩ := not_loads_of_called called (List.mem_append_right _ listed)
    have apart : ∀ timer ∈ Rule.timers, timer ∉ Rule.forbiddenCallees := by decide
    have allowed := apart name listed
    simp [called, loads, inserts, Option.filter_some, allowed, Concern.empty]
  · cases timer

theorem trimmed_closed (policy : Policy) (closed : other.outlook = draft.outlook.closed)
    (call : frame.face.isOneOf [.callExpression] = true)
    (shown : frame.shows draft .arguments = true) :
    Trimmed ((frame.plug draft).concern.timer.isSome = true) ((frame.plug other).objections policy)
      ((frame.plug draft).objections policy) := by
  have concern := concern_closed closed call shown
  refine trimmed_objections (fun timer => ⟨?_, ?_⟩) (fun none => ?_) rfl
  · rw [concern, timer_alone (frame.plug draft) call timer]
  · exact isForbidden_of_isNamed (by simp [Concern.isNamed, timer])
  · rw [Option.isSome_eq_false_iff, Option.isNone_iff_eq_none] at none
    rw [concern, ← none]

theorem outlook_closed (closed : other.outlook = draft.outlook.closed)
    (call : frame.face.isOneOf [.callExpression] = true) :
    (frame.plug other).outlook = (frame.plug draft).outlook := by
  have access := isOneOf_disjoint Rule.accessKinds call (by decide)
  refine eq_of_nameless (nameless_plug frame other draft (by rw [closed]; rfl)) ?_
  simp [outlook_plug, Outlook.ofNode, Outlook.dotted?, access]

/-- A list of arguments that begins with parentheses looks as it did, but does not begin with a text. -/
theorem outlook_opens (expression : draft.isExpression = true) (opens : list.opens draft = true)
    (row : Nat) :
    (list.plug (draft.parenthesized row)).outlook = (list.plug draft).outlook.closed := by
  obtain ⟨named, entry, sort, -⟩ := outlook_of_isExpression expression
  obtain ⟨named', sorted', entry', -⟩ := outlook_parenthesized draft row
  obtain ⟨attributes, spread⟩ := attributes_congr list (named'.trans named.symm)
    (entry'.trans entry.symm) (by rw [sort, Outlook.isSort, sorted']; rfl)
  simp only [Frame.opens, Bool.and_eq_true, Bool.not_eq_true', List.any_eq_false] at opens
  obtain ⟨⟨⟨arguments, -⟩, -⟩, first⟩ := opens
  have kind : list.face.kind? = some .arguments := by simpa [Face.isKind] using arguments
  have significant : (draft.parenthesized row).outlook.isSignificant = true := by
    rw [Outlook.isSignificant, named', Outlook.isSort, sorted']
    rfl
  have before : (list.left.map Draft.outlook).filter Outlook.isSignificant = [] := by
    rw [List.filter_eq_nil_iff]
    intro outlook member
    obtain ⟨sibling, listed, rfl⟩ := List.mem_map.1 member
    exact first sibling listed
  have closed : (list.plug (draft.parenthesized row)).outlook.opensText = false := by
    simp [outlook_plug, Outlook.ofNode, Frame.inside_plug, List.filter_append, before, significant,
      Outlook.isSort, sorted']
  have rest (part : Draft) : (list.plug part).outlook =
      { role := list.face.role, isNamed := true, sort := none, spelling := list.face.spelling
        title := list.face.title, literal := list.face.literal?, dotted := none, member := none
        opensText := (list.plug part).outlook.opensText, value := none
        attributes := (list.plug part).outlook.attributes
        spread := (list.plug part).outlook.spread } := by
    rw [outlook_plug]
    simp [Outlook.ofNode, Outlook.dotted?, Face.isKind, Face.isOneOf, kind, Rule.accessKinds,
      soughtKinds, Option.filter_some]
  rw [Outlook.closed, rest (draft.parenthesized row), rest draft, closed, attributes, spread]

theorem concern_opens (opens : list.opens draft = true) (part : Draft) :
    (list.plug part).concern = Concern.empty := by
  simp only [Frame.opens, Bool.and_eq_true] at opens
  have kind : list.face.kind? = some .arguments := by simpa [Face.isKind] using opens.1.1.1
  have naming : (list.plug part).face.namingRole? = none := by
    simp [Face.namingRole?, namingParts, Face.isOneOf, kind, Rule.accessKinds, Rule.assignmentKinds]
  rw [Draft.concern_other _ naming]
  simp [Face.isOneOf, kind, bareNameKinds, loadingKinds, Concern.empty]

end Texts

section Reviews

variable {frames : List Frame} {part : Draft} {policy : Policy}

theorem not_opens_of_reads {frame : Frame} (reads : frame.reads part = true) :
    frame.opens part = false := by
  simp only [Frame.reads, Bool.and_eq_true, bne_iff_ne] at reads
  simp [Frame.opens, reads.1]

theorem trimmed_errors_parenthesized (policy : Policy) (expression : part.isExpression = true)
    (judged : isJudged frames part = true) (row : Nat) :
    Trimmed (hides policy frames part = true)
      ((Draft.fill frames (part.parenthesized row)).errors policy)
      ((Draft.fill frames part).errors policy) := by
  have inner := Trimmed.of_eq not_false (errors_parenthesized policy part row)
  cases frames with
  | nil => cases judged
  | cons frame outer =>
    rw [isJudged, Bool.or_eq_true] at judged
    rcases judged with reads | given
    · have outlook := outlook_reads expression reads row
      have whole := trimmed_errors_plug (trimmed_reads policy reads row) inner
      have unlisted := not_opens_of_reads reads
      cases access : frame.face.isOneOf Rule.accessKinds with
      | false =>
        rw [access, if_neg (by simp)] at outlook
        refine (trimmed_errors_fill outlook whole).congr ?_
        simp [hides, reads, unlisted, access]
      | true =>
        rw [access, if_pos rfl] at outlook
        refine (trimmed_errors_obscured (outlook ▸ obscured_nameless _) whole).congr ?_
        simp [hides, reads, unlisted, access]
    · rw [Bool.and_eq_true] at given
      obtain ⟨opens, called⟩ := given
      cases outer with
      | nil => cases called
      | cons call outer =>
        rw [List.head?_cons, Option.any_some, Bool.and_eq_true] at called
        have closed := outlook_opens expression opens row
        have silent := objections_congr policy
          ((concern_opens opens (part.parenthesized row)).trans (concern_opens opens part).symm) rfl
        have list := trimmed_errors_plug (Trimmed.of_eq not_false silent) inner
        have whole := trimmed_errors_plug
          (trimmed_closed policy closed called.1 called.2) list
        have unread : frame.reads part = false := by
          rw [Bool.eq_false_iff]
          intro reads
          rw [not_opens_of_reads reads] at opens
          cases opens
        refine (trimmed_errors_fill (outlook_closed closed called.1) whole).congr ?_
        simp [hides, unread, opens]

end Reviews

theorem hasError_parenthesized (part : Draft) (row : Nat) :
    (part.parenthesized row).hasError = part.hasError := by
  have inside : (part.inRole none).hasError = part.hasError := by
    rw [Draft.hasError_eq, Draft.hasError_eq part]
    rfl
  have sound (text : String) (row : Nat) : (Draft.token text row).hasError = false := rfl
  rw [Draft.hasError_eq, Draft.parenthesized, Draft.children_node]
  simp only [List.any_cons, List.any_nil, sound, inside, Bool.or_false, Bool.false_or]
  rfl

/-- Parentheses around what is called, constructed, looked into, assigned to or given to a call first
bring no new error about, and they hide errors exactly where a rule objects to a construct that is judged
by what stands in them: itself, a dotted name that begins with it, or a timer that is given it as a
text. -/
theorem errors_parenthesized_iff (parse : Parse) (source wrapped : String) (policy : Policy)
    (frames : List Frame) (part : Draft) (row : Nat) (expression : part.isExpression = true)
    (judged : isJudged frames part = true)
    (readable : (Document.ofSource parse source).hasErrors = false)
    (old : (Document.ofSource parse source).draft (Document.ofSource parse source).root =
      .fill frames part)
    (new : (Document.ofSource parse wrapped).draft (Document.ofSource parse wrapped).root =
      .fill frames (part.parenthesized row)) :
    (review parse wrapped policy Rule.standard).errors.Sublist
        (review parse source policy Rule.standard).errors ∧
      ((review parse wrapped policy Rule.standard).errors =
          (review parse source policy Rule.standard).errors ↔ hides policy frames part = false) := by
  have readable' : (Document.ofSource parse wrapped).hasErrors = false := by
    rw [hasErrors_draft] at readable ⊢
    rw [new, hasError_fill (hasError_parenthesized part row), ← old, readable]
  rw [review_eq, review_eq, errors_draft readable, errors_draft readable', old, new]
  have trimmed := (trimmed_errors_parenthesized policy expression judged row).map
    Finding.message
  exact ⟨trimmed.sublist, by rw [trimmed.same_iff, Bool.not_eq_true]⟩

def mappedItems : String := "items.map(item => fetch(item));\n"

def wrappedItems : String := "(items).map(item => fetch(item));\n"

theorem wrappedItems_errors_iff :
    ((Document.ofSource Syntax.parse mappedItems).gap [0, 0, 0, 0]).2.face.spelling = some "items" ∧
      (review Syntax.parse wrappedItems .standard Rule.standard).errors =
        (review Syntax.parse mappedItems .standard Rule.standard).errors := by
  -- evaluated together, so that each text is parsed once
  obtain ⟨readable, spelled, expression, judged, new, visible⟩ :
      (Document.ofSource Syntax.parse mappedItems).hasErrors = false ∧
        ((Document.ofSource Syntax.parse mappedItems).gap [0, 0, 0, 0]).2.face.spelling =
          some "items" ∧
        ((Document.ofSource Syntax.parse mappedItems).gap [0, 0, 0, 0]).2.isExpression = true ∧
        isJudged ((Document.ofSource Syntax.parse mappedItems).gap [0, 0, 0, 0]).1
          ((Document.ofSource Syntax.parse mappedItems).gap [0, 0, 0, 0]).2 = true ∧
        (Document.ofSource Syntax.parse wrappedItems).draft
            (Document.ofSource Syntax.parse wrappedItems).root =
          .fill ((Document.ofSource Syntax.parse mappedItems).gap [0, 0, 0, 0]).1
            (((Document.ofSource Syntax.parse mappedItems).gap [0, 0, 0, 0]).2.parenthesized 0) ∧
        hides .standard ((Document.ofSource Syntax.parse mappedItems).gap [0, 0, 0, 0]).1
          ((Document.ofSource Syntax.parse mappedItems).gap [0, 0, 0, 0]).2 = false := by
    decide +kernel
  have unchanged := (errors_parenthesized_iff Syntax.parse mappedItems wrappedItems .standard _ _ 0
    expression judged readable (Document.fill_gap _ _) new).2.2 visible
  exact ⟨spelled, unchanged⟩

/-- A call that is forbidden is allowed once what it calls stands in parentheses. -/
theorem wrappedCall_hidden :
    (review Syntax.parse "eval('1');\n" .standard Rule.standard).errors =
        ["Use of eval() is forbidden (line 1)"] ∧
      (Document.ofSource Syntax.parse "(eval)('1');\n").draft
          (Document.ofSource Syntax.parse "(eval)('1');\n").root =
        .fill ((Document.ofSource Syntax.parse "eval('1');\n").gap [0, 0, 0]).1
          (((Document.ofSource Syntax.parse "eval('1');\n").gap [0, 0, 0]).2.parenthesized 0) ∧
      (review Syntax.parse "(eval)('1');\n" .standard Rule.standard).errors = [] := by
  decide +kernel

end ComponentGate
