import ComponentGate.Proofs.Review.Frames

/-! Naming. A construct is judged by the name of one of its parts: what it calls, constructs, looks into
or assigns to. It is judged by a name or by a property, never by both, and never by a name that holds a
backslash. -/

namespace ComponentGate

open Syntax

namespace Concern

def empty : Concern := ⟨none, none, none, false, none, false, none, none, none, none⟩

/-- Whether some rule objects to a dotted name. -/
def isNamed (concern : Concern) : Bool :=
  concern.reached.isSome || concern.callee.isSome || concern.timer.isSome ||
    concern.constructed.isSome || concern.target.isSome

/-- What is left of a concern without the dotted names. -/
def nameless (concern : Concern) : Concern :=
  { concern with reached := none, callee := none, timer := none, constructed := none, target := none }

/-- Whether some rule objects to a property that writes markup. -/
def isMarkup (concern : Concern) : Bool := concern.inserts || concern.markup.isSome

def unmarked (concern : Concern) : Concern := { concern with inserts := false, markup := none }

theorem objections_empty (policy : Policy) (line : Nat) : empty.objections policy line = [] := rfl

end Concern

theorem isKind_eq_false {face : Face} {kinds : List Kind} {kind : Kind}
    (other : face.isOneOf kinds = false) (listed : kind ∈ kinds) : face.isKind kind = false := by
  rw [Face.isKind, beq_eq_false_iff_ne]
  intro found
  simp [Face.isOneOf, found, listed] at other

namespace Outlook

def nameless (outlook : Outlook) : Outlook := { outlook with dotted := none }

def closed (outlook : Outlook) : Outlook := { outlook with opensText := false }

/-- What is left of an outlook that no construct is judged by. -/
def plain (outlook : Outlook) : Outlook :=
  { outlook with dotted := none, member := none, opensText := false }

/-- What is left of an outlook to a node that reads neither a spelling nor a name. -/
def unread (outlook : Outlook) : Outlook :=
  { outlook.plain with spelling := none, literal := none, attributes := [], spread := false }

theorem played_map (drop : Outlook → Outlook) (blind : ∀ outlook, (drop outlook).role = outlook.role)
    (below : List Outlook) (role : Role) :
    played (below.map drop) role = (played below role).map drop := by
  rw [played, List.find?_map, played]
  congr 2
  funext outlook
  exact congrArg (· == some role) (blind outlook)

theorem filter_map (drop : Outlook → Outlook) (keeps : Outlook → Bool)
    (blind : ∀ outlook, keeps (drop outlook) = keeps outlook)
    (below : List Outlook) : (below.map drop).filter keeps = (below.filter keeps).map drop := by
  rw [List.filter_map]
  congr 2
  funext outlook
  exact blind outlook

theorem played_map_plain (below : List Outlook) (role : Role) :
    played (below.map plain) role = (played below role).map plain :=
  played_map plain (fun _ => rfl) below role

/-- But for its name, a node looks as its children do plainly. -/
theorem nameless_ofNode (face : Face) (below : List Outlook) :
    (ofNode face (below.map plain)).nameless = (ofNode face below).nameless := by
  have named := filter_map plain isNamed (fun _ => rfl) below
  have significant := filter_map plain isSignificant (fun _ => rfl) below
  simp only [nameless, ofNode, played_map_plain, named, significant, Option.bind_map,
    List.head?_map, Option.any_map, List.getElem?_map, List.filterMap_map, List.any_map]
  rfl

/-- But for its name, a node that reads neither a property nor a value looks the same whatever its
children spell. -/
theorem nameless_ofNode_unread (face : Face) (below : List Outlook)
    (deaf : face.isOneOf [.memberExpression, .markupAttribute] = false) :
    (ofNode face (below.map unread)).nameless = (ofNode face below).nameless := by
  have named := filter_map unread isNamed (fun _ => rfl) below
  have significant := filter_map unread isSignificant (fun _ => rfl) below
  have member : face.isKind .memberExpression = false := isKind_eq_false deaf (by decide)
  have value : face.isKind .markupAttribute = false := isKind_eq_false deaf (by decide)
  simp only [nameless, ofNode, member, value, named, significant, List.head?_map, Option.any_map,
    List.filterMap_map, List.any_map]
  rfl

end Outlook

/-- The constructs that are judged by one of their parts, with the role of that part. -/
def namingParts : List (List Kind × Role) := [
  ([.callExpression], .function), ([.newExpression], .constructor), (Rule.accessKinds, .object),
  (Rule.assignmentKinds, .left)]

/-- The role in which a construct has the part that it is judged by. -/
def Face.namingRole? (face : Face) : Option Role :=
  (namingParts.find? fun entry => face.isOneOf entry.1).map Prod.snd

theorem isOneOf_disjoint {face : Face} {kinds : List Kind} (others : List Kind)
    (found : face.isOneOf kinds = true) (disjoint : ∀ kind ∈ kinds, kind ∉ others) :
    face.isOneOf others = false := by
  rw [Face.isOneOf] at found ⊢
  cases sort : face.kind? with
  | none => rfl
  | some kind =>
    simp only [sort, Option.any_some, List.contains_iff_mem] at found
    simpa using disjoint kind found

namespace Draft

variable (draft : Draft)

theorem concern_eq (draft : Draft) :
    draft.concern =
      { word :=
          (if draft.face.isOneOf bareNameKinds then draft.face.spelling else none).filter
            Rule.privilegedGlobals.contains
        reached :=
          if draft.face.isOneOf Rule.accessKinds then draft.outlook.dotted.bind Rule.reached?
          else none
        callee :=
          if draft.face.isOneOf [.callExpression] then
            (((draft.played .function).bind Outlook.dotted).map Document.calledName).filter
              Rule.forbiddenCallees.contains
          else none
        loads :=
          draft.face.isOneOf [.callExpression] &&
            (draft.played .function).any (·.isSort .importName)
        timer :=
          if draft.face.isOneOf [.callExpression] &&
              (draft.played .arguments).any Outlook.opensText then
            (((draft.played .function).bind Outlook.dotted).map Document.calledName).filter
              Rule.timers.contains
          else none
        inserts :=
          draft.face.isOneOf [.callExpression] &&
            (draft.played .function).bind Outlook.member == some Rule.insertingProperty
        constructed :=
          if draft.face.isOneOf [.newExpression] then
            (((draft.played .constructor).bind Outlook.dotted).map Document.constructedName).filter
              Rule.forbiddenConstructors.contains
          else none
        target :=
          if draft.face.isOneOf Rule.assignmentKinds then
            ((draft.played .left).bind Outlook.dotted).filter Rule.forbiddenTargets.contains
          else none
        markup :=
          if draft.face.isOneOf Rule.assignmentKinds then
            ((draft.played .left).bind Outlook.member).filter Rule.markupProperties.contains
          else none
        specifier :=
          if draft.face.isOneOf loadingKinds then
            (draft.played .source).bind Outlook.literal
          else none } := rfl

theorem concern_call (call : draft.face.isOneOf [.callExpression] = true) :
    draft.concern = { Concern.empty with
      callee := (((draft.played .function).bind Outlook.dotted).map Document.calledName).filter
        Rule.forbiddenCallees.contains
      loads := (draft.played .function).any (·.isSort .importName)
      timer :=
        if (draft.played .arguments).any Outlook.opensText then
          (((draft.played .function).bind Outlook.dotted).map Document.calledName).filter
            Rule.timers.contains
        else none
      inserts := (draft.played .function).bind Outlook.member == some Rule.insertingProperty } := by
  have word := isOneOf_disjoint bareNameKinds call (by decide)
  have access := isOneOf_disjoint Rule.accessKinds call (by decide)
  have construction := isOneOf_disjoint [.newExpression] call (by decide)
  have assignment := isOneOf_disjoint Rule.assignmentKinds call (by decide)
  have loading := isOneOf_disjoint loadingKinds call (by decide)
  simp [concern_eq, call, access, construction, assignment, loading, word, Concern.empty]

theorem concern_construction (construction : draft.face.isOneOf [.newExpression] = true) :
    draft.concern = { Concern.empty with
      constructed := (((draft.played .constructor).bind Outlook.dotted).map
        Document.constructedName).filter Rule.forbiddenConstructors.contains } := by
  have word := isOneOf_disjoint bareNameKinds construction (by decide)
  have access := isOneOf_disjoint Rule.accessKinds construction (by decide)
  have call := isOneOf_disjoint [.callExpression] construction (by decide)
  have assignment := isOneOf_disjoint Rule.assignmentKinds construction (by decide)
  have loading := isOneOf_disjoint loadingKinds construction (by decide)
  simp [concern_eq, call, access, construction, assignment, loading, word, Concern.empty]

theorem concern_access (access : draft.face.isOneOf Rule.accessKinds = true) :
    draft.concern = { Concern.empty with reached := draft.outlook.dotted.bind Rule.reached? } := by
  have word := isOneOf_disjoint bareNameKinds access (by decide)
  have construction := isOneOf_disjoint [.newExpression] access (by decide)
  have call := isOneOf_disjoint [.callExpression] access (by decide)
  have assignment := isOneOf_disjoint Rule.assignmentKinds access (by decide)
  have loading := isOneOf_disjoint loadingKinds access (by decide)
  simp [concern_eq, call, access, construction, assignment, loading, word, Concern.empty]

theorem concern_assignment (assignment : draft.face.isOneOf Rule.assignmentKinds = true) :
    draft.concern = { Concern.empty with
      target := ((draft.played .left).bind Outlook.dotted).filter Rule.forbiddenTargets.contains
      markup := ((draft.played .left).bind Outlook.member).filter
        Rule.markupProperties.contains } := by
  have word := isOneOf_disjoint bareNameKinds assignment (by decide)
  have construction := isOneOf_disjoint [.newExpression] assignment (by decide)
  have call := isOneOf_disjoint [.callExpression] assignment (by decide)
  have access := isOneOf_disjoint Rule.accessKinds assignment (by decide)
  have loading := isOneOf_disjoint loadingKinds assignment (by decide)
  simp [concern_eq, call, access, construction, assignment, loading, word, Concern.empty]

/-- A construct that is judged by none of its parts is spelled, or loads what it names. -/
theorem concern_other (other : draft.face.namingRole? = none) :
    draft.concern = { Concern.empty with
      word :=
        (if draft.face.isOneOf bareNameKinds then draft.face.spelling else none).filter
          Rule.privilegedGlobals.contains
      specifier :=
        if draft.face.isOneOf loadingKinds then (draft.played .source).bind Outlook.literal
        else none } := by
  simp only [Face.namingRole?, namingParts, Option.map_eq_none_iff, List.find?_eq_none,
    List.forall_mem_cons, Bool.not_eq_true] at other
  obtain ⟨call, construction, access, assignment, -⟩ := other
  simp [concern_eq, call, access, construction, assignment, Concern.empty]

end Draft

theorem namingRole_cases (face : Face) :
    (face.isOneOf [.callExpression] = true ∧ face.namingRole? = some .function) ∨
      (face.isOneOf [.newExpression] = true ∧ face.namingRole? = some .constructor) ∨
      (face.isOneOf Rule.accessKinds = true ∧ face.namingRole? = some .object) ∨
      (face.isOneOf Rule.assignmentKinds = true ∧ face.namingRole? = some .left) ∨
      face.namingRole? = none := by
  simp only [Face.namingRole?, namingParts, List.find?_cons]
  cases face.isOneOf [.callExpression] <;> cases face.isOneOf [.newExpression] <;>
    cases face.isOneOf Rule.accessKinds <;> cases face.isOneOf Rule.assignmentKinds <;> simp

/-- Whether a name holds a backslash. -/
def isObscure (name : String) : Bool := name.toList.contains '\\'

/-- `other` is seen as `outlook` is, but for its name, which is gone or obscure. -/
structure Obscured (other outlook : Outlook) : Prop where
  alike : other.nameless = outlook.nameless
  obscure : ∀ name ∈ other.dotted, isObscure name = true

/-- A view that does not see what is dropped is the same for outlooks that are alike without it. -/
theorem view_congr {drop : Outlook → Outlook} (alike : drop other = drop outlook) (view : Outlook → α)
    (blind : ∀ outlook, view (drop outlook) = view outlook) : view other = view outlook := by
  rw [← blind, alike, blind]

theorem Obscured.plain (obscured : Obscured other outlook) : other.plain = outlook.plain :=
  view_congr obscured.alike Outlook.plain fun _ => rfl

theorem obscured_nameless (outlook : Outlook) : Obscured outlook.nameless outlook := ⟨rfl, nofun⟩

section Obscurity

variable {name : String} {names : List String} {found : Option String}

theorem toList_point (object property : String) :
    (s!"{object}.{property}").toList = object.toList ++ '.' :: property.toList := by
  change (object ++ "." ++ property).toList = _
  simp

theorem plain_of_listed (listed : names.contains name = true)
    (plain : ∀ name ∈ names, isObscure name = false) : isObscure name = false :=
  plain name (List.contains_iff_mem.1 listed)

theorem filter_obscure (obscure : ∀ name ∈ found, isObscure name = true)
    (plain : ∀ name ∈ names, isObscure name = false) : found.filter names.contains = none := by
  rw [Option.filter_eq_none_iff]
  intro name held listed
  have hidden := obscure name held
  rw [plain_of_listed listed plain] at hidden
  cases hidden

/-- What is obscure in a name behind a receiver stands behind the point. -/
theorem obscure_rest (obscure : isObscure name = true)
    (plain : isObscure (Document.splitReceiver name).1 = false) :
    isObscure (Document.splitReceiver name).2 = true := by
  simp only [isObscure, List.contains_eq_mem, decide_eq_true_eq, decide_eq_false_iff_not,
    Document.splitReceiver, String.toList_ofList] at obscure plain ⊢
  rw [← @List.takeWhile_append_dropWhile _ (· ≠ '.') name.toList, List.mem_append] at obscure
  have behind := obscure.resolve_left plain
  cases rest : name.toList.dropWhile (· ≠ '.') with
  | nil =>
    rw [rest] at behind
    cases behind
  | cons point more =>
    have stop := @List.head?_dropWhile_not _ (· ≠ '.') name.toList
    rw [rest] at behind stop
    rcases List.mem_cons.1 behind with rfl | inside
    · simp at stop
    · exact inside

theorem plain_receivers : ∀ name ∈ globalReceivers, isObscure name = false := by decide

theorem obscure_calledName (obscure : isObscure name = true) :
    isObscure (Document.calledName name) = true := by
  simp only [Document.calledName]
  split
  · rename_i through
    simp only [Bool.and_eq_true] at through
    exact obscure_rest obscure (plain_of_listed through.1.2 plain_receivers)
  · exact obscure

theorem obscure_constructedName (obscure : isObscure name = true) :
    isObscure (Document.constructedName name) = true := by
  simp only [Document.constructedName]
  split
  · rename_i through
    rw [Bool.and_eq_true] at through
    exact obscure_rest obscure (plain_of_listed through.2 plain_receivers)
  · exact obscure

theorem reached_obscure (obscure : isObscure name = true) : Rule.reached? name = none := by
  simp only [Rule.reached?]
  split
  · rename_i through
    rw [Bool.and_eq_true] at through
    have receiver : isObscure (Document.splitReceiver name).1 = false :=
      plain_of_listed through.1 (by decide)
    have rest : isObscure (Document.splitReceiver name).2 = false :=
      plain_of_listed through.2 (by decide)
    rw [obscure_rest obscure receiver] at rest
    cases rest
  · rfl

end Obscurity

/-- Whether a construct is judged by what stands in its gap. -/
def Frame.isNamedBy (frame : Frame) (draft : Draft) : Bool :=
  frame.face.namingRole?.any (frame.shows draft)

section Gaps

variable {frame : Frame} {draft other : Draft}

theorem role_of_outlook (same : other.outlook.role = draft.outlook.role) :
    other.face.role = draft.face.role := by
  rw [← role_outlook_draft, ← role_outlook_draft, same]

theorem shows_congr (same : other.face.role = draft.face.role) (role : Role) :
    frame.shows other role = frame.shows draft role := by
  rw [Frame.shows, same, Frame.shows]

theorem outlook_plug (frame : Frame) (draft : Draft) :
    (frame.plug draft).outlook = .ofNode frame.face (frame.plug draft).inside := by
  rw [Draft.outlook_eq, Frame.face_plug]

/-- An access is named by its object and its key, if both are. -/
theorem dotted_access (access : draft.face.isOneOf Rule.accessKinds = true) :
    draft.outlook.dotted = ((draft.played .object).bind Outlook.dotted).bind fun object =>
      (Outlook.key? draft.face draft.inside).map fun key => s!"{object}.{key}" := by
  have unspelled := isOneOf_disjoint [.identifier, .thisName] access (by decide)
  rw [Draft.outlook_eq, Outlook.ofNode, Outlook.dotted?, unspelled, Draft.played, if_neg (by simp),
    if_pos access]
  cases (Outlook.played draft.inside .object).bind Outlook.dotted <;>
    cases Outlook.key? draft.face draft.inside <;> rfl

theorem dotted_eq_none (access : frame.face.isOneOf Rule.accessKinds = true)
    (object : ((frame.plug draft).played .object).bind Outlook.dotted = none) :
    (frame.plug draft).outlook.dotted = none := by
  rw [@dotted_access (frame.plug draft) access, object, Option.bind_none]

/-- An access into an obscure object, or by an obscure key, has an obscure name. -/
theorem obscure_access (access : draft.face.isOneOf Rule.accessKinds = true)
    (obscure : (∀ name ∈ (draft.played .object).bind Outlook.dotted, isObscure name = true) ∨
      ∀ key ∈ Outlook.key? draft.face draft.inside, isObscure key = true) :
    ∀ name ∈ draft.outlook.dotted, isObscure name = true := by
  intro name named
  rw [dotted_access access] at named
  obtain ⟨object, held, keyed⟩ := Option.bind_eq_some_iff.1 named
  obtain ⟨key, found, rfl⟩ := Option.map_eq_some_iff.1 keyed
  rw [isObscure, List.contains_iff_mem, toList_point]
  rcases obscure with hidden | hidden
  · exact List.mem_append_left _ (List.contains_iff_mem.1 (hidden object held))
  · exact List.mem_append_right _ (List.mem_cons_of_mem _ (List.contains_iff_mem.1 (hidden key found)))

theorem dotted_congr
    (object : ((frame.plug other).played .object).bind Outlook.dotted =
      ((frame.plug draft).played .object).bind Outlook.dotted)
    (property : ((frame.plug other).played .property).bind Outlook.plainName? =
      ((frame.plug draft).played .property).bind Outlook.plainName?)
    (index : ((frame.plug other).played .index).bind Outlook.literal =
      ((frame.plug draft).played .index).bind Outlook.literal) :
    (frame.plug other).outlook.dotted = (frame.plug draft).outlook.dotted := by
  rw [Draft.played, Draft.played] at object property index
  simp only [outlook_plug, Outlook.ofNode, Outlook.dotted?, Outlook.key?, object, property, index]

theorem Obscured.role (obscured : Obscured other.outlook draft.outlook) :
    other.face.role = draft.face.role :=
  role_of_outlook (view_congr obscured.alike Outlook.role fun _ => rfl)

section Judged

variable (obscured : Obscured other.outlook draft.outlook)
include obscured

/-- A view that sees no name is the same for each part around the gap. -/
theorem Obscured.bind_played (frame : Frame) (part : Role) (view : Outlook → Option α)
    (blind : ∀ outlook, view (Outlook.nameless outlook) = view outlook) :
    ((frame.plug other).played part).bind view = ((frame.plug draft).played part).bind view :=
  bind_played_congr frame part view obscured.role (view_congr obscured.alike view blind)

theorem Obscured.any_played (frame : Frame) (part : Role) (view : Outlook → Bool)
    (blind : ∀ outlook, view (Outlook.nameless outlook) = view outlook) :
    ((frame.plug other).played part).any view = ((frame.plug draft).played part).any view :=
  any_played_congr frame part view obscured.role (view_congr obscured.alike view blind)

theorem Obscured.dotted_gap {part : Role} (shown : frame.shows draft part = true) :
    ((frame.plug other).played part).bind Outlook.dotted = other.outlook.dotted := by
  rw [← shows_congr obscured.role] at shown
  rw [played_of_shows shown, Option.bind_some]

/-- The name in the gap is none of those that a rule lists, whatever it is resolved to. -/
theorem Obscured.filter_gap {part : Role} {resolve : String → String} {names : List String}
    (shown : frame.shows draft part = true)
    (keeps : ∀ name, isObscure name = true → isObscure (resolve name) = true)
    (plain : ∀ name ∈ names, isObscure name = false) :
    ((((frame.plug other).played part).bind Outlook.dotted).map resolve).filter names.contains =
      none := by
  rw [obscured.dotted_gap shown]
  refine filter_obscure (fun name resolved => ?_) plain
  obtain ⟨full, named, rfl⟩ := Option.map_eq_some_iff.1 resolved
  exact keeps full (obscured.obscure full named)

theorem Obscured.concern_call (call : frame.face.isOneOf [.callExpression] = true) :
    (frame.plug other).concern =
      if frame.shows draft .function then (frame.plug draft).concern.nameless
      else (frame.plug draft).concern := by
  have member := obscured.bind_played frame .function Outlook.member fun _ => rfl
  have sort := obscured.any_played frame .function (·.isSort .importName) fun _ => rfl
  have opens := obscured.any_played frame .arguments Outlook.opensText fun _ => rfl
  rw [Draft.concern_call (frame.plug other) call, Draft.concern_call (frame.plug draft) call, member,
    sort, opens]
  cases shown : frame.shows draft .function with
  | true =>
    have callee := obscured.filter_gap shown (fun _ => obscure_calledName)
      (by decide : ∀ name ∈ Rule.forbiddenCallees, _)
    have timer := obscured.filter_gap shown (fun _ => obscure_calledName)
      (by decide : ∀ name ∈ Rule.timers, _)
    rw [callee, timer]
    simp [Concern.nameless, Concern.empty]
  | false => simp [played_of_not_shows shown obscured.role]

theorem Obscured.concern_construction (construction : frame.face.isOneOf [.newExpression] = true) :
    (frame.plug other).concern =
      if frame.shows draft .constructor then (frame.plug draft).concern.nameless
      else (frame.plug draft).concern := by
  rw [Draft.concern_construction (frame.plug other) construction,
    Draft.concern_construction (frame.plug draft) construction]
  cases shown : frame.shows draft .constructor with
  | true =>
    have constructed := obscured.filter_gap shown (fun _ => obscure_constructedName)
      (by decide : ∀ name ∈ Rule.forbiddenConstructors, _)
    rw [constructed]
    simp [Concern.nameless, Concern.empty]
  | false => simp [played_of_not_shows shown obscured.role]

theorem Obscured.concern_access (access : frame.face.isOneOf Rule.accessKinds = true) :
    (frame.plug other).concern =
      if frame.shows draft .object then (frame.plug draft).concern.nameless
      else (frame.plug draft).concern := by
  rw [Draft.concern_access (frame.plug other) access, Draft.concern_access (frame.plug draft) access]
  cases shown : frame.shows draft .object with
  | true =>
    have object : ∀ name ∈ ((frame.plug other).played .object).bind Outlook.dotted,
        isObscure name = true := by
      rw [obscured.dotted_gap shown]
      exact obscured.obscure
    have reached := Option.bind_eq_none_iff.2 fun name named =>
      reached_obscure (@obscure_access (frame.plug other) access (.inl object) name named)
    simp [reached, Concern.nameless, Concern.empty]
  | false =>
    have object := congrArg (Option.bind · Outlook.dotted) (played_of_not_shows shown obscured.role)
    have same := dotted_congr object (obscured.bind_played frame .property Outlook.plainName? fun _ => rfl)
      (obscured.bind_played frame .index Outlook.literal fun _ => rfl)
    simp [same]

theorem Obscured.concern_assignment (assignment : frame.face.isOneOf Rule.assignmentKinds = true) :
    (frame.plug other).concern =
      if frame.shows draft .left then (frame.plug draft).concern.nameless
      else (frame.plug draft).concern := by
  have member := obscured.bind_played frame .left Outlook.member fun _ => rfl
  rw [Draft.concern_assignment (frame.plug other) assignment,
    Draft.concern_assignment (frame.plug draft) assignment, member]
  cases shown : frame.shows draft .left with
  | true =>
    have target := filter_obscure obscured.obscure (by decide : ∀ name ∈ Rule.forbiddenTargets, _)
    simp [obscured.dotted_gap shown, target, Concern.nameless, Concern.empty]
  | false => simp [played_of_not_shows shown obscured.role]

/-- A name that is gone from a gap or is obscure there is lost to the construct that is judged by it. -/
theorem concern_obscured (frame : Frame) :
    (frame.plug other).concern =
      if frame.isNamedBy draft then (frame.plug draft).concern.nameless
      else (frame.plug draft).concern := by
  rw [Frame.isNamedBy]
  rcases namingRole_cases frame.face with ⟨call, naming⟩ | ⟨construction, naming⟩ |
    ⟨access, naming⟩ | ⟨assignment, naming⟩ | naming <;> rw [naming]
  · exact obscured.concern_call call
  · exact obscured.concern_construction construction
  · exact obscured.concern_access access
  · exact obscured.concern_assignment assignment
  · have literal := obscured.bind_played frame .source Outlook.literal fun _ => rfl
    rw [Draft.concern_other (frame.plug other) naming, Draft.concern_other (frame.plug draft) naming,
      literal]
    rfl

end Judged

/-- Parts that look plainly alike make what stands around them look alike, but for its name. -/
theorem nameless_plug (frame : Frame) (other draft : Draft)
    (alike : other.outlook.plain = draft.outlook.plain) :
    (frame.plug other).outlook.nameless = (frame.plug draft).outlook.nameless := by
  have same : (frame.plug other).inside.map Outlook.plain =
      (frame.plug draft).inside.map Outlook.plain := by
    simp [Frame.inside_plug, alike]
  rw [outlook_plug, outlook_plug, ← Outlook.nameless_ofNode frame.face (frame.plug other).inside,
    same, Outlook.nameless_ofNode]

theorem eq_of_nameless {first second : Outlook} (same : first.nameless = second.nameless)
    (dotted : first.dotted = second.dotted) : first = second := by
  cases first
  cases second
  simp_all [Outlook.nameless]

/-- What looks plainly alike makes what does not look into it look alike. -/
theorem outlook_elsewhere (frame : Frame) (alike : other.outlook.plain = draft.outlook.plain)
    (apart : (frame.face.isOneOf Rule.accessKinds && frame.shows draft .object) = false) :
    (frame.plug other).outlook = (frame.plug draft).outlook := by
  have same {α : Type} := @view_congr other.outlook draft.outlook α _ alike
  have role : other.face.role = draft.face.role := role_of_outlook (same _ fun _ => rfl)
  have rest := nameless_plug frame other draft alike
  cases access : frame.face.isOneOf Rule.accessKinds with
  | false =>
    refine eq_of_nameless rest ?_
    simp [outlook_plug, Outlook.ofNode, Outlook.dotted?, access]
  | true =>
    rw [access, Bool.true_and] at apart
    have object := congrArg (Option.bind · Outlook.dotted) (played_of_not_shows apart role)
    refine eq_of_nameless rest (dotted_congr object ?_ ?_)
    · exact bind_played_congr frame _ _ role (same _ fun _ => rfl)
    · exact bind_played_congr frame _ _ role (same _ fun _ => rfl)

/-- A name that is gone from a gap or is obscure there is so from an access that looks into the gap. -/
theorem obscured_plug (obscured : Obscured other.outlook draft.outlook)
    (access : frame.face.isOneOf Rule.accessKinds = true)
    (shown : frame.shows draft .object = true) :
    Obscured (frame.plug other).outlook (frame.plug draft).outlook := by
  refine ⟨nameless_plug frame other draft obscured.plain,
    @obscure_access (frame.plug other) access (.inl ?_)⟩
  rw [obscured.dotted_gap shown]
  exact obscured.obscure

end Gaps

section Exclusion

variable {draft : Draft} {name property : String}

theorem not_importName_of_dotted (dotted : draft.outlook.dotted = some name) :
    draft.outlook.isSort .importName = false := by
  rw [Draft.outlook_eq] at dotted ⊢
  rw [Bool.eq_false_iff]
  intro sort
  simp only [Outlook.isSort, Outlook.ofNode, beq_iff_eq, Option.filter_eq_some_iff] at sort
  simp [Outlook.ofNode, Outlook.dotted?, Face.isOneOf, sort.1, Rule.accessKinds] at dotted

/-- The dotted name of a member access ends in the property that it names. -/
theorem dotted_eq_of_member (dotted : draft.outlook.dotted = some name)
    (member : draft.outlook.member = some property) :
    ∃ object : String, name = s!"{object}.{property}" := by
  rw [Draft.outlook_eq] at dotted member
  simp only [Outlook.ofNode, Outlook.dotted?, Outlook.key?] at dotted member
  have access : draft.face.isKind .memberExpression = true := by
    by_contra other
    simp [other] at member
  have kind : draft.face.kind? = some .memberExpression := by simpa [Face.isKind] using access
  rw [if_pos access] at dotted member
  simp only [Face.isOneOf, kind] at dotted
  obtain ⟨named, played, spelling⟩ := Option.bind_eq_some_iff.1 member
  rw [played, Option.bind_some] at dotted
  cases object : (Outlook.played draft.inside .object).bind Outlook.dotted with
  | none => simp [object] at dotted
  | some receiver =>
    by_cases plain : named.isSort .propertyIdentifier = true
    · refine ⟨receiver, ?_⟩
      simpa [object, Outlook.plainName?, plain, spelling, Rule.accessKinds] using dotted.symm
    · simp [object, Outlook.plainName?, plain] at dotted

/-- What stands behind the first point of a name ends as the name does. -/
theorem suffix_rest (object property : String) :
    property.toList <:+ (Document.splitReceiver s!"{object}.{property}").2.toList := by
  rw [Document.splitReceiver, toList_point, String.toList_ofList, List.dropWhile_append]
  split
  · simp
  · rename_i more
    obtain ⟨first, rest, eq⟩ := List.exists_cons_of_ne_nil (List.isEmpty_eq_false_iff.1
      (Bool.eq_false_iff.2 more))
    rw [eq, List.cons_append, List.drop_one, List.tail_cons]
    exact ⟨rest ++ ['.'], by simp⟩

theorem suffix_calledName (object property : String) :
    property.toList <:+ (Document.calledName s!"{object}.{property}").toList := by
  simp only [Document.calledName]
  split
  · exact suffix_rest object property
  · rw [toList_point]
    exact ⟨object.toList ++ ['.'], by simp⟩

theorem exists_of_played {role : Role} {outlook : Outlook} (found : draft.played role = some outlook) :
    ∃ child : Draft, child.outlook = outlook := by
  obtain ⟨child, -, eq⟩ := List.mem_map.1 (List.mem_of_find?_eq_some found)
  exact ⟨child, eq⟩

/-- No forbidden name of a call ends in the property that inserts markup, and no forbidden target in one
that writes it. -/
theorem ends_otherwise :
    (∀ name ∈ Rule.forbiddenCallees ++ Rule.timers,
      ¬Rule.insertingProperty.toList <:+ name.toList) ∧
    ∀ property ∈ Rule.markupProperties, ∀ name ∈ Rule.forbiddenTargets,
      ¬property.toList <:+ name.toList := by
  decide

theorem not_importName_of_member (member : draft.outlook.member = some property) :
    draft.outlook.isSort .importName = false := by
  rw [Draft.outlook_eq] at member ⊢
  rw [Bool.eq_false_iff]
  intro sort
  simp only [Outlook.isSort, Outlook.ofNode, beq_iff_eq, Option.filter_eq_some_iff] at sort
  simp [Outlook.ofNode, Face.isKind, sort.1] at member

/-- A call of a forbidden name neither loads a module nor inserts markup. -/
theorem not_loads_of_called
    (called : (((draft.played .function).bind Outlook.dotted).map Document.calledName) = some name)
    (listed : name ∈ Rule.forbiddenCallees ++ Rule.timers) :
    (draft.played .function).any (·.isSort .importName) = false ∧
      ((draft.played .function).bind Outlook.member == some Rule.insertingProperty) = false := by
  obtain ⟨full, bound, rfl⟩ := Option.map_eq_some_iff.1 called
  obtain ⟨outlook, found, dotted⟩ := Option.bind_eq_some_iff.1 bound
  obtain ⟨child, rfl⟩ := exists_of_played found
  rw [found, Option.any_some, Option.bind_some]
  refine ⟨not_importName_of_dotted dotted, ?_⟩
  rw [beq_eq_false_iff_ne]
  intro member
  obtain ⟨object, rfl⟩ := dotted_eq_of_member dotted member
  exact ends_otherwise.1 _ listed (suffix_calledName object _)

/-- A forbidden target does not end in a forbidden property. -/
theorem not_markup_of_target (targeted : (draft.played .left).bind Outlook.dotted = some name)
    (listed : name ∈ Rule.forbiddenTargets) :
    ((draft.played .left).bind Outlook.member).filter Rule.markupProperties.contains = none := by
  obtain ⟨outlook, found, dotted⟩ := Option.bind_eq_some_iff.1 targeted
  obtain ⟨child, rfl⟩ := exists_of_played found
  rw [found, Option.bind_some, Option.filter_eq_none_iff]
  intro property member
  rw [List.contains_iff_mem]
  intro written
  obtain ⟨object, rfl⟩ := dotted_eq_of_member dotted member
  apply ends_otherwise.2 _ written _ listed
  rw [toList_point]
  exact ⟨object.toList ++ ['.'], by simp⟩

theorem exists_of_isSome_filter {found : Option String} {names : List String}
    (kept : (found.filter names.contains).isSome = true) :
    ∃ name, found = some name ∧ name ∈ names := by
  obtain ⟨name, eq⟩ := Option.isSome_iff_exists.1 kept
  obtain ⟨held, listed⟩ := Option.filter_eq_some_iff.1 eq
  exact ⟨name, held, by simpa using listed⟩

/-- What is objected to for its name is objected to for nothing else. -/
theorem nameless_eq_empty (named : draft.concern.isNamed = true) :
    draft.concern.nameless = Concern.empty := by
  rcases namingRole_cases draft.face with ⟨call, -⟩ | ⟨construction, -⟩ | ⟨access, -⟩ |
    ⟨assignment, -⟩ | naming
  · rw [Draft.concern_call draft call] at named ⊢
    have called : ∃ name, (((draft.played .function).bind Outlook.dotted).map
        Document.calledName) = some name ∧ name ∈ Rule.forbiddenCallees ++ Rule.timers := by
      simp only [Concern.isNamed, Concern.empty, Option.isSome_none, Bool.or_false, Bool.false_or,
        Bool.or_eq_true] at named
      rcases named with callee | timer
      · obtain ⟨name, eq, listed⟩ := exists_of_isSome_filter callee
        exact ⟨name, eq, List.mem_append_left _ listed⟩
      · split at timer
        · obtain ⟨name, eq, listed⟩ := exists_of_isSome_filter timer
          exact ⟨name, eq, List.mem_append_right _ listed⟩
        · cases timer
    obtain ⟨name, eq, listed⟩ := called
    obtain ⟨loads, inserts⟩ := not_loads_of_called eq listed
    simp [Concern.nameless, Concern.empty, loads, inserts]
  · rw [Draft.concern_construction draft construction]
    rfl
  · rw [Draft.concern_access draft access]
    rfl
  · rw [Draft.concern_assignment draft assignment] at named ⊢
    simp only [Concern.isNamed, Concern.empty, Option.isSome_none, Bool.false_or] at named
    obtain ⟨name, eq, listed⟩ := exists_of_isSome_filter named
    simp only [Concern.nameless, Concern.empty, not_markup_of_target eq listed]
  · rw [Draft.concern_other draft naming] at named
    cases named

/-- What is objected to for the markup that it writes is objected to for nothing else. -/
theorem unmarked_eq_empty (markup : draft.concern.isMarkup = true) :
    draft.concern.unmarked = Concern.empty := by
  rcases namingRole_cases draft.face with ⟨call, -⟩ | ⟨construction, -⟩ | ⟨access, -⟩ |
    ⟨assignment, -⟩ | naming
  · rw [Draft.concern_call draft call] at markup ⊢
    have inserts : ((draft.played .function).bind Outlook.member == some Rule.insertingProperty) =
        true := by simpa [Concern.isMarkup, Concern.empty] using markup
    have uncalled {names : List String} (listed : names ⊆ Rule.forbiddenCallees ++ Rule.timers) :
        (((draft.played .function).bind Outlook.dotted).map Document.calledName).filter
          names.contains = none := by
      rw [Option.filter_eq_none_iff]
      intro name called
      rw [List.contains_iff_mem]
      intro member
      have other := (not_loads_of_called called (listed member)).2
      rw [inserts] at other
      cases other
    have loads : (draft.played .function).any (·.isSort .importName) = false := by
      obtain ⟨outlook, found, member⟩ := Option.bind_eq_some_iff.1 (beq_iff_eq.1 inserts)
      obtain ⟨child, rfl⟩ := exists_of_played found
      rw [found]
      exact not_importName_of_member member
    simp only [Concern.unmarked, Concern.empty, loads, uncalled (List.subset_append_left _ _),
      uncalled (List.subset_append_right _ _), ite_self]
  · rw [Draft.concern_construction draft construction] at markup
    cases markup
  · rw [Draft.concern_access draft access] at markup
    cases markup
  · rw [Draft.concern_assignment draft assignment] at markup ⊢
    have untargeted : ((draft.played .left).bind Outlook.dotted).filter
        Rule.forbiddenTargets.contains = none := by
      rw [Option.filter_eq_none_iff]
      intro name targeted
      rw [List.contains_iff_mem]
      intro listed
      simp [Concern.isMarkup, Concern.empty, not_markup_of_target targeted listed] at markup
    simp only [Concern.unmarked, Concern.empty, untargeted]
  · rw [Draft.concern_other draft naming] at markup
    cases markup

end Exclusion

section Losses

variable {draft other : Draft} {policy : Policy}

theorem objections_congr (policy : Policy) (concern : other.concern = draft.concern)
    (row : other.face.row = draft.face.row) : other.objections policy = draft.objections policy := by
  rw [Draft.objections, Draft.objections, concern, Face.line, row, Face.line]

/-- A node that is objected to for one thing loses all objections with it, and no other loses any. -/
theorem trimmed_objections {lost : Bool}
    (gone : lost = true → other.concern = Concern.empty ∧ draft.concern.isForbidden policy = true)
    (kept : lost = false → other.concern = draft.concern) (row : other.face.row = draft.face.row) :
    Trimmed (lost = true) (other.objections policy) (draft.objections policy) := by
  cases lost with
  | true =>
    obtain ⟨silent, forbidden⟩ := gone rfl
    rw [Draft.objections, silent, Concern.objections_empty]
    exact .of_nil (by simp [Draft.objections_eq_nil_iff, forbidden])
  | false => exact .of_eq (by simp) (objections_congr policy (kept rfl) row)

theorem isForbidden_of_isNamed {concern : Concern} (named : concern.isNamed = true) :
    concern.isForbidden policy = true := by
  simp only [Concern.isNamed, Bool.or_eq_true] at named
  simp only [Concern.isForbidden, Bool.or_eq_true]
  tauto

theorem isForbidden_of_isMarkup {concern : Concern} (markup : concern.isMarkup = true) :
    concern.isForbidden policy = true := by
  simp only [Concern.isMarkup, Bool.or_eq_true] at markup
  simp only [Concern.isForbidden, Bool.or_eq_true]
  tauto

theorem nameless_eq_self {concern : Concern} (unnamed : concern.isNamed = false) :
    concern.nameless = concern := by
  simp only [Concern.isNamed, Bool.or_eq_false_iff, Option.isSome_eq_false_iff,
    Option.isNone_iff_eq_none] at unnamed
  cases concern
  simp_all [Concern.nameless]

/-- Without its name a node is objected to as before, unless it was the name that was objected to. -/
theorem trimmed_nameless (policy : Policy) (nameless : other.concern = draft.concern.nameless)
    (row : other.face.row = draft.face.row) :
    Trimmed (draft.concern.isNamed = true) (other.objections policy) (draft.objections policy) := by
  refine trimmed_objections (fun named => ⟨?_, isForbidden_of_isNamed named⟩) (fun unnamed => ?_) row
  · rw [nameless, nameless_eq_empty named]
  · rw [nameless, nameless_eq_self unnamed]

end Losses

end ComponentGate
