import ComponentGate.Proofs.Review.Accesses
import ComponentGate.Proofs.Review.Scenes
import ComponentGate.Syntax.Parse

/-! Subscripts. An access by a literal key has the dotted name that it has by a plain name, so most rules
judge the two alike. The rules on markup and on storage look for the property itself, which a key is
not. -/

namespace ComponentGate

open Syntax

/-- The constructs that some standard rule inspects. -/
def inspectedKinds : List Kind := Rule.standard.flatMap Rule.kinds

/-- The constructs that matter to a review wherever they stand. -/
def loudKinds : List Kind := .error :: .markupExpression :: inspectedKinds

namespace Draft

/-- Whether no rule has anything to look at in a part. -/
def isQuiet (draft : Draft) : Bool := draft.preorder.all fun node => !node.face.isOneOf loudKinds

/-- Whether a part is a mark in an access: a point, a bracket, a comment. -/
def isMark (draft : Draft) : Bool :=
  draft.isQuiet && draft.face.role != some .property && draft.face.role != some .index

end Draft

/-- An access to `object` by the plain name `name`, and the same access by a literal key. -/
inductive IsRekeyed (object : Draft) (name : String) : Draft → Draft → Prop where
  | intro {role : Option Role} {row : Nat} {property key : Draft} {points opening closing : List Draft}
      (held : object.face.role = some .object) (significant : object.outlook.isSignificant = true)
      (named : property.isProperty name = true) (keyed : key.isKey name = true)
      (quiet : key.isQuiet = true)
      (marks : ∀ mark ∈ points ++ (opening ++ closing), mark.isMark = true) :
      IsRekeyed object name
        (.node ⟨.construct .memberExpression, role, row, none, none⟩ (object :: (points ++ [property])))
        (.node ⟨.construct .subscriptExpression, role, row, none, none⟩
          (object :: (opening ++ key :: closing)))

/-- Whether a storage is reached by its name through a receiver. -/
def reachesStorage (object : Draft) (name : String) : Bool :=
  object.face.isKind .identifier && object.face.spelling.any globalReceivers.contains &&
    Rule.storageGlobals.contains name

/-- Whether what is in the gap, an access to the property `name`, is called or assigned to in order to
write markup. -/
def Frame.writesMarkup (frame : Frame) (access : Draft) (name : String) : Bool :=
  (frame.face.isOneOf [.callExpression] && frame.shows access .function &&
    name == Rule.insertingProperty) ||
  (frame.face.isOneOf Rule.assignmentKinds && frame.shows access .left &&
    Rule.markupProperties.contains name)

/-- Whether a rule objects to a property that a literal key hides from it. -/
def hidesProperty (frames : List Frame) (object access : Draft) (name : String) : Bool :=
  reachesStorage object name || frames.head?.any fun frame => frame.writesMarkup access name

section Quiet

variable {draft : Draft} {policy : Policy}

theorem isOneOf_of_subset {face : Face} {kinds larger : List Kind} (subset : kinds ⊆ larger)
    (other : face.isOneOf larger = false) : face.isOneOf kinds = false := by
  rw [Face.isOneOf] at other ⊢
  cases found : face.kind? with
  | none => rfl
  | some kind =>
    simp only [found, Option.any_some, List.contains_eq_mem, decide_eq_false_iff_not] at other ⊢
    exact fun member => other (subset member)

theorem isQuiet_iff :
    draft.isQuiet = true ↔ draft.face.isOneOf loudKinds = false ∧
      ∀ child ∈ draft.children, child.isQuiet = true := by
  rw [Draft.isQuiet, Draft.preorder_eq, List.all_cons, List.all_flatMap, Bool.and_eq_true,
    List.all_eq_true, Bool.not_eq_true']
  rfl

/-- What no rule looks at makes an empty scene. -/
theorem scene_quiet (quiet : draft.face.isOneOf loudKinds = false) (labelled : Bool) :
    draft.scene labelled = ⟨.empty, .empty, draft.face.line⟩ := by
  have word : draft.face.isOneOf bareNameKinds = false := isOneOf_of_subset (by decide) quiet
  have access : draft.face.isOneOf Rule.accessKinds = false := isOneOf_of_subset (by decide) quiet
  have call : draft.face.isOneOf [.callExpression] = false := isOneOf_of_subset (by decide) quiet
  have construction : draft.face.isOneOf [.newExpression] = false :=
    isOneOf_of_subset (by decide) quiet
  have assignment : draft.face.isOneOf Rule.assignmentKinds = false :=
    isOneOf_of_subset (by decide) quiet
  have loading : draft.face.isOneOf loadingKinds = false := isOneOf_of_subset (by decide) quiet
  have given : draft.face.isOneOf [.markupAttribute] = false := isOneOf_of_subset (by decide) quiet
  have element : draft.face.isOneOf elementKinds = false := isOneOf_of_subset (by decide) quiet
  have concern : draft.concern = Concern.empty := by
    simp [Draft.concern_eq, word, access, call, construction, assignment, loading, Concern.empty]
  rw [Draft.scene, concern, Caution.ofNode, access, given, element]
  rfl

theorem flatMap_scenes_quiet {view : Scene → List α} (quiet : draft.isQuiet = true)
    (blank : ∀ line, view ⟨.empty, .empty, line⟩ = []) (labelled : Bool) :
    (draft.scenes labelled).flatMap view = [] := by
  induction draft using Draft.induction_on_children generalizing labelled with
  | step draft ih =>
    obtain ⟨own, below⟩ := isQuiet_iff.1 quiet
    rw [flatMap_scenes, scene_quiet own, blank, List.nil_append, List.flatMap_eq_nil_iff]
    exact fun child member => ih child member (below child member) _

theorem hasError_quiet (quiet : draft.isQuiet = true) : draft.hasError = false := by
  rw [Draft.isQuiet, List.all_eq_true] at quiet
  rw [Draft.hasError, List.any_eq_false]
  intro node member
  have silent : node.face.isOneOf loudKinds = false := by simpa using quiet node member
  simp [isKind_eq_false silent (by decide : Kind.error ∈ loudKinds)]

theorem isMark_iff :
    draft.isMark = true ↔ draft.isQuiet = true ∧ draft.face.role ≠ some .property ∧
      draft.face.role ≠ some .index := by
  simp [Draft.isMark, and_assoc]

theorem isQuiet_of_isProperty {name : String} (named : draft.isProperty name = true) :
    draft.isQuiet = true := by
  obtain ⟨leaf, kind, -, -⟩ := isProperty_iff.1 named
  rw [isQuiet_iff, leaf, Face.isOneOf, kind]
  exact ⟨by decide, by simp⟩

/-- What no rule looks at brings no attributes. -/
theorem outlook_quiet (quiet : draft.isQuiet = true) :
    draft.outlook.pair? = none ∧ draft.outlook.isSort .markupExpression = false := by
  have own := (isQuiet_iff.1 quiet).1
  rw [Outlook.pair?, isSort_outlook_draft (by decide), isSort_outlook_draft (by decide),
    isKind_eq_false own (by decide), isKind_eq_false own (by decide)]
  exact ⟨rfl, rfl⟩

end Quiet

section Accesses

variable {object access keyed : Draft} {name : String}

/-- An access with nothing loud behind its object is seen as its object is, but for its name and
property. -/
theorem outlook_access {draft : Draft} {rest : List Draft} (below : draft.children = object :: rest)
    (kind : draft.face.symbol = .construct .memberExpression ∨
      draft.face.symbol = .construct .subscriptExpression)
    (significant : object.outlook.isSignificant = true)
    (quiet : ∀ part ∈ rest, part.isQuiet = true) :
    draft.outlook =
      { role := draft.face.role, isNamed := true, sort := none, spelling := draft.face.spelling
        title := draft.face.title, literal := none, dotted := draft.outlook.dotted
        member := draft.outlook.member
        opensText := draft.face.role == some .arguments &&
          (object.outlook.isSort .string || object.outlook.isSort .templateString)
        value := none
        attributes := Entries.ofPairs (object.outlook.pair?.toList)
        spread := object.outlook.isSort .markupExpression } := by
  have shown : object.outlook.isNamed = true := (Bool.and_eq_true _ _ ▸ significant).1
  have entries : (object.outlook :: (rest.map Draft.outlook).filter Outlook.isNamed).filterMap
      Outlook.pair? = object.outlook.pair?.toList := by
    have silent : ((rest.map Draft.outlook).filter Outlook.isNamed).filterMap Outlook.pair? = [] := by
      rw [List.filterMap_eq_nil_iff]
      intro outlook member
      obtain ⟨part, listed, rfl⟩ := List.mem_map.1 (List.mem_filter.1 member).1
      exact (outlook_quiet (quiet part listed)).1
    rw [List.filterMap_cons, silent]
    cases object.outlook.pair? <;> rfl
  have spreads : ((rest.map Draft.outlook).filter Outlook.isNamed).any (·.isSort .markupExpression) =
      false := by
    rw [List.any_eq_false]
    intro outlook member
    obtain ⟨part, listed, rfl⟩ := List.mem_map.1 (List.mem_filter.1 member).1
    simp [(outlook_quiet (quiet part listed)).2]
  rw [Draft.outlook_eq]
  rcases kind with kind | kind <;>
    simp [Outlook.ofNode, Draft.inside, below, Face.kind?, Face.isKind, Face.literal?, kind,
      significant, shown, entries, spreads, soughtKinds, Option.filter_some]

/-- Behind the object of either access stands nothing that a rule looks at. -/
theorem IsRekeyed.behind (rekeyed : IsRekeyed object name access keyed) :
    ∃ rest rest', access.children = object :: rest ∧ keyed.children = object :: rest' ∧
      (∀ part ∈ rest, part.isQuiet = true) ∧ ∀ part ∈ rest', part.isQuiet = true := by
  cases rekeyed with
  | @intro role row property key points opening closing held significant named keyed quiet marks =>
    have mark {part : Draft} (listed : part ∈ points ++ (opening ++ closing)) :=
      (isMark_iff.1 (marks part listed)).1
    refine ⟨_, _, rfl, rfl, ?_, ?_⟩
    · rw [List.forall_mem_append, List.forall_mem_singleton]
      exact ⟨fun part listed => mark (by simp [listed]), isQuiet_of_isProperty named⟩
    · rw [List.forall_mem_append, List.forall_mem_cons]
      exact ⟨fun part listed => mark (by simp [listed]), quiet,
        fun part listed => mark (by simp [listed])⟩

/-- What is looked up in either access: the object in both, the name in one of them only. -/
theorem IsRekeyed.looked (rekeyed : IsRekeyed object name access keyed) :
    (access.played .object = some object.outlook ∧ keyed.played .object = some object.outlook) ∧
      (access.played .property).bind Outlook.spelling = some name ∧ keyed.played .property = none ∧
      keyed.outlook.dotted = access.outlook.dotted := by
  cases rekeyed with
  | @intro role row property key points opening closing held significant named keyed quiet marks =>
    have mark {part : Draft} (listed : part ∈ points ++ (opening ++ closing)) :=
      (isMark_iff.1 (marks part listed)).2
    have free : ∀ part ∈ points, part.face.role ≠ some .property :=
      fun part listed => (mark (by simp [listed])).1
    have free' : ∀ part ∈ opening, part.face.role ≠ some .index :=
      fun part listed => (mark (by simp [listed])).2
    refine ⟨⟨played_first _ _ held, played_first _ _ held⟩, ?_, ?_, ?_⟩
    · rw [played_property _ held free named, Option.bind_some, Draft.outlook_eq]
      exact (isProperty_iff.1 named).2.2.2
    · refine played_none _ ?_
      rw [List.forall_mem_cons, List.forall_mem_append, List.forall_mem_cons, held,
        (isKey_iff.1 keyed).2.1]
      exact ⟨by decide, fun part listed => (mark (by simp [listed])).1, by decide,
        fun part listed => (mark (by simp [listed])).1⟩
    · rw [dotted_member _ held free named rfl, dotted_subscript _ closing rfl held free' keyed]

/-- By a literal key an access is seen as by a plain name, but it names no property. -/
theorem IsRekeyed.outlook (rekeyed : IsRekeyed object name access keyed) :
    keyed.outlook = { access.outlook with member := none } ∧ access.outlook.member = some name := by
  obtain ⟨rest, rest', below, below', quiet, quiet'⟩ := rekeyed.behind
  obtain ⟨-, property, -, dotted⟩ := rekeyed.looked
  cases rekeyed with
  | intro held significant =>
    refine ⟨?_, by rw [Draft.outlook_eq]; exact property⟩
    rw [outlook_access below (.inl rfl) significant quiet,
      outlook_access below' (.inr rfl) significant quiet', dotted, member_subscript _ rfl]
    rfl

theorem IsRekeyed.concern (rekeyed : IsRekeyed object name access keyed) :
    keyed.concern = access.concern := by
  obtain ⟨-, -, -, dotted⟩ := rekeyed.looked
  cases rekeyed with
  | intro => rw [Draft.concern_access _ rfl, Draft.concern_access _ rfl, dotted]

/-- What reaches a storage by its name through a receiver does not reach it by a literal key. -/
theorem IsRekeyed.storage (rekeyed : IsRekeyed object name access keyed) :
    Outlook.storage? keyed.inside =
        (if reachesStorage object name then none else Outlook.storage? access.inside) ∧
      (reachesStorage object name = true → Outlook.storage? access.inside = some name) := by
  obtain ⟨⟨held, held'⟩, property, missing, -⟩ := rekeyed.looked
  rw [Draft.played] at held held' property missing
  have sort : object.outlook.isSort .identifier = object.face.isKind .identifier :=
    isSort_outlook_draft (by decide)
  have spelling : object.outlook.spelling = object.face.spelling := by
    rw [Draft.outlook_eq]
    rfl
  rw [Outlook.storage?, Outlook.storage?, held, held', property, missing, reachesStorage]
  simp only [Option.bind_some, Option.bind_none, sort, spelling]
  cases identifier : object.face.isKind .identifier with
  | false => simp
  | true =>
    cases object.face.spelling with
    | none => simp
    | some receiver =>
      have apart : receiver ∈ globalReceivers → receiver ∉ Rule.storageGlobals := by
        simp only [globalReceivers, List.mem_cons, List.not_mem_nil, or_false]
        rintro (rfl | rfl | rfl) <;> decide
      by_cases global : receiver ∈ globalReceivers
      · by_cases stored : name ∈ Rule.storageGlobals
        · simp [global, apart global, stored, Option.filter_some]
        · simp [global, apart global, stored, Option.filter_some]
      · simp [global]

theorem IsRekeyed.scene (rekeyed : IsRekeyed object name access keyed) (labelled : Bool) :
    access.scene labelled =
        ⟨access.concern, ⟨Outlook.storage? access.inside, false, none⟩, access.face.line⟩ ∧
      keyed.scene labelled =
        ⟨access.concern, ⟨Outlook.storage? keyed.inside, false, none⟩, access.face.line⟩ := by
  have concern := rekeyed.concern
  cases rekeyed with
  | intro => exact ⟨rfl, by rw [Draft.scene, concern]; rfl⟩

/-- Nothing is told of an access but of itself and of its object. -/
theorem flatMap_scenes_access {view : Scene → List α} {draft : Draft} {rest : List Draft}
    (below : draft.children = object :: rest) (quiet : ∀ part ∈ rest, part.isQuiet = true)
    (label : draft.face.isLabel = false)
    (blank : ∀ line, view ⟨.empty, .empty, line⟩ = []) (labelled : Bool) :
    (draft.scenes labelled).flatMap view =
      view (draft.scene labelled) ++ (object.scenes labelled).flatMap view := by
  have silent : (rest.flatMap fun part => (part.scenes labelled).flatMap view) = [] := by
    rw [List.flatMap_eq_nil_iff]
    exact fun part listed => flatMap_scenes_quiet (quiet part listed) blank labelled
  rw [flatMap_scenes, below, label, Bool.false_or, List.flatMap_cons, silent, List.append_nil]

variable {policy : Policy}

/-- A caution that is nothing but a storage is one warning. -/
theorem trimmed_storage {lost : Bool} {storage : Option String} (line : Nat)
    (reached : lost = true → storage.isSome = true) :
    Trimmed (lost = true) (Caution.remarks line ⟨if lost then none else storage, false, none⟩)
      (Caution.remarks line ⟨storage, false, none⟩) := by
  cases lost with
  | false => exact .of_eq (by simp) rfl
  | true =>
    obtain ⟨name, rfl⟩ := Option.isSome_iff_exists.1 (reached rfl)
    exact .of_nil (iff_of_true rfl (List.cons_ne_nil _ _))

theorem IsRekeyed.isLabel (rekeyed : IsRekeyed object name access keyed) :
    access.face.isLabel = false ∧ keyed.face.isLabel = false := by
  cases rekeyed with
  | intro => exact ⟨rfl, rfl⟩

/-- Of what is told of an access at once the storage is lost with the plain name. -/
theorem IsRekeyed.trimmed_remarks (policy : Policy) (rekeyed : IsRekeyed object name access keyed)
    (labelled : Bool) :
    Trimmed (reachesStorage object name = true)
      ((keyed.scenes labelled).flatMap (Scene.remarks policy))
      ((access.scenes labelled).flatMap (Scene.remarks policy)) := by
  obtain ⟨rest, rest', below, below', quiet, quiet'⟩ := rekeyed.behind
  obtain ⟨label, label'⟩ := rekeyed.isLabel
  obtain ⟨scene, scene'⟩ := rekeyed.scene labelled
  obtain ⟨hidden, reached⟩ := rekeyed.storage
  have blank (line : Nat) : Scene.remarks policy ⟨.empty, .empty, line⟩ = [] := rfl
  rw [flatMap_scenes_access below quiet label blank, flatMap_scenes_access below' quiet' label' blank,
    scene, scene', hidden, Scene.remarks, Scene.remarks]
  have stored : reachesStorage object name = true → (Outlook.storage? access.inside).isSome = true :=
    fun lost => by rw [reached lost]; rfl
  exact (((Trimmed.self _).append (trimmed_storage _ stored)).append (.self _)).congr (by simp)

/-- Nothing that is told of an access waits for a label or is one. -/
theorem IsRekeyed.flatMap_eq {view : Scene → List α} (rekeyed : IsRekeyed object name access keyed)
    (prompt : ∀ concern storage line, view ⟨concern, ⟨storage, false, none⟩, line⟩ = [])
    (labelled : Bool) :
    (keyed.scenes labelled).flatMap view = (access.scenes labelled).flatMap view := by
  obtain ⟨rest, rest', below, below', quiet, quiet'⟩ := rekeyed.behind
  obtain ⟨label, label'⟩ := rekeyed.isLabel
  obtain ⟨scene, scene'⟩ := rekeyed.scene labelled
  have blank (line : Nat) : view ⟨.empty, .empty, line⟩ = [] := prompt _ _ _
  rw [flatMap_scenes_access below quiet label blank, flatMap_scenes_access below' quiet' label' blank,
    scene, scene', prompt, prompt]

end Accesses

section Gaps

variable {frame : Frame} {draft other : Draft} {name : String} {policy : Policy}

theorem writesMarkup_call (call : frame.face.isOneOf [.callExpression] = true) :
    frame.writesMarkup draft name =
      (frame.shows draft .function && name == Rule.insertingProperty) := by
  have assignment := isOneOf_disjoint Rule.assignmentKinds call (by decide)
  simp [Frame.writesMarkup, call, assignment]

theorem writesMarkup_assignment (assignment : frame.face.isOneOf Rule.assignmentKinds = true) :
    frame.writesMarkup draft name =
      (frame.shows draft .left && Rule.markupProperties.contains name) := by
  have call := isOneOf_disjoint [.callExpression] assignment (by decide)
  simp [Frame.writesMarkup, call, assignment]

/-- A construct that writes markup is objected to for it. -/
theorem isMarkup_of_writesMarkup (named : draft.outlook.member = some name)
    (writes : frame.writesMarkup draft name = true) : (frame.plug draft).concern.isMarkup = true := by
  rw [Frame.writesMarkup, Bool.or_eq_true] at writes
  simp only [Bool.and_eq_true] at writes
  rcases writes with ⟨⟨call, shown⟩, inserting⟩ | ⟨⟨assignment, shown⟩, listed⟩
  · rw [Draft.concern_call (frame.plug draft) call, played_of_shows shown]
    simpa [Concern.isMarkup, Concern.empty, named] using inserting
  · rw [Draft.concern_assignment (frame.plug draft) assignment, played_of_shows shown]
    simpa [Concern.isMarkup, Concern.empty, named, Option.filter_some] using listed

/-- Without the property that it writes to, a construct is not objected to for its markup. -/
theorem concern_keyed (frame : Frame) (keyed : other.outlook = { draft.outlook with member := none })
    (named : draft.outlook.member = some name) :
    (frame.plug other).concern =
      if frame.writesMarkup draft name then (frame.plug draft).concern.unmarked
      else (frame.plug draft).concern := by
  have role : other.face.role = draft.face.role := role_of_outlook (by rw [keyed])
  have dotted (part : Role) := bind_played_congr frame part Outlook.dotted role (by rw [keyed])
  have literal (part : Role) := bind_played_congr frame part Outlook.literal role (by rw [keyed])
  have plain := bind_played_congr frame .property Outlook.plainName? role (by rw [keyed]; rfl)
  have sort := any_played_congr frame .function (·.isSort .importName) role (by rw [keyed]; rfl)
  have opens := any_played_congr frame .arguments Outlook.opensText role (by rw [keyed])
  have kept {part : Role} (hidden : frame.shows draft part = false) :=
    congrArg (Option.bind · Outlook.member) (played_of_not_shows hidden role)
  have lost {part : Role} (shown : frame.shows draft part = true) :
      ((frame.plug other).played part).bind Outlook.member = none := by
    rw [← shows_congr role] at shown
    rw [played_of_shows shown, Option.bind_some, keyed]
  have held {part : Role} (shown : frame.shows draft part = true) :
      ((frame.plug draft).played part).bind Outlook.member = some name := by
    rw [played_of_shows shown, Option.bind_some, named]
  by_cases call : frame.face.isOneOf [.callExpression] = true
  · rw [writesMarkup_call call, Draft.concern_call (frame.plug other) call,
      Draft.concern_call (frame.plug draft) call, dotted, sort, opens]
    cases shown : frame.shows draft .function with
    | false => simp [kept shown]
    | true =>
      by_cases inserting : name = Rule.insertingProperty
      · simp [lost shown, inserting, Concern.unmarked, Concern.empty]
      · simp [lost shown, held shown, inserting]
  by_cases assignment : frame.face.isOneOf Rule.assignmentKinds = true
  · rw [writesMarkup_assignment assignment, Draft.concern_assignment (frame.plug other) assignment,
      Draft.concern_assignment (frame.plug draft) assignment, dotted]
    cases shown : frame.shows draft .left with
    | false => simp [kept shown]
    | true =>
      by_cases listed : name ∈ Rule.markupProperties
      · simp [lost shown, listed, Concern.unmarked, Concern.empty]
      · simp [lost shown, held shown, listed, Option.filter_some]
  · -- no rule on any other construct looks for a property
    have same := dotted_congr (dotted .object) plain (literal .index)
    simp [Draft.concern_eq, Frame.writesMarkup, call, assignment, same, dotted, literal]
    exact ⟨rfl, rfl, rfl⟩

theorem plain_keyed (keyed : other.outlook = { draft.outlook with member := none }) :
    other.outlook.plain = draft.outlook.plain := by
  rw [keyed]
  rfl

/-- What stands around an access is seen alike with either access in it. -/
theorem outlook_keyed (frame : Frame) (keyed : other.outlook = { draft.outlook with member := none }) :
    (frame.plug other).outlook = (frame.plug draft).outlook := by
  have role : other.face.role = draft.face.role := role_of_outlook (by rw [keyed])
  refine eq_of_nameless (nameless_plug frame other draft (plain_keyed keyed)) (dotted_congr ?_ ?_ ?_)
  · exact bind_played_congr frame _ _ role (by rw [keyed])
  · exact bind_played_congr frame _ _ role (by rw [keyed]; rfl)
  · exact bind_played_congr frame _ _ role (by rw [keyed])

/-- What is said at once of a construct loses the markup that it writes with the property, and nothing
else. -/
theorem trimmed_keyed (policy : Policy) (frame : Frame)
    (keyed : other.outlook = { draft.outlook with member := none })
    (named : draft.outlook.member = some name) (labelled : Bool) :
    Trimmed (frame.writesMarkup draft name = true)
      (((frame.plug other).scene labelled).remarks policy)
      (((frame.plug draft).scene labelled).remarks policy) := by
  have concern := concern_keyed frame keyed named
  have objections : Trimmed (frame.writesMarkup draft name = true)
      ((frame.plug other).objections policy) ((frame.plug draft).objections policy) := by
    refine trimmed_objections (fun writes => ?_) (fun kept => ?_) rfl
    · have markup := isMarkup_of_writesMarkup named writes
      rw [concern, if_pos writes, unmarked_eq_empty markup]
      exact ⟨rfl, isForbidden_of_isMarkup markup⟩
    · rw [concern, kept, if_neg (by simp)]
  have caution := caution_plug_congr frame labelled (plain_keyed keyed)
  have said := Trimmed.of_eq not_false
    (congrArg (Caution.remarks (frame.plug draft).face.line) caution)
  exact (objections.append said).congr (by simp)

end Gaps

section Reviews

variable {frames : List Frame} {object access keyed : Draft} {name : String} {policy : Policy}

theorem trimmed_remarks_fill (policy : Policy) (frames : List Frame)
    (rekeyed : IsRekeyed object name access keyed) (labelled : Bool) :
    Trimmed (hidesProperty frames object access name = true)
      (((Draft.fill frames keyed).scenes labelled).flatMap (Scene.remarks policy))
      (((Draft.fill frames access).scenes labelled).flatMap (Scene.remarks policy)) := by
  obtain ⟨outlook, named⟩ := rekeyed.outlook
  cases frames with
  | nil => exact (rekeyed.trimmed_remarks policy labelled).congr (by simp [hidesProperty])
  | cons frame outer =>
    refine (trimmed_scenes_fill labelled (outlook_keyed frame outlook) fun labelled =>
      trimmed_scenes_plug labelled (trimmed_keyed policy frame outlook named labelled)
        (rekeyed.trimmed_remarks policy)).congr ?_
    simp [hidesProperty, or_comm]

/-- What is told of cautions alone, and of no storage, is told with either access. -/
theorem flatMap_fill_rekeyed {view : Scene → List α} (frames : List Frame)
    (rekeyed : IsRekeyed object name access keyed)
    (cautious : ∀ concern concern' caution line,
      view ⟨concern, caution, line⟩ = view ⟨concern', caution, line⟩)
    (prompt : ∀ concern storage line, view ⟨concern, ⟨storage, false, none⟩, line⟩ = [])
    (labelled : Bool) :
    ((Draft.fill frames keyed).scenes labelled).flatMap view =
      ((Draft.fill frames access).scenes labelled).flatMap view := by
  have inner (labelled : Bool) := Trimmed.of_eq not_false (rekeyed.flatMap_eq prompt labelled)
  obtain ⟨outlook, -⟩ := rekeyed.outlook
  cases frames with
  | nil => exact rekeyed.flatMap_eq prompt labelled
  | cons frame outer =>
    have own (labelled : Bool) : view ((frame.plug keyed).scene labelled) =
        view ((frame.plug access).scene labelled) := by
      rw [Draft.scene, Draft.scene, Frame.face_plug, Frame.face_plug,
        caution_plug_congr frame labelled (plain_keyed outlook)]
      exact cautious _ _ _ _
    refine (trimmed_scenes_fill labelled (outlook_keyed frame outlook) fun labelled =>
      trimmed_scenes_plug labelled (.of_eq not_false (own labelled)) inner).same_iff.2 ?_
    simp

theorem trimmed_settle_rekeyed (policy : Policy) (frames : List Frame)
    (rekeyed : IsRekeyed object name access keyed) (labelled : Bool) :
    Trimmed (hidesProperty frames object access name = true)
      (Scene.settle policy ((Draft.fill frames keyed).scenes labelled))
      (Scene.settle policy ((Draft.fill frames access).scenes labelled)) := by
  refine trimmed_settle (trimmed_remarks_fill policy frames rekeyed labelled) ?_ ?_
  · refine flatMap_fill_rekeyed frames rekeyed (fun _ _ _ _ => rfl) (fun _ storage _ => ?_) labelled
    cases storage <;> rfl
  · refine flatMap_fill_rekeyed frames rekeyed (fun _ _ _ _ => rfl) (fun _ storage _ => ?_) labelled
    cases storage <;> rfl

theorem hasError_rekeyed (rekeyed : IsRekeyed object name access keyed) :
    keyed.hasError = access.hasError := by
  obtain ⟨rest, rest', below, below', quiet, quiet'⟩ := rekeyed.behind
  have sound {parts : List Draft} (quiet : ∀ part ∈ parts, part.isQuiet = true) :
      parts.any Draft.hasError = false := by
    rw [List.any_eq_false]
    exact fun part member => by simp [hasError_quiet (quiet part member)]
  rw [Draft.hasError_eq, Draft.hasError_eq, below, below', List.any_cons, List.any_cons, sound quiet,
    sound quiet']
  cases rekeyed with
  | intro => rfl

end Reviews

/-- By a literal key in place of a plain name an access brings no new finding about, and it hides
findings exactly where a rule objects to the property itself: a storage behind a receiver, markup that is
written. -/
theorem findings_rekeyed_iff (parse : Parse) (source respelled : String) (policy : Policy)
    (frames : List Frame) (object access keyed : Draft) (name : String)
    (rekeyed : IsRekeyed object name access keyed)
    (readable : (Document.ofSource parse source).hasErrors = false)
    (old : (Document.ofSource parse source).draft (Document.ofSource parse source).root =
      .fill frames access)
    (new : (Document.ofSource parse respelled).draft (Document.ofSource parse respelled).root =
      .fill frames keyed) :
    (review parse respelled policy Rule.standard).findings.Sublist
        (review parse source policy Rule.standard).findings ∧
      ((review parse respelled policy Rule.standard).findings =
          (review parse source policy Rule.standard).findings ↔
        hidesProperty frames object access name = false) := by
  have readable' : (Document.ofSource parse respelled).hasErrors = false := by
    rw [hasErrors_draft] at readable ⊢
    rw [new, hasError_fill (hasError_rekeyed rekeyed), ← old, readable]
  rw [review_eq, review_eq, findings_draft readable, findings_draft readable', old, new]
  have trimmed := trimmed_settle_rekeyed policy frames rekeyed false
  exact ⟨trimmed.sublist, by rw [trimmed.same_iff, Bool.not_eq_true]⟩

def cookieWrite : String := "document.cookie = 'a';\n"

def keyedWrite : String := "document[\"cookie\"] = 'a';\n"

/-- The object that both texts write to. -/
def writtenObject : Draft := .node ⟨.construct .identifier, some .object, 0, some "document", none⟩ []

def writtenName : Draft :=
  .node ⟨.construct .memberExpression, some .left, 0, none, none⟩ [
    writtenObject,
    .node ⟨.token ".", none, 0, none, none⟩ [],
    .node ⟨.construct .propertyIdentifier, some .property, 0, some "cookie", none⟩ []]

def writtenKey : Draft :=
  .node ⟨.construct .subscriptExpression, some .left, 0, none, none⟩ [
    writtenObject,
    .node ⟨.token "[", none, 0, none, none⟩ [],
    .node ⟨.construct .string, some .index, 0, some "\"cookie\"", none⟩ [
      .node ⟨.token "\"", none, 0, none, none⟩ [],
      .node ⟨.construct .stringFragment, none, 0, none, none⟩ [],
      .node ⟨.token "\"", none, 0, none, none⟩ []],
    .node ⟨.token "]", none, 0, none, none⟩ []]

theorem keyedWrite_findings_iff :
    (review Syntax.parse keyedWrite .standard Rule.standard).findings =
        (review Syntax.parse cookieWrite .standard Rule.standard).findings ∧
      (review Syntax.parse cookieWrite .standard Rule.standard).errors =
        ["Writing document.cookie is forbidden (line 1)"] := by
  have rekeyed : IsRekeyed writtenObject "cookie" writtenName writtenKey :=
    @IsRekeyed.intro writtenObject "cookie" _ _ _ _ [_] [_] [_] rfl (by decide) (by decide) (by decide)
      (by decide +kernel) (by decide +kernel)
  -- evaluated together, so that each text is parsed once
  obtain ⟨readable, old, new, visible, errors⟩ :
      (Document.ofSource Syntax.parse cookieWrite).hasErrors = false ∧
        (Document.ofSource Syntax.parse cookieWrite).draft
            (Document.ofSource Syntax.parse cookieWrite).root =
          .fill ((Document.ofSource Syntax.parse cookieWrite).gap [0, 0, 0]).1 writtenName ∧
        (Document.ofSource Syntax.parse keyedWrite).draft
            (Document.ofSource Syntax.parse keyedWrite).root =
          .fill ((Document.ofSource Syntax.parse cookieWrite).gap [0, 0, 0]).1 writtenKey ∧
        hidesProperty ((Document.ofSource Syntax.parse cookieWrite).gap [0, 0, 0]).1
          writtenObject writtenName "cookie" = false ∧
        (review Syntax.parse cookieWrite .standard Rule.standard).errors =
          ["Writing document.cookie is forbidden (line 1)"] := by decide +kernel
  have unchanged := (findings_rekeyed_iff Syntax.parse cookieWrite keyedWrite .standard _ _ _ _ "cookie"
    rekeyed readable old new).2.2 visible
  exact ⟨unchanged, errors⟩

/-- Markup that may not be written by the plain name of a property may be written by its key, and a
storage that is warned of by its name is not warned of by its key. -/
theorem keyedMarkup_allowed :
    (review Syntax.parse "document.body.innerHTML = '<b/>';\n" .standard Rule.standard).errors =
        ["Assignment to innerHTML is forbidden - render markup with components instead (line 1)"] ∧
      (review Syntax.parse "document.body[\"innerHTML\"] = '<b/>';\n" .standard
        Rule.standard).findings = [] ∧
      (review Syntax.parse "window.localStorage.clear();\n" .standard Rule.standard).warnings =
        ["localStorage usage detected - ensure no sensitive data is stored (line 1)"] ∧
      (review Syntax.parse "window[\"localStorage\"].clear();\n" .standard
        Rule.standard).findings = [] := by
  decide +kernel

end ComponentGate
