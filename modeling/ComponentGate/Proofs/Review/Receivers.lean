import ComponentGate.Proofs.Review.Accesses
import ComponentGate.Syntax.Parse

/-! Receivers. A global name can be reached through `window`, `globalThis` and `self`, and through these
in turn. The rules see through one receiver at most, and through none before a name of several parts. -/

namespace ComponentGate

open Syntax

/-- A name from its parts. -/
def pointed (parts : List String) : String := ".".intercalate parts

/-- Whether a text can be one part of a dotted name. -/
def isPlainName (part : String) : Bool := !part.isEmpty && !part.toList.contains '.'

section Points

variable {first part : String} {parts rest : List String}

theorem pointed_singleton (part : String) : pointed [part] = part := String.intercalate_singleton

theorem toList_pointed_cons (filled : rest ≠ []) :
    (pointed (first :: rest)).toList = first.toList ++ '.' :: (pointed rest).toList := by
  rw [pointed, String.intercalate_cons_of_ne_nil filled]
  simp [pointed]

theorem pointed_append (filled : parts ≠ []) :
    pointed (parts ++ [part]) = s!"{pointed parts}.{part}" := by
  rw [pointed, String.intercalate_append_of_ne_nil filled (by simp), String.intercalate_singleton]
  rfl

theorem pointed_eq_empty_iff (plain : ∀ part ∈ parts, isPlainName part = true) :
    (pointed parts).isEmpty = true ↔ parts = [] := by
  cases parts with
  | nil => simp [pointed]
  | cons first rest =>
    have head := plain first (by simp)
    simp only [isPlainName, Bool.and_eq_true, Bool.not_eq_true'] at head
    by_cases single : rest = []
    · simp [single, pointed_singleton, head.1]
    · simp only [reduceCtorEq, iff_false, Bool.not_eq_true, String.isEmpty_eq_false_iff]
      intro empty
      have chars := congrArg String.toList empty
      rw [toList_pointed_cons single] at chars
      simp at chars

/-- A name is split behind its first part, where no point stands in that. -/
theorem splitReceiver_of_pointless (pointless : first.toList.contains '.' = false) :
    Document.splitReceiver (pointed (first :: rest)) = (first, pointed rest) := by
  have free : ∀ c ∈ first.toList, decide (c ≠ '.') = true := by
    simp only [List.contains_eq_mem, decide_eq_false_iff_not] at pointless
    intro c member
    rw [decide_eq_true_iff]
    rintro rfl
    exact pointless member
  by_cases single : rest = []
  · have all : first.toList.takeWhile (fun c => decide (c ≠ '.')) = first.toList := by
      simpa using @List.takeWhile_append_of_pos _ _ _ [] free
    have none : first.toList.dropWhile (fun c => decide (c ≠ '.')) = [] := by
      simpa using @List.dropWhile_append_of_pos _ _ _ [] free
    rw [single, pointed_singleton, Document.splitReceiver, all, none]
    simp [pointed]
  · rw [Document.splitReceiver, toList_pointed_cons single, List.takeWhile_append_of_pos free,
      List.dropWhile_append_of_pos free]
    simp

theorem pointless_of_plain (plain : isPlainName part = true) : part.toList.contains '.' = false := by
  simp only [isPlainName, Bool.and_eq_true, Bool.not_eq_true'] at plain
  exact plain.2

theorem splitReceiver_pointed (plain : isPlainName first = true) :
    Document.splitReceiver (pointed (first :: rest)) = (first, pointed rest) :=
  splitReceiver_of_pointless (pointless_of_plain plain)

theorem contains_point_iff (plain : ∀ part ∈ parts, isPlainName part = true) :
    (pointed parts).toList.contains '.' = decide (2 ≤ parts.length) := by
  match parts, plain with
  | [], _ => simp [pointed]
  | [part], plain =>
    have single := plain part (by simp)
    simp only [isPlainName, Bool.and_eq_true, Bool.not_eq_true'] at single
    rw [pointed_singleton, single.2]
    rfl
  | first :: second :: rest, _ =>
    rw [toList_pointed_cons (by simp)]
    simp

/-- Names of the same spelling have the same parts. -/
theorem pointed_injective {others : List String} (plain : ∀ part ∈ parts, isPlainName part = true)
    (plain' : ∀ part ∈ others, isPlainName part = true) (same : pointed parts = pointed others) :
    parts = others := by
  induction parts generalizing others with
  | nil =>
    have empty : (pointed others).isEmpty = true := by
      rw [← same]
      rfl
    exact ((pointed_eq_empty_iff plain').1 empty).symm
  | cons first rest ih =>
    cases others with
    | nil =>
      have empty : (pointed (first :: rest)).isEmpty = true := by
        rw [same]
        rfl
      exact (pointed_eq_empty_iff plain).1 empty
    | cons first' rest' =>
      have split := congrArg Document.splitReceiver same
      rw [splitReceiver_pointed (plain first (by simp)),
        splitReceiver_pointed (plain' first' (by simp)), Prod.mk.injEq] at split
      obtain ⟨rfl, below⟩ := split
      rw [ih (fun part member => plain part (by simp [member]))
        (fun part member => plain' part (by simp [member])) below]

/-- A call resolves a name behind one receiver if the name has one part. -/
theorem calledName_pointed (plain : ∀ part ∈ first :: rest, isPlainName part = true) :
    Document.calledName (pointed (first :: rest)) =
      if globalReceivers.contains first && rest.length == 1 then pointed rest
      else pointed (first :: rest) := by
  have below : ∀ part ∈ rest, isPlainName part = true :=
    fun part member => plain part (by simp [member])
  have empty := pointed_eq_empty_iff below
  rw [Document.calledName, splitReceiver_pointed (plain first (by simp))]
  simp only [contains_point_iff below]
  cases rest with
  | nil => simp [pointed]
  | cons second more =>
    simp only [List.cons_ne_nil, iff_false, Bool.not_eq_true] at empty
    cases more with
    | nil => simp [empty]
    | cons third more => simp

/-- A construction resolves every name behind one receiver. -/
theorem constructedName_pointed (plain : ∀ part ∈ first :: rest, isPlainName part = true) :
    Document.constructedName (pointed (first :: rest)) =
      if globalReceivers.contains first && !rest.isEmpty then pointed rest
      else pointed (first :: rest) := by
  have empty := pointed_eq_empty_iff fun part member => plain part (List.mem_cons_of_mem first member)
  rw [Document.constructedName, splitReceiver_pointed (plain first (by simp))]
  have same : (pointed rest).isEmpty = rest.isEmpty := by
    rw [Bool.eq_iff_iff, empty, List.isEmpty_iff]
  simp only [same, Bool.and_comm]

/-- A list of names of one part each has a pointed name only if that has one part too. -/
theorem contains_pointed {names : List String} (single : ∀ name ∈ names, isPlainName name = true) :
    names.contains (pointed parts) = (parts.length == 1 && parts.head?.any names.contains) := by
  match parts with
  | [] =>
    have unlisted : pointed [] ∉ names := fun listed => by
      simpa [pointed, isPlainName] using single _ listed
    simpa using unlisted
  | [part] => simp [pointed_singleton]
  | first :: second :: rest =>
    have unlisted : pointed (first :: second :: rest) ∉ names := fun listed => by
      have pointless := pointless_of_plain (single _ listed)
      rw [toList_pointed_cons (by simp)] at pointless
      simp at pointless
    simpa using unlisted

end Points

namespace Draft

/-- Whether a node is a mark that nothing is read from. -/
def isMute (draft : Draft) : Bool :=
  draft.children.isEmpty && draft.face.role != some .property && !draft.face.isKind .error &&
    !draft.face.isOneOf bareNameKinds

end Draft

/-- The drafts of a plain dotted name. -/
inductive IsName : List String → Draft → Prop where
  | word {face : Face} {part : String} (kind : face.kind? = some .identifier)
      (spelled : face.spelling = some part) (plain : isPlainName part = true) :
      IsName [part] (.node face [])
  | access {face : Face} {parts : List String} {object property : Draft} {between : List Draft}
      {part : String} (kind : face.kind? = some .memberExpression) (named : IsName parts object)
      (role : object.face.role = some .object) (marks : ∀ mark ∈ between, mark.isMute = true)
      (spelled : property.isProperty part = true) (plain : isPlainName part = true) :
      IsName (parts ++ [part]) (.node face (object :: (between ++ [property])))

section Names

variable {parts : List String} {draft : Draft} {policy : Policy}

theorem IsName.plain (named : IsName parts draft) : ∀ part ∈ parts, isPlainName part = true := by
  induction named with
  | word _ _ plain => simpa using plain
  | access _ _ _ _ _ plain ih =>
    intro part member
    rw [List.mem_append, List.mem_singleton] at member
    rcases member with before | rfl
    · exact ih part before
    · exact plain

theorem IsName.ne_nil (named : IsName parts draft) : parts ≠ [] := by
  cases named <;> simp

theorem isMute_iff {mark : Draft} :
    mark.isMute = true ↔ mark.children = [] ∧ mark.face.role ≠ some .property ∧
      mark.face.isKind .error = false ∧ mark.face.isOneOf bareNameKinds = false := by
  simp [Draft.isMute, and_assoc]

theorem free_of_marks {marks : List Draft} (mute : ∀ mark ∈ marks, mark.isMute = true) :
    ∀ mark ∈ marks, mark.face.role ≠ some .property :=
  fun mark member => (isMute_iff.1 (mute mark member)).2.1

theorem IsName.dotted (named : IsName parts draft) : draft.outlook.dotted = some (pointed parts) := by
  induction named with
  | word kind spelled _ =>
    rw [Draft.outlook_eq, pointed_singleton]
    simp [Outlook.ofNode, Outlook.dotted?, Face.isOneOf, kind, spelled]
  | access kind object role marks property _ ih =>
    rw [dotted_member _ role (free_of_marks marks) property kind, ih, Option.map_some,
      pointed_append object.ne_nil]

theorem IsName.member (named : IsName parts draft) :
    draft.outlook.member = if parts.length = 1 then none else parts.getLast? := by
  cases named with
  | word kind _ _ =>
    rw [Draft.outlook_eq]
    simp [Outlook.ofNode, Face.isKind, kind]
  | access kind object role marks property _ =>
    rw [member_member _ role (free_of_marks marks) property kind]
    simp [object.ne_nil]

theorem IsName.sort (named : IsName parts draft) : draft.outlook.isSort .importName = false :=
  not_importName_of_dotted named.dotted

theorem hasError_leaf (leaf : draft.children = []) : draft.hasError = draft.face.isKind .error := by
  rw [Draft.hasError_eq, leaf, List.any_nil, Bool.or_false]

theorem IsName.hasError (named : IsName parts draft) : draft.hasError = false := by
  induction named with
  | word kind _ _ =>
    rw [hasError_leaf rfl]
    simp [Face.isKind, kind]
  | @access face _ object property between _ kind _ _ marks spelled _ ih =>
    obtain ⟨leaf, sort, -, -⟩ := isProperty_iff.1 spelled
    have silent : between.any Draft.hasError = false := by
      rw [List.any_eq_false]
      intro mark member
      obtain ⟨bare, -, sound, -⟩ := isMute_iff.1 (marks mark member)
      rw [hasError_leaf bare, sound]
      simp
    rw [Draft.hasError_eq, Draft.children_node, List.any_cons, List.any_append, ih, silent,
      List.any_cons, hasError_leaf leaf]
    simp [Face.isKind, kind, sort]

/-- Whether a rule objects to a part of a name itself, whatever is done with the name. -/
def isBlamedName : List String → Bool
  | [] => false
  | first :: rest =>
    Rule.privilegedGlobals.contains first ||
      (Rule.windowReceivers.contains first && rest.head?.any Rule.privilegedGlobals.contains)

theorem concern_leaf (leaf : draft.children = []) (bare : draft.face.isOneOf bareNameKinds = false) :
    draft.concern = Concern.empty := by
  have inside : draft.inside = [] := by rw [Draft.inside, leaf, List.map_nil]
  have played (role : Role) : draft.played role = none := by rw [Draft.played, inside]; rfl
  have reached : (if draft.face.isOneOf Rule.accessKinds then draft.outlook.dotted.bind Rule.reached?
      else none) = none := by
    cases access : draft.face.isOneOf Rule.accessKinds with
    | false => rfl
    | true =>
      have unspelled := isOneOf_disjoint [.identifier, .thisName] access (by decide)
      rw [Draft.outlook_eq, Outlook.ofNode, Outlook.dotted?, unspelled, inside]
      simp [Outlook.played]
  rw [Draft.concern_eq, reached, bare]
  simp [played, Concern.empty]

theorem errors_leaf (leaf : draft.children = []) (bare : draft.face.isOneOf bareNameKinds = false) :
    draft.errors policy = [] := by
  rw [Draft.errors_eq, leaf, Draft.objections, concern_leaf leaf bare]
  rfl

theorem plain_privilegedGlobals : ∀ name ∈ Rule.privilegedGlobals, isPlainName name = true := by
  decide

/-- An access reaches a privileged object if its name has two parts, a window and the object. -/
theorem reached_pointed {first : String} {rest : List String}
    (pointless : first.toList.contains '.' = false) :
    (Rule.reached? (pointed (first :: rest))).isSome =
      (Rule.windowReceivers.contains first &&
        (rest.length == 1 && rest.head?.any Rule.privilegedGlobals.contains)) := by
  rw [Rule.reached?, splitReceiver_of_pointless pointless]
  simp only [contains_pointed plain_privilegedGlobals]
  split <;> simp_all

/-- The parts of a name are objected to exactly if the name is blamed for them. -/
theorem IsName.errors_eq_nil_iff (named : IsName parts draft) :
    draft.errors policy = [] ↔ isBlamedName parts = false := by
  have whole := named.plain
  have full := named.dotted
  induction named with
  | @word face part kind spelled plain =>
    have naming : face.namingRole? = none := by
      simp [Face.namingRole?, namingParts, Face.isOneOf, kind, Rule.accessKinds, Rule.assignmentKinds]
    rw [Draft.errors_eq, Draft.children_node, List.flatMap_nil, List.append_nil,
      Draft.objections_eq_nil_iff, Draft.concern_other (.node face []) naming]
    simp [Concern.isForbidden, Concern.empty, isBlamedName, Face.isOneOf, kind, bareNameKinds,
      loadingKinds, spelled, Option.filter_some]
  | @access face parts object property between part kind named role marks spelled plain ih =>
    have own : (∀ part ∈ parts, isPlainName part = true) := named.plain
    have silent : between.flatMap (Draft.errors policy) = [] := by
      rw [List.flatMap_eq_nil_iff]
      intro mark member
      obtain ⟨leaf, -, -, bare⟩ := isMute_iff.1 (marks mark member)
      exact errors_leaf leaf bare
    have last : property.errors policy = [] := by
      obtain ⟨leaf, sort, -, -⟩ := isProperty_iff.1 spelled
      exact errors_leaf leaf (by simp [Face.isOneOf, sort, bareNameKinds])
    have access : face.isOneOf Rule.accessKinds = true := by
      simp [Face.isOneOf, kind, Rule.accessKinds]
    obtain ⟨first, rest, rfl⟩ := List.exists_cons_of_ne_nil named.ne_nil
    have inner : object.errors policy = [] ↔ isBlamedName (first :: rest) = false :=
      ih own named.dotted
    rw [List.cons_append] at whole full ⊢
    have reaches := @reached_pointed first (rest ++ [part])
      (pointless_of_plain (whole first List.mem_cons_self))
    rw [Draft.errors_eq, Draft.children_node, List.flatMap_cons, List.flatMap_append, silent,
      List.flatMap_singleton, last, List.append_nil, List.append_nil, List.append_eq_nil_iff,
      inner, Draft.objections_eq_nil_iff, Draft.concern_access (.node face _) access, full]
    have forbidden : ({ Concern.empty with
        reached := Rule.reached? (pointed (first :: (rest ++ [part]))) } : Concern).isForbidden policy =
          (Rule.reached? (pointed (first :: (rest ++ [part])))).isSome := by
      simp [Concern.isForbidden, Concern.empty]
    rw [Option.bind_some, forbidden, reaches, isBlamedName, isBlamedName]
    cases rest with
    | nil => simp [and_comm]
    | cons second more => simp

end Names

/-- What the blocking rules have against a construct and against the name that it is judged by. -/
def Frame.blames (policy : Policy) (frame : Frame) (name : Draft) : List Finding :=
  (frame.plug name).objections policy ++ name.errors policy

/-- Names that may be assigned to through a window as little as without it. -/
def windowTargets : List (List String) := [["document", "cookie"], ["location"], ["location", "href"]]

/-- Whether a name that is blamed in a role is still blamed behind receivers: they make it a privileged
object, or it is one name behind one receiver, or a target listed with its window, or it ends in a
property that is looked for on anything. -/
def outlasts (role : Role) (receivers name : List String) : Bool :=
  isBlamedName (receivers ++ name) ||
    match role with
    | .function =>
      (receivers.length == 1 && name.length == 1) || name.getLast? == some Rule.insertingProperty
    | .constructor => receivers.length == 1 && name.length == 1
    | .left =>
      (receivers == ["window"] && windowTargets.contains name) ||
        name.getLast?.any Rule.markupProperties.contains
    | _ => false

/-- Whether a rule objects to a call, a construction or an assignment for its name. -/
def isForbiddenName (role : Role) (givesText : Bool) (parts : List String) : Bool :=
  match role with
  | .function =>
    Rule.forbiddenCallees.contains (Document.calledName (pointed parts)) ||
      (givesText && Rule.timers.contains (Document.calledName (pointed parts))) ||
      (parts.length != 1 && parts.getLast? == some Rule.insertingProperty)
  | .constructor => Rule.forbiddenConstructors.contains (Document.constructedName (pointed parts))
  | .left =>
    Rule.forbiddenTargets.contains (pointed parts) ||
      (parts.length != 1 && parts.getLast?.any Rule.markupProperties.contains)
  | _ => false

section Constructs

variable {frame : Frame} {name : Draft} {parts : List String} {policy : Policy} {role : Role}

theorem isSome_filter (keeps : String → Bool) (text : String) :
    ((some text).filter keeps).isSome = keeps text := by
  rw [Option.filter_some]
  split <;> simp_all

theorem isForbidden_plug (naming : frame.face.namingRole? = some role) (construct : role ≠ .object)
    (shown : frame.shows name role = true) (named : IsName parts name) :
    (frame.plug name).concern.isForbidden policy =
      isForbiddenName role (((frame.plug name).played .arguments).any Outlook.opensText) parts := by
  have played := played_of_shows shown
  rcases namingRole_cases frame.face with ⟨call, eq⟩ | ⟨construction, eq⟩ | ⟨access, eq⟩ |
    ⟨assignment, eq⟩ | eq
  · obtain rfl : role = .function := by simpa [eq] using naming.symm
    rw [Draft.concern_call (frame.plug name) call, played]
    have member : ((if parts.length = 1 then none else parts.getLast?) ==
        some Rule.insertingProperty) = (parts.length != 1 &&
          parts.getLast? == some Rule.insertingProperty) := by
      by_cases single : parts.length = 1 <;> simp [single]
    simp only [Concern.isForbidden, Concern.empty, Option.bind_some, Option.any_some, named.dotted,
      named.member, named.sort, member, Option.map_some, isSome_filter, isForbiddenName]
    cases ((frame.plug name).played .arguments).any Outlook.opensText <;> simp
  · obtain rfl : role = .constructor := by simpa [eq] using naming.symm
    rw [Draft.concern_construction (frame.plug name) construction, played]
    simp [Concern.isForbidden, Concern.empty, named.dotted, isForbiddenName]
  · exact absurd (by simpa [eq] using naming.symm) construct
  · obtain rfl : role = .left := by simpa [eq] using naming.symm
    rw [Draft.concern_assignment (frame.plug name) assignment, played]
    have member : ((if parts.length = 1 then none else parts.getLast?).filter
        Rule.markupProperties.contains).isSome = (parts.length != 1 &&
          parts.getLast?.any Rule.markupProperties.contains) := by
      by_cases single : parts.length = 1
      · simp [single]
      · cases parts.getLast? <;> simp [single]
    simp [Concern.isForbidden, Concern.empty, named.dotted, named.member, member, isForbiddenName]
  · rw [eq] at naming
    cases naming

theorem blames_ne_nil_iff (naming : frame.face.namingRole? = some role) (construct : role ≠ .object)
    (shown : frame.shows name role = true) (named : IsName parts name) :
    frame.blames policy name ≠ [] ↔
      (isBlamedName parts || isForbiddenName role
        (((frame.plug name).played .arguments).any Outlook.opensText) parts) = true := by
  rw [Frame.blames, ne_eq, List.append_eq_nil_iff, Draft.objections_eq_nil_iff,
    isForbidden_plug naming construct shown named, named.errors_eq_nil_iff, Bool.or_eq_true]
  cases isBlamedName parts <;> simp

end Constructs

section Chains

variable {receivers parts : List String} {text : Bool}

/-- No forbidden name of a call begins with a receiver. -/
theorem callees_unreceived : ∀ name ∈ Rule.forbiddenCallees ++ Rule.timers,
    (Document.splitReceiver name).1 ∉ globalReceivers := by
  decide

theorem plain_forbiddenConstructors :
    ∀ name ∈ Rule.forbiddenConstructors, isPlainName name = true := by
  decide

/-- The forbidden targets by their parts. -/
def targetParts : List (List String) := [
  ["document", "cookie"], ["window", "document", "cookie"], ["window", "location"],
  ["document", "location"], ["location"], ["window", "location", "href"],
  ["document", "location", "href"], ["location", "href"]]

theorem forbiddenTargets_eq : Rule.forbiddenTargets = targetParts.map pointed := by
  decide

theorem plain_targetParts : ∀ target ∈ targetParts, ∀ part ∈ target, isPlainName part = true := by
  decide

theorem contains_forbiddenTargets (plain : ∀ part ∈ parts, isPlainName part = true) :
    Rule.forbiddenTargets.contains (pointed parts) = targetParts.contains parts := by
  rw [forbiddenTargets_eq, Bool.eq_iff_iff, List.contains_iff_mem, List.contains_iff_mem]
  constructor
  · intro listed
    obtain ⟨target, member, same⟩ := List.mem_map.1 listed
    rw [← pointed_injective (plain_targetParts target member) plain same]
    exact member
  · exact List.mem_map_of_mem

variable {first : String} {rest more : List String} {role : Role}

theorem isForbiddenName_call (plain : ∀ part ∈ first :: rest, isPlainName part = true)
    (received : first ∈ globalReceivers) (filled : rest ≠ []) :
    isForbiddenName .function text (first :: rest) =
      ((rest.length == 1 && isForbiddenName .function text rest) ||
        rest.getLast? == some Rule.insertingProperty) := by
  have last : (first :: rest).getLast? = rest.getLast? := List.getLast?_cons_of_ne_nil filled
  simp only [isForbiddenName, calledName_pointed plain, last, List.contains_iff_mem.2 received,
    Bool.true_and]
  match rest, plain with
  | [part], plain =>
    have alone : ∀ other ∈ [part], isPlainName other = true := fun other member =>
      plain other (List.mem_cons_of_mem first member)
    simp [calledName_pointed alone]
  | second :: third :: others, plain =>
    have unlisted : pointed (first :: second :: third :: others) ∉
        Rule.forbiddenCallees ++ Rule.timers := by
      intro listed
      apply callees_unreceived _ listed
      rw [splitReceiver_pointed (plain first (by simp))]
      exact received
    rw [List.mem_append, not_or] at unlisted
    simp [unlisted]

theorem isForbiddenName_construction (plain : ∀ part ∈ first :: rest, isPlainName part = true)
    (received : first ∈ globalReceivers) (filled : rest ≠ []) :
    isForbiddenName .constructor text (first :: rest) =
      (rest.length == 1 && isForbiddenName .constructor text rest) := by
  have below : ∀ part ∈ rest, isPlainName part = true := fun part member =>
    plain part (List.mem_cons_of_mem first member)
  simp only [isForbiddenName, constructedName_pointed plain, List.contains_iff_mem.2 received,
    Bool.true_and, Bool.not_eq_true', List.isEmpty_eq_false_iff, ne_eq, filled, not_false_eq_true,
    if_true]
  match rest, below with
  | [part], below => simp [constructedName_pointed below]
  | second :: third :: others, below =>
    rw [contains_pointed plain_forbiddenConstructors]
    simp

theorem isForbiddenName_assignment (plain : ∀ part ∈ first :: rest, isPlainName part = true)
    (filled : rest ≠ []) :
    isForbiddenName .left text (first :: rest) =
      (targetParts.contains (first :: rest) || rest.getLast?.any Rule.markupProperties.contains) := by
  have last : (first :: rest).getLast? = rest.getLast? := List.getLast?_cons_of_ne_nil filled
  have several : ((first :: rest).length != 1) = true := by simp [filled]
  rw [isForbiddenName, contains_forbiddenTargets plain, last, several, Bool.true_and]

/-- A part that is blamed by itself is blamed behind a receiver. -/
theorem isBlamedName_received {part : String} (received : first ∈ globalReceivers)
    (blamed : isBlamedName [part] = true) : isBlamedName [first, part] = true := by
  simp only [isBlamedName, List.head?_nil, Option.any_none, Bool.and_false, Bool.or_false] at blamed
  have known : Rule.privilegedGlobals.contains first || Rule.windowReceivers.contains first := by
    revert first
    decide
  simp only [isBlamedName, List.head?_cons, Option.any_some, blamed, Bool.and_true]
  exact known

/-- One part behind one receiver is refused as it was alone. -/
theorem isForbiddenName_of_single (received : first ∈ globalReceivers) (filled : parts ≠ [])
    (allowed : isBlamedName (first :: (more ++ parts)) = false)
    (blamed : (isBlamedName parts || isForbiddenName role text parts) = true) :
    ((more ++ parts).length == 1 && isForbiddenName role text (more ++ parts)) =
      ((first :: more).length == 1 && parts.length == 1) := by
  cases more with
  | nil =>
    by_cases alone : parts.length = 1
    · obtain ⟨part, rfl⟩ := List.length_eq_one_iff.1 alone
      have innocent : isBlamedName [part] = false := by
        rw [Bool.eq_false_iff]
        intro blamed
        rw [List.nil_append, isBlamedName_received received blamed] at allowed
        cases allowed
      rw [innocent, Bool.false_or] at blamed
      simp [blamed]
    · simp [alone]
  | cons second others =>
    have several : (second :: others ++ parts).length ≠ 1 := by
      have := List.length_pos_iff.2 filled
      simp only [List.cons_append, List.length_cons, List.length_append]
      omega
    rw [beq_false_of_ne several]
    simp

/-- A name behind receivers is a forbidden target only if it stands behind its window. -/
theorem contains_targetParts (received : ∀ receiver ∈ first :: more, receiver ∈ globalReceivers) :
    targetParts.contains (first :: (more ++ parts)) =
      (first :: more == ["window"] && windowTargets.contains parts) := by
  have head := received first (by simp)
  cases more with
  | nil =>
    simp only [globalReceivers, List.mem_cons, List.not_mem_nil, or_false] at head
    rcases head with rfl | rfl | rfl <;> simp [targetParts, windowTargets]
  | cons second others =>
    have next := received second (by simp)
    have unlisted : first :: second :: (others ++ parts) ∉ targetParts := by
      simp only [globalReceivers, List.mem_cons, List.not_mem_nil, or_false] at head next
      rcases head with rfl | rfl | rfl <;> rcases next with rfl | rfl | rfl <;> simp [targetParts]
    simp [unlisted]

theorem outlasts_eq (plain : ∀ part ∈ first :: (more ++ parts), isPlainName part = true)
    (received : ∀ receiver ∈ first :: more, receiver ∈ globalReceivers) (filled : parts ≠ [])
    (construct : role = .function ∨ role = .constructor ∨ role = .left)
    (blamed : (isBlamedName parts || isForbiddenName role text parts) = true) :
    (isBlamedName (first :: (more ++ parts)) ||
      isForbiddenName role text (first :: (more ++ parts))) = outlasts role (first :: more) parts := by
  have head := received first (by simp)
  have full : more ++ parts ≠ [] := by simp [filled]
  have last : (more ++ parts).getLast? = parts.getLast? := List.getLast?_append_of_ne_nil more filled
  cases named : isBlamedName (first :: (more ++ parts)) with
  | true => simp [outlasts, named]
  | false =>
    rcases construct with rfl | rfl | rfl
    · rw [isForbiddenName_call plain head full, last,
        isForbiddenName_of_single head filled named blamed]
      simp [outlasts, named]
    · rw [isForbiddenName_construction plain head full,
        isForbiddenName_of_single head filled named blamed]
      simp [outlasts, named]
    · rw [isForbiddenName_assignment plain full, last, contains_targetParts received]
      simp [outlasts, named]

end Chains

theorem blames_sublist {policy : Policy} (outer : List Frame) (frame : Frame) (name : Draft) :
    (frame.blames policy name).Sublist
      ((Draft.fill outer (frame.plug name)).errors policy) := by
  refine List.Sublist.trans ?_ (errors_sublist_fill outer (frame.plug name))
  rw [Frame.blames, errors_plug]
  exact (List.Sublist.refl _).append
    ((List.sublist_append_left _ _).trans (List.sublist_append_right _ _))

/-- A call, construction or assignment that is blamed for a plain dotted name is blamed with receivers in
front of the name exactly if the name outlasts them; all that it is blamed for are errors of its
program. -/
theorem blames_received_iff (parse : Parse) (source received : String) (policy : Policy)
    (outer : List Frame) (frame : Frame) (name name' : Draft) (role : Role)
    (receivers parts : List String)
    (construct : role = .function ∨ role = .constructor ∨ role = .left)
    (naming : frame.face.namingRole? = some role) (shown : frame.shows name role = true)
    (named : IsName parts name) (named' : IsName (receivers ++ parts) name')
    (same : name'.face.role = name.face.role) (some : receivers ≠ [])
    (global : ∀ receiver ∈ receivers, receiver ∈ globalReceivers)
    (readable : (Document.ofSource parse source).hasErrors = false)
    (old : (Document.ofSource parse source).draft (Document.ofSource parse source).root =
      .fill outer (frame.plug name))
    (new : (Document.ofSource parse received).draft (Document.ofSource parse received).root =
      .fill outer (frame.plug name'))
    (blamed : frame.blames policy name ≠ []) :
    (frame.blames policy name' ≠ [] ↔ outlasts role receivers parts = true) ∧
      ((frame.blames policy name).map Finding.message).Sublist
        (review parse source policy Rule.standard).errors ∧
      ((frame.blames policy name').map Finding.message).Sublist
        (review parse received policy Rule.standard).errors := by
  have readable' : (Document.ofSource parse received).hasErrors = false := by
    have sound : name'.hasError = name.hasError := by rw [named'.hasError, named.hasError]
    rw [hasErrors_draft] at readable ⊢
    rw [new, ← Draft.fill, hasError_fill sound, Draft.fill, ← old, readable]
  have hidden : frame.shows name .arguments = false := by
    rcases construct with rfl | rfl | rfl <;> simp [Frame.shows, role_of_shows shown]
  have text := congrArg (Option.any Outlook.opensText) (played_of_not_shows hidden same)
  have apart : role ≠ .object := by rcases construct with rfl | rfl | rfl <;> decide
  have shown' : frame.shows name' role = true := by rw [shows_congr same, shown]
  rw [blames_ne_nil_iff naming apart shown named] at blamed
  rw [blames_ne_nil_iff naming apart shown' named', text, review_eq, review_eq, errors_draft readable,
    errors_draft readable', old, new]
  refine ⟨?_, (blames_sublist outer frame name).map _, (blames_sublist outer frame name').map _⟩
  obtain ⟨first, more, rfl⟩ := List.exists_cons_of_ne_nil some
  rw [List.cons_append, outlasts_eq named'.plain global named.ne_nil construct blamed]

def directCall : String := "eval('1');\n"

def receivedCall : String := "self.eval('1');\n"

/-- The name that `directCall` calls, and the one that `receivedCall` calls. -/
def directName : Draft := .node ⟨.construct .identifier, some .function, 0, some "eval", none⟩ []

def receivedName : Draft :=
  .node ⟨.construct .memberExpression, some .function, 0, none, none⟩ [
    .node ⟨.construct .identifier, some .object, 0, some "self", none⟩ [],
    .node ⟨.token ".", none, 0, none, none⟩ [],
    .node ⟨.construct .propertyIdentifier, some .property, 0, some "eval", none⟩ []]

/-- The call in `directCall` without its name. -/
def evalFrame : Frame :=
  let call := ((Document.ofSource Syntax.parse directCall).gap [0, 0]).2
  ⟨call.face, [], call.children.drop 1⟩

theorem receivedCall_blames_iff :
    (evalFrame.blames .standard receivedName ≠ [] ↔ outlasts .function ["self"] ["eval"] = true) ∧
      ((evalFrame.blames .standard receivedName).map Finding.message).Sublist
        (review Syntax.parse receivedCall .standard Rule.standard).errors := by
  have named : IsName ["eval"] directName := .word rfl rfl (by decide)
  have named' : IsName (["self"] ++ ["eval"]) receivedName :=
    @IsName.access _ ["self"] _ _ [_] _ rfl (.word rfl rfl (by decide)) rfl (by decide) (by decide)
      (by decide)
  -- evaluated together, so that each text is parsed once
  obtain ⟨readable, naming, shown, old, new, blamed⟩ :
      (Document.ofSource Syntax.parse directCall).hasErrors = false ∧
        evalFrame.face.namingRole? = some .function ∧
        evalFrame.shows directName .function = true ∧
        (Document.ofSource Syntax.parse directCall).draft
            (Document.ofSource Syntax.parse directCall).root =
          .fill ((Document.ofSource Syntax.parse directCall).gap [0, 0]).1
            (evalFrame.plug directName) ∧
        (Document.ofSource Syntax.parse receivedCall).draft
            (Document.ofSource Syntax.parse receivedCall).root =
          .fill ((Document.ofSource Syntax.parse directCall).gap [0, 0]).1
            (evalFrame.plug receivedName) ∧
        evalFrame.blames .standard directName ≠ [] := by decide +kernel
  obtain ⟨same, -, errors⟩ := blames_received_iff Syntax.parse directCall receivedCall .standard _
    evalFrame directName receivedName .function ["self"] ["eval"] (.inl rfl) naming shown named named'
    rfl (by decide) (by decide) readable old new blamed
  exact ⟨same, errors⟩

/-- A call that is forbidden is allowed behind a window, as its name has two parts. -/
theorem receivedBeacon_allowed :
    (review Syntax.parse "navigator.sendBeacon('/x');\n" .standard Rule.standard).errors =
        ["navigator.sendBeacon() is forbidden (line 1)"] ∧
      (review Syntax.parse "window.navigator.sendBeacon('/x');\n" .standard
        Rule.standard).findings = [] := by
  decide +kernel

end ComponentGate
