import ComponentGate.Proofs.Review.Remarks
import ComponentGate.Proofs.Review.Sight

/-! Concerns. All that the blocking rules can hold against a node, whatever else they look at: a name out
of a fixed list, a property that writes raw markup, a text given to a timer, a specifier. Nodes of one
concern are objected to in the same words. -/

namespace ComponentGate

open Syntax

namespace Rule

/-- The names that no call may resolve to. -/
def forbiddenCallees : List String :=
  ["eval", "Function", "require", "fetch", "navigator.sendBeacon", "document.write",
    "document.writeln"]

def forbiddenConstructors : List String := "Function" :: connections

def cookieTargets : List String := ["document.cookie", "window.document.cookie"]

def locationTargets : List String := locations ++ locations.map (· ++ ".href")

/-- The names to which nothing may be assigned. -/
def forbiddenTargets : List String := cookieTargets ++ locationTargets

/-- The properties to which nothing may be assigned. -/
def markupProperties : List String := ["innerHTML", "outerHTML"]

/-- The property that no call may reach. -/
def insertingProperty : String := "insertAdjacentHTML"

/-- The privileged object that a dotted name reaches through a window. -/
def reached? (name : String) : Option String :=
  let (receiver, rest) := Document.splitReceiver name
  if windowReceivers.contains receiver && privilegedGlobals.contains rest then some rest else none

end Rule

structure Concern where
  /-- A privileged object that goes by its bare name. -/
  word : Option String
  /-- A privileged object that an access reaches. -/
  reached : Option String
  /-- A forbidden name to which a call resolves. -/
  callee : Option String
  /-- Whether a call loads a module. -/
  loads : Bool
  /-- A timer to which a call gives a text. -/
  timer : Option String
  /-- Whether a call inserts markup. -/
  inserts : Bool
  /-- A forbidden constructor. -/
  constructed : Option String
  /-- A forbidden target of an assignment. -/
  target : Option String
  /-- A forbidden property as the target of an assignment. -/
  markup : Option String
  /-- What an import or export loads. -/
  specifier : Option String
  deriving DecidableEq, Repr

/-- Whether the blocking rules object to a concern. -/
def Concern.isForbidden (policy : Policy) (concern : Concern) : Bool :=
  concern.word.isSome || concern.reached.isSome || concern.callee.isSome || concern.loads ||
    concern.timer.isSome || concern.inserts || concern.constructed.isSome ||
    concern.target.isSome || concern.markup.isSome ||
    concern.specifier.any fun specifier => !Specifier.isAllowed policy specifier

namespace Document

/-- The name that a call of `name` resolves to. -/
def calledName (name : String) : String :=
  let (receiver, rest) := splitReceiver name
  if !rest.isEmpty && globalReceivers.contains receiver && !rest.toList.contains '.' then rest else name

def constructedName (name : String) : String :=
  let (receiver, rest) := splitReceiver name
  if !rest.isEmpty && globalReceivers.contains receiver then rest else name

theorem calleeName_eq (document : Document) (call : Tree) :
    document.calleeName? call =
      ((call.child? .function).bind document.dottedName?).map calledName := rfl

theorem constructorName_eq (document : Document) (construction : Tree) :
    document.constructorName? construction =
      ((construction.child? .constructor).bind document.dottedName?).map constructedName := rfl

end Document

namespace Sight

def isOneOf (sight : Sight) (kinds : List Kind) : Bool := sight.kind.any kinds.contains

def concern (sight : Sight) : Concern where
  word := sight.word.filter Rule.privilegedGlobals.contains
  reached := if sight.isOneOf Rule.accessKinds then sight.dotted.bind Rule.reached? else none
  callee :=
    if sight.isOneOf [.callExpression] then
      (sight.callee.map Document.calledName).filter Rule.forbiddenCallees.contains
    else none
  loads := sight.isOneOf [.callExpression] && sight.loads
  timer :=
    if sight.isOneOf [.callExpression] && sight.givenText then
      (sight.callee.map Document.calledName).filter Rule.timers.contains
    else none
  inserts :=
    sight.isOneOf [.callExpression] && sight.calledProperty == some Rule.insertingProperty
  constructed :=
    if sight.isOneOf [.newExpression] then
      (sight.constructed.map Document.constructedName).filter Rule.forbiddenConstructors.contains
    else none
  target :=
    if sight.isOneOf Rule.assignmentKinds then
      sight.target.filter Rule.forbiddenTargets.contains
    else none
  markup :=
    if sight.isOneOf Rule.assignmentKinds then
      sight.targetProperty.filter Rule.markupProperties.contains
    else none
  specifier := if sight.isOneOf loadingKinds then sight.specifier else none

end Sight

namespace Rule

/-- The blocking rules with what each of them says of a concern. -/
def charges : List (Rule × (Policy → Concern → Option String)) := [
  (importPolicy, fun policy concern =>
    (concern.specifier.filter (!Specifier.isAllowed policy ·)).map (Specifier.violation policy)),
  (noEval, fun _ concern =>
    if concern.callee = some "eval" then some "Use of eval() is forbidden" else none),
  (noFunctionConstructor, fun _ concern =>
    if concern.callee = some "Function" ∨ concern.constructed = some "Function" then
      some "Use of the Function constructor is forbidden"
    else none),
  (noRequire, fun _ concern =>
    if concern.callee = some "require" then
      some "Use of require() is forbidden - use ES module imports instead"
    else none),
  (noDynamicImport, fun _ concern =>
    if concern.loads then some "Dynamic import() is forbidden" else none),
  (noStringTimer, fun _ concern => concern.timer.map fun name =>
    s!"Passing a string to {name}() evaluates it as code and is forbidden"),
  (noFetch, fun _ concern =>
    match concern.callee with
    | some "fetch" =>
      some "Direct fetch() calls are forbidden - use the provided utility functions instead"
    | some "navigator.sendBeacon" => some "navigator.sendBeacon() is forbidden"
    | _ => none),
  (noNetworkConstructor, fun _ concern =>
    (concern.constructed.filter connections.contains).map fun name =>
      s!"{name} is forbidden - use the provided utility functions instead"),
  (noPrivilegedGlobal, fun _ concern => concern.word.map privilegedMessage),
  (noPrivilegedMember, fun _ concern => concern.reached.map privilegedMessage),
  (noCookieWrite, fun _ concern =>
    (concern.target.filter cookieTargets.contains).map fun _ =>
      "Writing document.cookie is forbidden"),
  (noLocationAssignment, fun _ concern =>
    (concern.target.filter locationTargets.contains).map fun _ =>
      "Direct window.location manipulation is forbidden"),
  (noMarkupAssignment, fun _ concern => concern.markup.map fun name =>
    s!"Assignment to {name} is forbidden - render markup with components instead"),
  (noMarkupInjection, fun _ concern =>
    match concern.callee with
    | some "document.write" => some "document.write() is forbidden"
    | some "document.writeln" => some "document.writeln() is forbidden"
    | _ =>
      if concern.inserts then
        some "insertAdjacentHTML() is forbidden - render markup with components instead"
      else none)]

theorem map_charges : charges.map Prod.fst = blocking := rfl

end Rule

section Messages

variable {document : Document} {policy : Policy} {node : Tree} {name : String}

@[simp] theorem isOneOf_sight (kinds : List Kind) :
    (document.sight node).isOneOf kinds = node.isOneOf kinds := by
  rw [Sight.isOneOf, Tree.isOneOf, Document.sight]
  cases node.kind? <;> rfl

/-- A rule that looks at nodes alone speaks of the nodes of its constructs. -/
theorem message_onNodes (name : String) (category : Category) (severity : Severity) (kinds : List Kind)
    (message? : Document → Tree → Option String) :
    (Rule.onNodes name category severity kinds message?).message? document policy (.ofRoot node) =
      if node.isOneOf kinds then message? document node else none := by
  rw [Rule.message?]
  congr 1
  simp only [Rule.onNodes, Place.ofRoot]
  cases message? document node <;> rfl

theorem callee_concern :
    (document.sight node).concern.callee =
      if node.isOneOf [.callExpression] then
        (document.calleeName? node).filter Rule.forbiddenCallees.contains
      else none := by
  rw [Document.calleeName_eq]
  simp only [Sight.concern, isOneOf_sight]
  rfl

theorem timer_concern :
    (document.sight node).concern.timer =
      if node.isOneOf [.callExpression] &&
          node.callArguments.head?.any (·.isOneOf [.string, .templateString]) then
        (document.calleeName? node).filter Rule.timers.contains
      else none := by
  rw [Document.calleeName_eq]
  simp only [Sight.concern, isOneOf_sight]
  rfl

theorem constructed_concern :
    (document.sight node).concern.constructed =
      if node.isOneOf [.newExpression] then
        (document.constructorName? node).filter Rule.forbiddenConstructors.contains
      else none := by
  rw [Document.constructorName_eq]
  simp only [Sight.concern, isOneOf_sight]
  rfl

theorem callee_concern_eq_some_iff (listed : name ∈ Rule.forbiddenCallees) :
    (document.sight node).concern.callee = some name ↔
      node.isOneOf [.callExpression] = true ∧ document.calleeName? node = some name := by
  rw [callee_concern]
  split
  · rename_i call
    simp [call, Option.filter_eq_some_iff, listed]
  · rename_i other
    simp [other]

theorem constructed_concern_eq_some_iff (listed : name ∈ Rule.forbiddenConstructors) :
    (document.sight node).concern.constructed = some name ↔
      node.isOneOf [.newExpression] = true ∧ document.constructorName? node = some name := by
  rw [constructed_concern]
  split
  · rename_i construction
    simp [construction, Option.filter_eq_some_iff, listed]
  · rename_i other
    simp [other]

/-- A rule on calls of one name. -/
theorem message_call (listed : name ∈ Rule.forbiddenCallees) (message : String) :
    (if node.isOneOf [.callExpression] then
      if document.calleeName? node = some name then some message else none
    else none) =
      if (document.sight node).concern.callee = some name then some message else none := by
  rw [if_congr (callee_concern_eq_some_iff listed) rfl rfl]
  split <;> simp_all

theorem message_function :
    Rule.noFunctionConstructor.message? document policy (.ofRoot node) =
      if (document.sight node).concern.callee = some "Function" ∨
          (document.sight node).concern.constructed = some "Function" then
        some "Use of the Function constructor is forbidden"
      else none := by
  rw [Rule.noFunctionConstructor, message_onNodes,
    if_congr (or_congr (callee_concern_eq_some_iff (by decide))
      (constructed_concern_eq_some_iff (by decide))) rfl rfl]
  cases kind : node.kind? with
  | none => simp [Tree.isOneOf, kind]
  | some found =>
    by_cases call : found = .callExpression
    · simp [Tree.isOneOf, Tree.isKind, kind, call]
    · by_cases construction : found = .newExpression
      · simp [Tree.isOneOf, Tree.isKind, kind, construction]
      · simp [Tree.isOneOf, kind, call, construction]

theorem message_timer :
    Rule.noStringTimer.message? document policy (.ofRoot node) =
      (document.sight node).concern.timer.map fun name =>
        s!"Passing a string to {name}() evaluates it as code and is forbidden" := by
  rw [Rule.noStringTimer, Rule.onCalls, message_onNodes, timer_concern]
  by_cases call : node.isOneOf [.callExpression] = true
  · rw [if_pos call, call, Bool.true_and]
    cases document.calleeName? node with
    | none => simp
    | some name =>
      by_cases timer : name ∈ Rule.timers
      · by_cases given : node.callArguments.head?.any (·.isOneOf [.string, .templateString]) = true
        · simp [Option.filter_some, timer, given]
        · simp [timer, given]
      · simp [Option.filter_some, timer]
  · simp [call]

theorem message_network :
    Rule.noNetworkConstructor.message? document policy (.ofRoot node) =
      ((document.sight node).concern.constructed.filter Rule.connections.contains).map fun name =>
        s!"{name} is forbidden - use the provided utility functions instead" := by
  rw [Rule.noNetworkConstructor, message_onNodes, constructed_concern]
  by_cases construction : node.isOneOf [.newExpression] = true
  · rw [if_pos construction, if_pos construction, Option.filter_filter]
    cases document.constructorName? node with
    | none => rfl
    | some name =>
      by_cases listed : name ∈ Rule.connections
      · simp [Option.filter_some, listed, Rule.forbiddenConstructors]
      · simp [Option.filter_some, listed]
  · simp [construction]

theorem message_fetch :
    Rule.noFetch.message? document policy (.ofRoot node) =
      match (document.sight node).concern.callee with
      | some "fetch" =>
        some "Direct fetch() calls are forbidden - use the provided utility functions instead"
      | some "navigator.sendBeacon" => some "navigator.sendBeacon() is forbidden"
      | _ => none := by
  rw [Rule.noFetch, Rule.onCalls, message_onNodes, callee_concern]
  by_cases call : node.isOneOf [.callExpression] = true
  · rw [if_pos call, if_pos call]
    cases document.calleeName? node with
    | none => rfl
    | some name =>
      by_cases listed : name ∈ Rule.forbiddenCallees
      · have kept : (some name).filter Rule.forbiddenCallees.contains = some name := by
          simp [Option.filter_some, listed]
        exact kept.symm ▸ rfl
      · simp only [Rule.forbiddenCallees, List.mem_cons, not_or] at listed
        simp [Option.filter_some, listed, Rule.forbiddenCallees]
  · simp [call]

theorem message_injection :
    Rule.noMarkupInjection.message? document policy (.ofRoot node) =
      match (document.sight node).concern.callee with
      | some "document.write" => some "document.write() is forbidden"
      | some "document.writeln" => some "document.writeln() is forbidden"
      | _ =>
        if (document.sight node).concern.inserts then
          some "insertAdjacentHTML() is forbidden - render markup with components instead"
        else none := by
  have inserts : (document.sight node).concern.inserts = (node.isOneOf [.callExpression] &&
      (node.child? .function).bind (Rule.property? document) == some "insertAdjacentHTML") := by
    simp only [Sight.concern, isOneOf_sight]
    rfl
  rw [Rule.noMarkupInjection, message_onNodes, callee_concern, inserts]
  by_cases call : node.isOneOf [.callExpression] = true
  · simp only [call, if_true, Bool.true_and, beq_iff_eq]
    cases document.calleeName? node with
    | none => rfl
    | some name =>
      by_cases listed : name ∈ Rule.forbiddenCallees
      · have kept : (some name).filter Rule.forbiddenCallees.contains = some name := by
          simp [Option.filter_some, listed]
        exact kept.symm ▸ rfl
      · simp only [Rule.forbiddenCallees, List.mem_cons, not_or] at listed
        simp [Option.filter_some, listed, Rule.forbiddenCallees]
  · simp [call]

theorem message_targets (name message : String) {targets : List String}
    (listed : targets ⊆ Rule.forbiddenTargets) :
    (Rule.onTargets name targets message).message? document policy (.ofRoot node) =
      ((document.sight node).concern.target.filter targets.contains).map fun _ => message := by
  rw [Rule.onTargets, message_onNodes]
  have target : (document.sight node).concern.target = if node.isOneOf Rule.assignmentKinds then
      ((node.child? .left).bind document.dottedName?).filter Rule.forbiddenTargets.contains
      else none := by
    simp only [Sight.concern, isOneOf_sight]
    rfl
  rw [target]
  by_cases assignment : node.isOneOf Rule.assignmentKinds = true
  · rw [if_pos assignment, if_pos assignment, Option.filter_filter]
    cases (node.child? .left).bind document.dottedName? with
    | none => rfl
    | some name =>
      by_cases member : name ∈ targets
      · simp [Option.filter_some, member, listed member]
      · simp [Option.filter_some, member]
  · simp [assignment]

theorem message_import :
    Rule.importPolicy.message? document policy (.ofRoot node) =
      ((document.sight node).concern.specifier.filter (!Specifier.isAllowed policy ·)).map
        (Specifier.violation policy) := by
  have inspected : Rule.importPolicy.inspects (.ofRoot node) = node.isOneOf loadingKinds := rfl
  rw [Rule.message?, inspected]
  simp only [Sight.concern, isOneOf_sight]
  by_cases loading : node.isOneOf loadingKinds = true
  · rw [if_pos loading, if_pos loading]
    simp only [Rule.importPolicy, Place.ofRoot, Document.sight]
    cases document.specifier? node with
    | none => rfl
    | some specifier =>
      cases allowed : Specifier.isAllowed policy specifier <;> simp [Option.filter_some, allowed]
  · simp [loading]

theorem message_access :
    Rule.noPrivilegedMember.message? document policy (.ofRoot node) =
      (document.sight node).concern.reached.map Rule.privilegedMessage := by
  rw [Rule.noPrivilegedMember, message_onNodes]
  simp only [Sight.concern, isOneOf_sight]
  by_cases access : node.isOneOf Rule.accessKinds = true
  · simp only [access, if_true, Document.sight]
    cases document.dottedName? node with
    | none => rfl
    | some name =>
      simp only [Option.bind_some, Rule.reached?]
      split <;> rfl
  · simp [access]

theorem message_word :
    Rule.noPrivilegedGlobal.message? document policy (.ofRoot node) =
      (document.sight node).concern.word.map Rule.privilegedMessage := by
  rw [Rule.noPrivilegedGlobal, message_onNodes]
  simp only [Sight.concern, Document.sight]
  change (if node.isOneOf bareNameKinds then _ else none) = _
  by_cases named : node.isOneOf bareNameKinds = true
  · rw [if_pos named, if_pos named, Option.filter_some]
    split <;> rfl
  · rw [if_neg named, if_neg named]
    rfl

theorem message_markup :
    Rule.noMarkupAssignment.message? document policy (.ofRoot node) =
      (document.sight node).concern.markup.map fun name =>
        s!"Assignment to {name} is forbidden - render markup with components instead" := by
  rw [Rule.noMarkupAssignment, message_onNodes]
  simp only [Sight.concern, isOneOf_sight]
  by_cases assignment : node.isOneOf Rule.assignmentKinds = true
  · simp only [assignment, if_true, Document.sight]
    cases (node.child? .left).bind (Rule.property? document) with
    | none => rfl
    | some name =>
      simp only [Option.filter_some, Rule.markupProperties]
      split <;> rfl
  · simp [assignment]

theorem message_dynamic :
    Rule.noDynamicImport.message? document policy (.ofRoot node) =
      if (document.sight node).concern.loads then some "Dynamic import() is forbidden" else none := by
  rw [Rule.noDynamicImport, Rule.onCalls, message_onNodes]
  simp only [Sight.concern, isOneOf_sight]
  cases node.isOneOf [.callExpression] <;> rfl

/-- What a blocking rule says of a node is what it says of the node's concern. -/
theorem message_charge (member : entry ∈ Rule.charges) :
    entry.1.message? document policy (.ofRoot node) =
      entry.2 policy (document.sight node).concern := by
  have call {name : String} (listed : name ∈ Rule.forbiddenCallees) (ruleName message : String) :
      (Rule.onCalls ruleName fun document call =>
          if document.calleeName? call = some name then some message else none).message? document
            policy (.ofRoot node) =
        if (document.sight node).concern.callee = some name then some message else none := by
    rw [Rule.onCalls, message_onNodes]
    exact message_call listed message
  simp only [Rule.charges, List.mem_cons, List.not_mem_nil, or_false] at member
  rcases member with rfl | rfl | rfl | rfl | rfl | rfl | rfl | rfl | rfl | rfl | rfl | rfl | rfl | rfl
  · exact message_import
  · exact call (by decide) _ _
  · exact message_function
  · exact call (by decide) _ _
  · exact message_dynamic
  · exact message_timer
  · exact message_fetch
  · exact message_network
  · exact message_word
  · exact message_access
  · exact message_targets _ _ (List.subset_append_left _ _)
  · exact message_targets _ _ (List.subset_append_right _ _)
  · exact message_markup
  · exact message_injection

end Messages

/-- What the blocking rules say of a concern on a line. -/
def Concern.objections (policy : Policy) (line : Nat) (concern : Concern) : List Finding :=
  Rule.charges.filterMap fun entry =>
    (entry.2 policy concern).map fun message => entry.1.finding message (some line)

section Objections

variable {document : Document} {policy : Policy} {node : Tree}

theorem objections_eq :
    objections document policy node =
      (document.sight node).concern.objections policy node.line := by
  rw [objections, remarks, ← Rule.map_charges, List.filterMap_map, Concern.objections]
  apply List.filterMap_congr
  intro entry member
  simp only [Function.comp, Rule.remark?, message_charge member]
  rfl

/-- The names of a concern are out of the lists of forbidden names. -/
theorem names_concern (sight : Sight) :
    (∀ name ∈ sight.concern.callee, name ∈ Rule.forbiddenCallees) ∧
      (∀ name ∈ sight.concern.constructed, name ∈ Rule.forbiddenConstructors) ∧
      ∀ name ∈ sight.concern.target, name ∈ Rule.forbiddenTargets := by
  have gated {shows : Bool} {found : Option String} {names : List String} :
      ∀ name ∈ (if shows then found.filter names.contains else none), name ∈ names := by
    intro name named
    cases shows with
    | false => cases named
    | true => simpa using (Option.filter_eq_some_iff.1 named).2
  exact ⟨gated, gated, gated⟩

theorem objections_concern_eq_nil_iff (sight : Sight) (line : Nat) :
    sight.concern.objections policy line = [] ↔ sight.concern.isForbidden policy = false := by
  obtain ⟨callees, constructors, targets⟩ := names_concern sight
  generalize sight.concern = concern at callees constructors targets ⊢
  simp only [Concern.objections, List.filterMap_eq_nil_iff, Option.map_eq_none_iff, Rule.charges,
    List.forall_mem_cons, Concern.isForbidden, Bool.or_eq_false_iff, Option.isSome_eq_false_iff,
    Option.isNone_iff_eq_none]
  constructor
  · rintro ⟨imported, eval, function, require, loads, timer, connected, constructed, word, reached,
      cookie, location, markup, injection, -⟩
    have uncalled : concern.callee = none := by
      refine Option.eq_none_iff_forall_not_mem.2 fun name called => ?_
      have listed := callees name called
      rw [Option.mem_def] at called
      simp only [Rule.forbiddenCallees, List.mem_cons, List.not_mem_nil, or_false] at listed
      rcases listed with rfl | rfl | rfl | rfl | rfl | rfl | rfl <;> simp [called] at *
    have unconstructed : concern.constructed = none := by
      refine Option.eq_none_iff_forall_not_mem.2 fun name found => ?_
      have listed := constructors name found
      rw [Option.mem_def] at found
      rw [Rule.forbiddenConstructors, List.mem_cons] at listed
      rcases listed with rfl | listed
      · simp [found] at function
      · simp [found, Option.filter_some, listed] at constructed
    have untargeted : concern.target = none := by
      refine Option.eq_none_iff_forall_not_mem.2 fun name found => ?_
      have listed := targets name found
      rw [Option.mem_def] at found
      rw [Rule.forbiddenTargets, List.mem_append] at listed
      rcases listed with listed | listed
      · simp [found, Option.filter_some, listed] at cookie
      · simp [found, Option.filter_some, listed] at location
    have allowed : concern.specifier.any (fun specifier => !Specifier.isAllowed policy specifier) =
        false := by
      cases found : concern.specifier with
      | none => rfl
      | some specifier => simpa [found, Option.filter_some] using imported
    simp_all
  · rintro ⟨⟨⟨⟨⟨⟨⟨⟨⟨word, reached⟩, callee⟩, loads⟩, timer⟩, inserts⟩, constructed⟩, target⟩,
      markup⟩, allowed⟩
    have imported : concern.specifier.filter (!Specifier.isAllowed policy ·) = none := by
      cases found : concern.specifier with
      | none => rfl
      | some specifier => simpa [found, Option.filter_some] using allowed
    simp [word, reached, callee, loads, timer, inserts, constructed, target, markup, imported]

end Objections

end ComponentGate
