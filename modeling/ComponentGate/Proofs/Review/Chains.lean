import ComponentGate.Proofs.Review.Receivers
import ComponentGate.Syntax.Parse
import Mathlib.Data.List.TakeWhile

/-! Chains of accesses. Each node of a chain is judged by itself, and the name of each begins with the
names of those below it. A privileged object is still forbidden once in a chain: at its bare name, or at the
access that reaches it through a window. -/

namespace ComponentGate

open Syntax

/-- Whether a finding forbids the access to an object. -/
def Finding.forbidsAccess (finding : Finding) : Bool :=
  finding.isError && "Access to the ".toList.isPrefixOf finding.message.toList

/-- A chain of accesses on an identifier: the node that the chain ends in, the keys by which it goes on
from the identifier, and its nodes from the end back to the identifier. Names and keys are meant as they are
spelled. -/
inductive IsChain (document : Document) (receiver : String) : Tree → List String → List Tree → Prop where
  | bare {node : Tree} (word : node.isKind .identifier = true)
      (spelled : document.text node = receiver) : IsChain document receiver node [] [node]
  | member {node object property : Tree} {keys : List String} {nodes : List Tree}
      (access : node.isKind .memberExpression = true) (inner : node.child? .object = some object)
      (named : node.child? .property = some property)
      (plain : property.isKind .propertyIdentifier = true)
      (chain : IsChain document receiver object keys nodes) :
      IsChain document receiver node (keys ++ [document.text property]) (node :: nodes)
  | subscript {node object index : Tree} {key : String} {keys : List String} {nodes : List Tree}
      (access : node.isKind .subscriptExpression = true) (inner : node.child? .object = some object)
      (indexed : node.child? .index = some index) (literal : document.stringValue? index = some key)
      (chain : IsChain document receiver object keys nodes) :
      IsChain document receiver node (keys ++ [key]) (node :: nodes)

/-- Whether the object of a chain is privileged, or the one that a window is asked for. -/
def isPrivilegedChain (receiver : String) (keys : List String) : Bool :=
  Rule.privilegedGlobals.contains receiver ||
    (Rule.windowReceivers.contains receiver && keys.head?.any Rule.privilegedGlobals.contains)

theorem windowReceivers_eq : Rule.windowReceivers = ["window", "self"] := by decide

theorem pointless_of_window : ∀ name ∈ Rule.windowReceivers, name.toList.contains '.' = false := by
  decide

theorem unprivileged_of_window : ∀ name ∈ Rule.windowReceivers, name ∉ Rule.privilegedGlobals := by
  decide

section Names

variable {receiver : String} {keys : List String}

/-- A point in the receiver of a name is a point in what stands behind its first part. -/
theorem mem_rest_of_point (point : receiver.toList.contains '.' = true) (filled : keys ≠ []) :
    (Document.splitReceiver (pointed (receiver :: keys))).2.toList.contains '.' = true := by
  have stops : ¬∀ c ∈ receiver.toList, decide (c ≠ '.') = true := fun free => by
    simpa using free '.' (List.contains_iff_mem.1 point)
  have more : (receiver.toList.dropWhile fun c => decide (c ≠ '.')) ≠ [] :=
    fun none => stops (List.dropWhile_eq_nil_iff.1 none)
  obtain ⟨first, rest, eq⟩ := List.exists_cons_of_ne_nil more
  rw [Document.splitReceiver, toList_pointed_cons filled, String.toList_ofList, List.dropWhile_append,
    if_neg (by simpa using more), eq]
  simp

/-- An access reaches a privileged object if it is the first to go on from a window. -/
theorem reached_keys (filled : keys ≠ []) :
    (Rule.reached? (pointed (receiver :: keys))).isSome =
      (Rule.windowReceivers.contains receiver &&
        (keys.length == 1 && keys.head?.any Rule.privilegedGlobals.contains)) := by
  cases point : receiver.toList.contains '.' with
  | false => exact reached_pointed point
  | true =>
    have other : receiver ∉ Rule.windowReceivers := fun window => by
      rw [pointless_of_window receiver window] at point
      cases point
    have beyond : (Document.splitReceiver (pointed (receiver :: keys))).2 ∉
        Rule.privilegedGlobals := fun privileged => by
      have inside := mem_rest_of_point point filled
      rw [pointless_of_plain (plain_privilegedGlobals _ privileged)] at inside
      cases inside
    simp [Rule.reached?, other, beyond]

/-- One more access makes a chain privileged if it is the one that reaches a privileged object. -/
theorem isPrivilegedChain_append (key : String) :
    (isPrivilegedChain receiver (keys ++ [key])).toNat =
      (Rule.reached? (pointed (receiver :: (keys ++ [key])))).isSome.toNat +
        (isPrivilegedChain receiver keys).toNat := by
  rw [reached_keys (by simp)]
  cases keys with
  | nil =>
    by_cases window : receiver ∈ Rule.windowReceivers
    · simp [isPrivilegedChain, window, unprivileged_of_window receiver window]
    · simp [isPrivilegedChain, window]
  | cons first rest => simp [isPrivilegedChain]

end Names

section Nodes

variable {document : Document} {policy : Policy} {node : Tree}

theorem forbidsAccess_privilegedMessage (rule : Rule) (severe : rule.severity = .error) (name : String)
    (line : Nat) :
    (rule.finding (Rule.privilegedMessage name) (some line)).forbidsAccess = true := by
  have named : Rule.privilegedMessage name = "Access to the " ++ name ++ " object is forbidden" := rfl
  have opens : "Access to the ".toList <+: (Rule.privilegedMessage name).toList := by
    rw [named]
    simp only [String.toList_append, List.append_assoc]
    exact List.prefix_append _ _
  have error : (rule.finding (Rule.privilegedMessage name) (some line)).isError = true := by
    simp [Finding.isError, Rule.finding, severe]
  rw [Finding.forbidsAccess, error, Bool.true_and]
  exact List.isPrefixOf_iff_prefix.2 (opens.trans (rule.prefix_message_finding _ line))

/-- What has only privileged objects to it is forbidden as often as it names and reaches one. -/
theorem countP_objections {word reached : Option String}
    (concern : (document.sight node).concern = { Concern.empty with word, reached }) :
    (objections document policy node).countP Finding.forbidsAccess =
      word.isSome.toNat + reached.isSome.toNat := by
  have named := forbidsAccess_privilegedMessage Rule.noPrivilegedGlobal rfl
  have accessed := forbidsAccess_privilegedMessage Rule.noPrivilegedMember rfl
  have findings : objections document policy node =
      (word.map fun name =>
        Rule.noPrivilegedGlobal.finding (Rule.privilegedMessage name) (some node.line)).toList ++
      (reached.map fun name =>
        Rule.noPrivilegedMember.finding (Rule.privilegedMessage name) (some node.line)).toList := by
    rw [objections_eq, concern]
    cases word <;> cases reached <;> rfl
  rw [findings, List.countP_append]
  cases word <;> cases reached <;> simp [named, accessed]

theorem countP_bare (word : node.isKind .identifier = true) :
    (objections document policy node).countP Finding.forbidsAccess =
      (Rule.privilegedGlobals.contains (document.text node)).toNat := by
  have kind : node.kind? = some .identifier := by simpa [Tree.isKind] using word
  have concern : (document.sight node).concern = { Concern.empty with
      word := (some (document.text node)).filter Rule.privilegedGlobals.contains } := by
    simp [Sight.concern, Sight.isOneOf, Document.sight, Tree.isOneOf, kind, Concern.empty,
      bareNameKinds, Rule.accessKinds, Rule.assignmentKinds, loadingKinds]
  rw [countP_objections concern, Option.filter_some]
  cases Rule.privilegedGlobals.contains (document.text node) <;> rfl

theorem countP_access (access : node.isOneOf Rule.accessKinds = true) {name : String}
    (dotted : document.dottedName? node = some name) :
    (objections document policy node).countP Finding.forbidsAccess =
      (Rule.reached? name).isSome.toNat := by
  have concern : (document.sight node).concern =
      { Concern.empty with reached := Rule.reached? name } := by
    have drafted := Draft.concern_access (document.draft node) (by simpa using access)
    rw [Draft.concern, sight_draft] at drafted
    rw [drafted, ← Document.outlook, dotted_outlook, dotted, Option.bind_some]
  rw [countP_objections concern]
  exact Nat.zero_add _

end Nodes

namespace IsChain

variable {document : Document} {receiver : String} {top root : Tree} {keys : List String}
  {nodes : List Tree}

/-- A chain is named by its identifier and its keys. -/
theorem dotted (chain : IsChain document receiver top keys nodes) :
    document.dottedName? top = some (pointed (receiver :: keys)) := by
  induction chain with
  | bare word spelled =>
    rw [dottedName_eq, Tree.isKind_iff.1 word, spelled, pointed_singleton]
  | member access inner named plain _ ih =>
    rw [dottedName_eq, Tree.isKind_iff.1 access, inner, named, Option.bind_some, ih, ← List.cons_append,
      pointed_append (by simp)]
    simp [plain]
  | subscript access inner indexed literal _ ih =>
    rw [dottedName_eq, Tree.isKind_iff.1 access, inner, indexed, Option.bind_some, Option.bind_some, ih,
      literal, ← List.cons_append, pointed_append (by simp)]

/-- The nodes of a chain stand in a tree in the order from its end to its identifier. -/
theorem sublist_preorder (chain : IsChain document receiver top keys nodes)
    (visited : top ∈ root.preorder) : nodes.Sublist root.preorder := by
  have longer {node object : Tree} {below : List Tree} (inner : node.child? .object = some object)
      (within : below.Sublist object.preorder) : (node :: below).Sublist node.preorder := by
    have part := (List.singleton_sublist.2 (List.mem_of_find?_eq_some inner)).flatMap Tree.preorder
    rw [List.flatMap_singleton] at part
    rw [Tree.preorder_eq]
    exact (within.trans part).cons_cons node
  have own : nodes.Sublist top.preorder := by
    clear visited
    induction chain with
    | @bare node _ _ => exact List.singleton_sublist.2 node.mem_preorder_self
    | member _ inner _ _ _ ih => exact longer inner ih
    | subscript _ inner _ _ _ ih => exact longer inner ih
  exact own.trans (Tree.preorder_sublist_of_mem_preorder visited)

/-- One more access forbids the access to an object if it makes the chain privileged. -/
theorem countP_longer {policy : Policy} {node : Tree} {key : String}
    (access : node.isOneOf Rule.accessKinds = true)
    (dotted : document.dottedName? node = some (pointed (receiver :: (keys ++ [key]))))
    (below : (nodes.flatMap (objections document policy)).countP Finding.forbidsAccess =
      (isPrivilegedChain receiver keys).toNat) :
    ((node :: nodes).flatMap (objections document policy)).countP Finding.forbidsAccess =
      (isPrivilegedChain receiver (keys ++ [key])).toNat := by
  rw [List.flatMap_cons, List.countP_append, below, countP_access access dotted, isPrivilegedChain_append]

/-- Along a chain the access to an object is forbidden once if the chain is privileged, and else never. -/
theorem countP_forbidsAccess {policy : Policy} (chain : IsChain document receiver top keys nodes) :
    (nodes.flatMap (objections document policy)).countP Finding.forbidsAccess =
      (isPrivilegedChain receiver keys).toNat := by
  have dotted := chain.dotted
  induction chain with
  | bare word spelled =>
    rw [List.flatMap_singleton, countP_bare word, spelled, isPrivilegedChain, List.head?_nil]
    simp
  | member access inner named plain chain ih =>
    exact countP_longer (Tree.isOneOf_of_isKind access (by decide)) dotted (ih chain.dotted)
  | subscript access inner indexed literal chain ih =>
    exact countP_longer (Tree.isOneOf_of_isKind access (by decide)) dotted (ih chain.dotted)

end IsChain

/-- The errors of a report are told node by node. Those that forbid the access to an object are told once at
the nodes of a chain of accesses, maximal or not, if the chain begins with a privileged object or asks a
window for one with its first key, and else never. -/
theorem privileged_once_per_chain (parse : Parse) (source : String) (policy : Policy)
    (readable : (Document.ofSource parse source).hasErrors = false) {receiver : String} {top : Tree}
    {keys : List String} {nodes : List Tree}
    (chain : IsChain (.ofSource parse source) receiver top keys nodes)
    (visited : top ∈ (Document.ofSource parse source).root.preorder) :
    (review parse source policy Rule.standard).findings.filter Finding.isError =
        (Document.ofSource parse source).root.preorder.flatMap
          (objections (.ofSource parse source) policy) ∧
      nodes.Sublist (Document.ofSource parse source).root.preorder ∧
      (nodes.flatMap (objections (.ofSource parse source) policy)).countP Finding.forbidsAccess =
        if receiver ∈ ["process", "global", "globalThis"] ∨
            receiver ∈ ["window", "self"] ∧
              ∃ key ∈ keys.head?, key ∈ ["process", "global", "globalThis"] then 1
        else 0 := by
  refine ⟨?_, chain.sublist_preorder visited, ?_⟩
  · rw [review_eq, filter_isError_findings readable]
  · have told : isPrivilegedChain receiver keys = true ↔
        receiver ∈ ["process", "global", "globalThis"] ∨
          receiver ∈ ["window", "self"] ∧
            ∃ key ∈ keys.head?, key ∈ ["process", "global", "globalThis"] := by
      rw [isPrivilegedChain, Rule.privilegedGlobals, windowReceivers_eq, Bool.or_eq_true,
        Bool.and_eq_true, List.contains_iff_mem, List.contains_iff_mem]
      simp only [Option.any_eq_true, List.contains_iff_mem, Option.mem_def]
    rw [chain.countP_forbidsAccess, ← if_congr told rfl rfl]
    cases isPrivilegedChain receiver keys <;> rfl

/-- A chain that asks a window for a privileged object and goes on from there. -/
def keyedAccess : String := "window['process'].env;\n"

/-- A node of `keyedAccess` by its number in pre-order. -/
def keyedAccessNode (number : Nat) : Tree :=
  (Document.ofSource Syntax.parse keyedAccess).root.preorder[number]?.getD default

theorem keyedAccess_reported_once :
    IsChain (.ofSource Syntax.parse keyedAccess) "window" (keyedAccessNode 2) ["process", "env"]
        [keyedAccessNode 2, keyedAccessNode 3, keyedAccessNode 4] ∧
      (([keyedAccessNode 2, keyedAccessNode 3, keyedAccessNode 4].flatMap
        (objections (.ofSource Syntax.parse keyedAccess) .standard)).countP Finding.forbidsAccess) =
          1 := by
  -- evaluated together, so that the text is parsed once
  obtain ⟨readable, visited, ⟨access, inner, named, plain, last⟩, ⟨access', inner', indexed, key⟩,
      word, receiver⟩ :
      (Document.ofSource Syntax.parse keyedAccess).hasErrors = false ∧
      keyedAccessNode 2 ∈ (Document.ofSource Syntax.parse keyedAccess).root.preorder ∧
      ((keyedAccessNode 2).isKind .memberExpression = true ∧
        (keyedAccessNode 2).child? .object = some (keyedAccessNode 3) ∧
        (keyedAccessNode 2).child? .property = some (keyedAccessNode 12) ∧
        (keyedAccessNode 12).isKind .propertyIdentifier = true ∧
        (Document.ofSource Syntax.parse keyedAccess).text (keyedAccessNode 12) = "env") ∧
      ((keyedAccessNode 3).isKind .subscriptExpression = true ∧
        (keyedAccessNode 3).child? .object = some (keyedAccessNode 4) ∧
        (keyedAccessNode 3).child? .index = some (keyedAccessNode 6) ∧
        (Document.ofSource Syntax.parse keyedAccess).stringValue? (keyedAccessNode 6) =
          some "process") ∧
      (keyedAccessNode 4).isKind .identifier = true ∧
      (Document.ofSource Syntax.parse keyedAccess).text (keyedAccessNode 4) = "window" := by
    decide +kernel
  have inside := IsChain.subscript access' inner' indexed key (.bare word receiver)
  have chain := IsChain.member access inner named plain inside
  rw [last] at chain
  exact ⟨chain, (privileged_once_per_chain _ _ .standard readable chain visited).2.2⟩

end ComponentGate
