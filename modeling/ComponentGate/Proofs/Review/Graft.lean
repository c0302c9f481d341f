import ComponentGate.Proofs.Review.Outline

/-! Grafts. A graft changes what stands below the constructs of a tree, but not below those into which a
blocking rule looks. Whatever it puts in, the rules say of the old nodes what they said before. -/

namespace ComponentGate

open Syntax

/-- Constructs into which a blocking rule looks. -/
def searchedKinds : List Kind :=
  [.callExpression, .newExpression, .memberExpression, .subscriptExpression, .assignmentExpression,
    .augmentedAssignment, .importStatement, .exportStatement]

namespace Syntax.Tree

/-- Whether a blocking rule may look at what is directly below a node. -/
def isSearched (tree : Tree) : Bool := tree.isOneOf searchedKinds || tree.role == some .arguments

/-- Whether a blocking rule may look at a node's text. -/
def isTold (tree : Tree) : Bool :=
  tree.isOneOf (.thisName :: bareNameKinds) || tree.role == some .property ||
    (tree.isSpelledString && (tree.role == some .index || tree.role == some .source))

end Syntax.Tree

/-- What comes below a node, in place of the outlines of its own parts. -/
abbrev Graft := Tree → List Outline → List Outline

namespace Graft

/-- The graft that changes nothing. -/
def none : Graft := fun _ below => below

/-- Whether a graft leaves alone what is directly below a node. -/
def Spares (graft : Graft) (tree : Tree) : Prop :=
  tree.isSearched = true ∨ ∀ below, graft tree below = below

end Graft

namespace Document

mutual

/-- A tree's outline with the texts that are asked for, and with a graft wherever no rule looks. -/
def grafted (document : Document) (spelled : Tree → Bool) (graft : Graft) : Tree → Outline
  | .node label children =>
    .node label.symbol label.role
      (if spelled (.node label children) then some (document.text (.node label children)) else none)
      (if (Syntax.Tree.node label children).isSearched then
        graftedAll document spelled graft children
      else graft (.node label children) (graftedAll document spelled graft children))

def graftedAll (document : Document) (spelled : Tree → Bool) (graft : Graft) :
    List Tree → List Outline
  | [] => []
  | tree :: rest =>
    if tree.isHeard then
      grafted document spelled graft tree :: graftedAll document spelled graft rest
    else graftedAll document spelled graft rest

end

/-- A tree's outline with no other texts than the blocking rules look at. -/
def sketch (document : Document) : Tree → Outline := document.grafted Tree.isTold .none

mutual

theorem grafted_none (document : Document) : (tree : Tree) →
    document.grafted Tree.isSpelled .none tree = document.outline tree
  | .node label children => by
    rw [grafted, outline, graftedAll_none document children]
    simp [Graft.none]

theorem graftedAll_none (document : Document) : (trees : List Tree) →
    document.graftedAll Tree.isSpelled .none trees = document.outlineAll trees
  | [] => rfl
  | tree :: rest => by
    rw [graftedAll, outlineAll, grafted_none document tree, graftedAll_none document rest]

end

end Document

/-- Whether the texts at which a blocking rule may look are among those asked for. -/
def Telling (spelled : Tree → Bool) : Prop := ∀ tree : Tree, tree.isTold = true → spelled tree = true

theorem telling_isTold : Telling Tree.isTold := fun _ told => told

theorem telling_isSpelled : Telling Tree.isSpelled := by
  intro tree told
  simp only [Tree.isTold, Tree.isSpelled, Bool.or_eq_true, Bool.and_eq_true] at told ⊢
  rcases told with (name | property) | literal
  · exact .inl (.inl name)
  · exact .inr property
  · exact .inl (.inr literal.1)

theorem isHeard_of_role {tree : Tree} {role : Role} (played : (tree.role == some role) = true) :
    tree.isHeard = true := by
  rw [beq_iff_eq] at played
  simp [Tree.isHeard, played]

theorem role_of_child {tree child : Tree} {role : Role} (found : tree.child? role = some child) :
    child.role = some role := by
  have played := List.find?_some found
  simpa using played

theorem isSearched_of_mem {tree : Tree} {kind : Kind} (found : tree.kind? = some kind)
    (listed : kind ∈ searchedKinds) : tree.isSearched = true := by
  simp [Tree.isSearched, Tree.isOneOf, found, listed]

theorem Graft.spares_none (tree : Tree) : Graft.none.Spares tree := .inr fun _ => rfl

namespace Outline

theorem dottedChild_eq (role : Role) (outlines : List Outline) :
    dottedChild? role outlines =
      (outlines.find? fun outline => outline.role == some role).bind dotted? := by
  induction outlines with
  | nil => rfl
  | cons outline rest ih =>
    by_cases played : (outline.role == some role) = true
    · simp [dottedChild?, played]
    · simp [dottedChild?, played, ih]

theorem dotted_eq (outline : Outline) :
    outline.dotted? =
      match outline.symbol with
      | .construct .identifier => outline.text
      | .construct .thisName => outline.text
      | .construct .memberExpression =>
        match (outline.child? .object).bind dotted?, outline.child? .property with
        | some object, some property =>
          if property.kind? == some .propertyIdentifier then
            property.text.map fun name => s!"{object}.{name}"
          else none
        | _, _ => none
      | .construct .subscriptExpression =>
        match (outline.child? .object).bind dotted?,
            (outline.child? .index).bind stringValue? with
        | some object, some key => some s!"{object}.{key}"
        | _, _ => none
      | _ => none := by
  cases outline with
  | node symbol role text children =>
    conv =>
      lhs
      unfold dotted?
    rw [dottedChild_eq]
    rfl

end Outline

section Views

variable (document : Document) (spelled : Tree → Bool) (graft : Graft) (tree : Tree)

theorem graftedAll_eq (trees : List Tree) :
    document.graftedAll spelled graft trees =
      (trees.filter Tree.isHeard).map (document.grafted spelled graft) := by
  induction trees with
  | nil => rfl
  | cons tree rest ih =>
    by_cases heard : tree.isHeard = true
    · simp [Document.graftedAll, heard, ih]
    · simp [Document.graftedAll, heard, ih]

@[simp] theorem symbol_grafted :
    (document.grafted spelled graft tree).symbol = tree.label.symbol := by
  cases tree
  rfl

@[simp] theorem role_grafted : (document.grafted spelled graft tree).role = tree.role := by
  cases tree
  rfl

@[simp] theorem kind_grafted : (document.grafted spelled graft tree).kind? = tree.kind? := by
  cases tree
  rfl

@[simp] theorem isOneOf_grafted (kinds : List Kind) :
    (document.grafted spelled graft tree).isOneOf kinds = tree.isOneOf kinds := by
  rw [Outline.isOneOf, kind_grafted, Tree.isOneOf]
  cases tree.kind? <;> rfl

theorem text_grafted :
    (document.grafted spelled graft tree).text =
      if spelled tree then some (document.text tree) else none := by
  cases tree
  rfl

theorem children_grafted :
    (document.grafted spelled graft tree).children =
      if tree.isSearched then (tree.children.filter Tree.isHeard).map (document.grafted spelled graft)
      else graft tree ((tree.children.filter Tree.isHeard).map (document.grafted spelled graft)) := by
  cases tree with
  | node label children =>
    simp only [Document.grafted, Outline.children, graftedAll_eq, Tree.children_node]

end Views

section Spared

variable {document : Document} {spelled : Tree → Bool} {graft : Graft} {tree : Tree}

theorem children_of_spares (spared : graft.Spares tree) :
    (document.grafted spelled graft tree).children =
      (tree.children.filter Tree.isHeard).map (document.grafted spelled graft) := by
  rw [children_grafted]
  rcases spared with searched | same
  · rw [if_pos searched]
  · rw [same, ite_self]

theorem child_grafted (spared : graft.Spares tree) (role : Role) :
    (document.grafted spelled graft tree).child? role =
      (tree.child? role).map (document.grafted spelled graft) := by
  rw [Outline.child?, children_of_spares spared, Tree.child?, List.find?_map, List.find?_filter]
  congr 2
  funext child
  by_cases played : (child.role == some role) = true
  · simp [played, isHeard_of_role played]
  · simp [played]

theorem significantChildren_grafted (spared : graft.Spares tree) :
    (document.grafted spelled graft tree).significantChildren =
      tree.significantChildren.map (document.grafted spelled graft) := by
  rw [Outline.significantChildren, children_of_spares spared, Tree.significantChildren,
    Tree.namedChildren, List.filter_map, List.filter_filter, List.filter_filter]
  congr 2
  funext child
  rw [Bool.eq_iff_iff]
  cases kind : child.kind? with
  | none => simp [Tree.isNamed, kind]
  | some kind => simp +contextual [Tree.isHeard, Tree.isNamed, Tree.isComment, Tree.isKind, kind]

/-- What is seen of a grafted child is what is seen of the child. -/
theorem bind_child_grafted (spared : graft.Spares tree) (role : Role)
    {shown : Outline → Option α} {seen : Tree → Option α}
    (agree : ∀ child, tree.child? role = some child →
      shown (document.grafted spelled graft child) = seen child) :
    ((document.grafted spelled graft tree).child? role).bind shown =
      (tree.child? role).bind seen := by
  rw [child_grafted spared]
  cases found : tree.child? role with
  | none => rfl
  | some child => exact agree child found

end Spared

section Texts

variable {document : Document} {spelled : Tree → Bool} {graft : Graft} {tree : Tree}
  (tells : Telling spelled)
include tells

theorem text_of_isTold (told : tree.isTold = true) :
    (document.grafted spelled graft tree).text = some (document.text tree) := by
  rw [text_grafted, if_pos (tells tree told)]

theorem stringValue_grafted (placed : tree.role = some .index ∨ tree.role = some .source) :
    (document.grafted spelled graft tree).stringValue? = document.stringValue? tree := by
  have literal : ((document.grafted spelled graft tree).symbol == .construct .string ||
      (document.grafted spelled graft tree).symbol == .token "string") = tree.isSpelledString := by
    rw [symbol_grafted, Tree.isSpelledString, Tree.isKind, Tree.isToken, Tree.kind?, Bool.eq_iff_iff]
    cases tree.label.symbol <;> simp
  rw [Outline.stringValue?, literal, Document.stringValue?]
  by_cases quoted : tree.isSpelledString = true
  · have told : tree.isTold = true := by
      rcases placed with index | source
      · simp [Tree.isTold, quoted, index]
      · simp [Tree.isTold, quoted, source]
    simp [quoted, text_of_isTold tells told]
  · simp [quoted]

theorem text_of_property {property : Tree} (found : tree.child? .property = some property) :
    (document.grafted spelled graft property).text = some (document.text property) := by
  apply text_of_isTold tells
  simp [Tree.isTold, role_of_child found]

theorem property_grafted :
    (document.grafted spelled graft tree).property? = Rule.property? document tree := by
  rw [Outline.property?, Rule.property?, kind_grafted, Tree.isKind]
  by_cases access : (tree.kind? == some .memberExpression) = true
  · have searched : tree.isSearched = true := isSearched_of_mem (by simpa using access) (by decide)
    rw [if_pos access, if_pos access, child_grafted (.inl searched)]
    cases found : tree.child? .property with
    | none => rfl
    | some property => exact text_of_property tells found
  · rw [if_neg access, if_neg access]

end Texts

section Sights

variable {document : Document} {spelled : Tree → Bool} {graft : Graft}

theorem dotted_grafted (tells : Telling spelled)
    (tree : Tree) : (document.grafted spelled graft tree).dotted? = document.dottedName? tree := by
  induction tree using Tree.induction_on_children with
  | step tree ih =>
    have object (searched : tree.isSearched = true) :
        ((document.grafted spelled graft tree).child? .object).bind Outline.dotted? =
          (tree.child? .object).bind document.dottedName? :=
      bind_child_grafted (.inl searched) .object fun child found =>
        ih child (List.mem_of_find?_eq_some found)
    rw [Outline.dotted_eq, dottedName_eq, symbol_grafted]
    by_cases identifier : tree.label.symbol = .construct .identifier
    · have told : tree.isTold = true := by
        simp [Tree.isTold, Tree.isOneOf, Tree.kind?, identifier, bareNameKinds]
      simp only [identifier, text_of_isTold tells told]
    by_cases thisName : tree.label.symbol = .construct .thisName
    · have told : tree.isTold = true := by simp [Tree.isTold, Tree.isOneOf, Tree.kind?, thisName]
      simp only [thisName, text_of_isTold tells told]
    by_cases member : tree.label.symbol = .construct .memberExpression
    · have kind : tree.kind? = some .memberExpression := by rw [Tree.kind?, member]
      have searched : tree.isSearched = true := isSearched_of_mem kind (by decide)
      simp only [member]
      rw [object searched, child_grafted (.inl searched)]
      cases (tree.child? .object).bind document.dottedName? with
      | none => rfl
      | some receiver =>
        cases found : tree.child? .property with
        | none => rfl
        | some property => simp [text_of_property tells found, Tree.isKind]
    by_cases subscript : tree.label.symbol = .construct .subscriptExpression
    · have kind : tree.kind? = some .subscriptExpression := by rw [Tree.kind?, subscript]
      have searched : tree.isSearched = true := isSearched_of_mem kind (by decide)
      have key : ((document.grafted spelled graft tree).child? .index).bind Outline.stringValue? =
          (tree.child? .index).bind document.stringValue? :=
        bind_child_grafted (.inl searched) .index fun key found =>
          stringValue_grafted tells (.inl (role_of_child found))
      simp only [subscript]
      rewrite [object searched, key]
      rfl
    · simp

variable (document graft) in
theorem word_grafted (tells : Telling spelled) (tree : Tree) :
    (if tree.isOneOf bareNameKinds then (document.grafted spelled graft tree).text else none) =
      if tree.isOneOf bareNameKinds then some (document.text tree) else none := by
  by_cases named : tree.isOneOf bareNameKinds = true
  · have told : tree.isTold = true := by
      cases kind : tree.kind? <;> simp_all [Tree.isTold, Tree.isOneOf]
    rw [text_of_isTold tells told]
  · rw [if_neg named, if_neg named]

theorem loads_grafted {tree : Tree} (spared : graft.Spares tree) :
    ((document.grafted spelled graft tree).child? .function).any
        (fun callee => callee.kind? == some .importName) =
      (tree.child? .function).any (·.isKind .importName) := by
  rw [child_grafted spared]
  cases tree.child? .function with
  | none => rfl
  | some callee => simp only [Option.map_some, Option.any_some, kind_grafted, Tree.isKind]

/-- The arguments of a call are seen as they were, whatever else is grafted. -/
theorem callArguments_grafted {tree : Tree} (spared : graft.Spares tree) :
    (((document.grafted spelled graft tree).child? .arguments).map
        Outline.significantChildren).getD [] =
      tree.callArguments.map (document.grafted spelled graft) := by
  rw [child_grafted spared, Tree.callArguments]
  cases found : tree.child? .arguments with
  | none => rfl
  | some arguments =>
    have searched : arguments.isSearched = true := by simp [Tree.isSearched, role_of_child found]
    exact significantChildren_grafted (.inl searched)

/-- The blocking rules see of a spared node what they saw before. -/
theorem sight_grafted (tells : Telling spelled) {tree : Tree}
    (spared : graft.Spares tree) :
    (document.grafted spelled graft tree).sight = document.sight tree := by
  have word := word_grafted document graft tells tree
  have text : (tree.callArguments.map (document.grafted spelled graft)).head?.any
      (·.isOneOf [.string, .templateString]) =
        tree.callArguments.head?.any (·.isOneOf [.string, .templateString]) := by
    cases tree.callArguments with
    | nil => rfl
    | cons first rest => exact isOneOf_grafted document spelled graft first _
  have named (role : Role) :
      ((document.grafted spelled graft tree).child? role).bind Outline.dotted? =
        (tree.child? role).bind document.dottedName? :=
    bind_child_grafted spared role fun child _ => dotted_grafted tells child
  have accessed (role : Role) :
      ((document.grafted spelled graft tree).child? role).bind Outline.property? =
        (tree.child? role).bind (Rule.property? document) :=
    bind_child_grafted spared role fun child _ => property_grafted tells
  have specifier : ((document.grafted spelled graft tree).child? .source).bind Outline.stringValue? =
      (tree.child? .source).bind document.stringValue? :=
    bind_child_grafted spared .source fun child found =>
      stringValue_grafted tells (.inr (role_of_child found))
  simp only [Outline.sight, Document.sight, kind_grafted, isOneOf_grafted, word,
    loads_grafted spared, callArguments_grafted spared, text, dotted_grafted tells,
    Document.specifier?, named, accessed, specifier]

end Sights

end ComponentGate
