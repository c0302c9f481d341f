import ComponentGate.Proofs.Repair.Moving
import ComponentGate.Proofs.Repair.Naming
import ComponentGate.Proofs.Repair.Plans
import ComponentGate.Syntax.Parse

/-! The parameters that keys bring in. The name of the position is spelled nowhere in the function that gets
it, and the key stands in that function and in no function inside it, so that the name there is the second
parameter. The name that fills the first place of an empty list is not looked up first. -/

namespace ComponentGate

open Syntax Document

namespace Repair

section Introduced

/-- The names that a function's parameters get, with the edits that bring them in: a bare parameter is put
between parentheses, a name is put behind an only parameter, and an empty list gets two. -/
inductive Introduced (document : Document) (callback : Tree) : List String → List Edit → Prop where
  | bare {parameter : Tree} (found : callback.child? .parameter = some parameter) (name : String) :
      Introduced document callback [name]
        [.replace parameter s!"({document.text parameter}, {name})"]
  | second {parameters only : Tree} (unbare : callback.child? .parameter = none)
      (found : callback.child? .parameters = some parameters)
      (alone : parameters.significantChildren = [only]) (name : String) :
      Introduced document callback [name]
        [.insert only.stop (if (only.child? .type).isSome then s!", {name}: number" else s!", {name}")]
  | both {parameters : Tree} (unbare : callback.child? .parameter = none)
      (found : callback.child? .parameters = some parameters)
      (empty : parameters.significantChildren = []) (name : String) :
      Introduced document callback ["_item", name]
        [.insert (parameters.children.head?.getD parameters).stop s!"_item, {name}"]

variable {document : Document} {call callback : Tree}

/-- A function that gets parameters for a position gets a new name for it, as its second one. -/
theorem introduced_of_position {position : PositionName}
    (found : position? document callback = some position) (edited : position.edits ≠ []) :
    position.name = freshName (document.identifierNames callback) ∧
      (Introduced document callback [position.name] position.edits ∨
        Introduced document callback ["_item", position.name] position.edits) := by
  cases positioned_of_position found with
  | bare given => exact ⟨rfl, .inl (.bare given _)⟩
  | both unbare given empty => exact ⟨rfl, .inr (.both unbare given empty _)⟩
  | second unbare given alone => exact ⟨rfl, .inl (.second unbare given alone _)⟩
  | named unbare given several binds identifier => exact absurd rfl edited

/-- A key is put behind the name of the tag of the element that a function answers. -/
theorem keyRepairs_of_introducing (mapped : mapCallback? document call = some callback)
    (introduces : 1 < (keyRepairs document call).edits.length) :
    ∃ element tag position, mappedElement? callback = some element ∧ element.tagNode? = some tag ∧
      position? document callback = some position ∧ position.edits ≠ [] ∧
      (keyRepairs document call).edits =
        position.edits ++ [.insert (attributesStart element tag) (keyAttribute position.name)] := by
  rcases keyRepairs_cases document call with
    none | ⟨callback', element, tag, position, adds, planned⟩
  · rw [none] at introduces
    cases introduces
  · obtain rfl : callback = callback' := Option.some.inj (mapped.symm.trans adds.mapped)
    rw [planned] at introduces ⊢
    refine ⟨element, tag, position, adds.answered, adds.named, adds.placed, ?_, rfl⟩
    intro nothing
    rw [nothing] at introduces
    exact absurd introduces (Nat.lt_irrefl 1)

end Introduced

section Exposure

/-- What a parser is relied on for: an element's opening tag is no function, and the tag's name is not
empty. -/
def Tagged (document : Document) : Prop :=
  ∀ element ∈ document.root.preorder, element.isElement = true →
    element.openingTag.isFunction = false ∧ ∀ tag ∈ element.tagNode?, tag.start < tag.stop

instance (document : Document) : Decidable (Tagged document) :=
  inferInstanceAs (Decidable (∀ element ∈ document.root.preorder, element.isElement = true →
    element.openingTag.isFunction = false ∧ ∀ tag ∈ element.tagNode?, tag.start < tag.stop))

/-- Whether an offset lies in a node with no function of that node around it. -/
structure Exposed (tree : Tree) (offset : Nat) : Prop where
  inside : tree.start ≤ offset ∧ offset ≤ tree.stop
  clear : ∀ inner ∈ tree.preorder, inner.isFunction = true →
    ¬(inner.start < offset ∧ offset < inner.stop)

variable {text : String} {document : Document} {tree child inner : Tree} {offset : Nat}

theorem isFunction_of_isKind {kind : Kind} (same : tree.isKind kind = true)
    (other : functionKinds.contains kind = false) : tree.isFunction = false := by
  rw [Tree.isKind, beq_iff_eq] at same
  rw [Tree.isFunction, Tree.isOneOf, same]
  exact other

theorem isFunction_of_isElement (shown : tree.isElement = true) : tree.isFunction = false := by
  rw [Tree.isElement, Tree.isOneOf] at shown
  split at shown
  · rename_i kind given
    have same : tree.isKind kind = true := by rw [Tree.isKind, given, beq_self_eq_true]
    refine isFunction_of_isKind same ?_
    simp only [elementKinds, List.contains_cons, List.contains_nil, Bool.or_false, Bool.or_eq_true,
      beq_iff_eq] at shown
    rcases shown with rfl | rfl <;> rfl
  · cases shown

/-- The nodes below a node either stand below one of its children or do not reach into it. -/
theorem apart_of_children (laid : LaidOut text document) (visited : tree ∈ document.root.preorder)
    (member : child ∈ tree.children) (inside : child.start ≤ offset ∧ offset ≤ child.stop)
    (below : inner ∈ tree.preorder) (other : inner ≠ tree) :
    inner ∈ child.preorder ∨ ¬(inner.start < offset ∧ offset < inner.stop) := by
  rw [Tree.preorder_eq, List.mem_cons] at below
  obtain ⟨branch, present, within⟩ := List.mem_flatMap.1 (below.resolve_left other)
  rcases laid.siblings visited member present with rfl | apart
  · exact .inl within
  · right
    have bounds := laid.inside (Tree.mem_preorder_of_mem_children visited present) within
    omega

theorem Exposed.of_children (laid : LaidOut text document) (visited : tree ∈ document.root.preorder)
    (member : child ∈ tree.children) (plain : tree.isFunction = false) (exposed : Exposed child offset) :
    Exposed tree offset := by
  have bounds := laid.nested tree visited child member
  have inside := exposed.inside
  refine ⟨by omega, fun inner below function => ?_⟩
  have other : inner ≠ tree := by
    rintro rfl
    rw [plain] at function
    cases function
  rcases apart_of_children laid visited member inside below other with within | apart
  · exact exposed.clear inner within function
  · exact apart

/-- Nothing of a node reaches beyond its end. -/
theorem Exposed.of_stop (laid : LaidOut text document) (visited : tree ∈ document.root.preorder) :
    Exposed tree tree.stop := by
  refine ⟨⟨laid.forward tree visited, Nat.le_refl _⟩, fun inner below _ => ?_⟩
  have bounds := laid.inside visited below
  omega

theorem Exposed.of_unwrapped (laid : LaidOut text document) (visited : tree ∈ document.root.preorder)
    (exposed : Exposed tree.unwrapped offset) : Exposed tree offset := by
  induction tree using Tree.induction_on_children with
  | step tree ih =>
    cases tree with
    | node label children =>
      rw [Tree.unwrapped] at exposed
      split at exposed
      · rename_i parenthesized
        rw [Tree.unwrappedFirst_eq] at exposed
        cases found : children.find? fun tree => tree.isNamed && !tree.isComment with
        | none =>
          rw [found] at exposed
          exact exposed
        | some child =>
          rw [found] at exposed
          have member : child ∈ (Syntax.Tree.node label children).children := List.mem_of_find?_eq_some found
          have kind : (Syntax.Tree.node label children).isKind .parenthesized = true := by
            rw [Tree.isKind, Tree.kind?, Tree.label_node, eq_of_beq parenthesized]
            rfl
          have reached := Tree.mem_preorder_of_mem_children visited member
          exact .of_children laid visited member (isFunction_of_isKind kind (by decide))
            (ih child member reached exposed)
      · exact exposed

end Exposure

section Keys

variable {text : String} {document : Document} {call callback element tag : Tree}

theorem mem_children_of_tagNode (named : element.tagNode? = some tag) :
    tag ∈ element.openingTag.children := by
  rw [Tree.tagNode?] at named
  cases given : element.openingTag.child? .name with
  | some name =>
    rw [given] at named
    cases named
    exact List.mem_of_find?_eq_some given
  | none =>
    rw [given] at named
    exact (List.mem_filter.1 (List.mem_of_head? (Option.filter_eq_some_iff.1 named).1)).1

/-- Attributes begin where a child of the opening tag ends, and not before the tag's name does. -/
theorem exists_attributesStart (laid : LaidOut text document)
    (visited : element.openingTag ∈ document.root.preorder)
    (member : tag ∈ element.openingTag.children) :
    ∃ last ∈ element.openingTag.children, attributesStart element tag = last.stop ∧
      tag.stop ≤ last.stop := by
  rw [attributesStart]
  have ordered := laid.apart element.openingTag visited
  cases behind : element.openingTag.children.dropWhile fun child => child.label ≠ tag.label with
  | nil => exact ⟨tag, member, rfl, Nat.le_refl _⟩
  | cons first rest =>
    cases rest with
    | nil => exact ⟨tag, member, rfl, Nat.le_refl _⟩
    | cons next rest =>
      rw [List.drop_one, List.tail_cons]
      have part : (first :: next :: rest).Sublist element.openingTag.children :=
        behind ▸ List.dropWhile_sublist _
      have present : next ∈ element.openingTag.children := part.subset (by simp)
      have start : tag.stop ≤ next.start := by
        have same : first.label = tag.label := by
          have stands := List.head?_dropWhile_not (fun child : Tree => child.label ≠ tag.label)
            element.openingTag.children
          rw [behind] at stands
          simpa using stands
        have pair := List.rel_of_pairwise_cons (ordered.sublist part) (List.mem_cons_self ..)
        rw [Tree.stop, same] at pair
        exact pair
      have forward := laid.forward next (Tree.mem_preorder_of_mem_children visited present)
      dsimp only
      split
      · exact ⟨next, present, rfl, by omega⟩
      · exact ⟨tag, member, rfl, Nat.le_refl _⟩

/-- The place of a key lies open in its element. -/
theorem exposed_of_element (laid : LaidOut text document) (tagged : Tagged document)
    (visited : element ∈ document.root.preorder) (shown : element.isElement = true)
    (named : element.tagNode? = some tag) :
    Exposed element (attributesStart element tag) ∧ element.start < attributesStart element tag := by
  obtain ⟨plain, filled⟩ := tagged element visited shown
  have front := filled tag named
  have member := mem_children_of_tagNode named
  have opened := Tree.openingTag_mem_preorder visited
  obtain ⟨last, present, place, behind⟩ := exists_attributesStart laid opened member
  have name := laid.nested _ opened tag member
  have exposed : Exposed element.openingTag (attributesStart element tag) := by
    rw [place]
    exact .of_children laid opened present plain
      (.of_stop laid (Tree.mem_preorder_of_mem_children opened present))
  rcases element.openingTag_eq_or_mem_children with same | below
  · rw [same] at exposed name
    exact ⟨exposed, by omega⟩
  · have bounds := laid.nested element visited _ below
    exact ⟨.of_children laid visited below (isFunction_of_isElement shown) exposed, by omega⟩

/-- The place of a key lies open in the body of the function that answers the element. -/
theorem exposed_of_mappedElement (laid : LaidOut text document) (tagged : Tagged document)
    (visited : callback ∈ document.root.preorder) (answered : mappedElement? callback = some element)
    (named : element.tagNode? = some tag) :
    ∃ body ∈ callback.children, Exposed body (attributesStart element tag) ∧
      body.start < attributesStart element tag := by
  have outer : ∀ value ∈ document.root.preorder,
      (some (value.unwrapped)).filter Tree.isElement = some element →
        Exposed value (attributesStart element tag) ∧ value.start < attributesStart element tag := by
    intro value reached found
    obtain ⟨same, shown⟩ := Option.filter_eq_some_iff.1 found
    obtain rfl := Option.some.inj same
    have inside := value.unwrapped_mem_preorder
    have below := Tree.preorder_subset_of_mem_preorder reached inside
    obtain ⟨exposed, front⟩ := exposed_of_element laid tagged below shown named
    have bounds := laid.inside reached inside
    exact ⟨.of_unwrapped laid reached exposed, by omega⟩
  rw [mappedElement?] at answered
  split at answered
  · cases answered
  · rename_i body found
    have member := mem_children_of_functionBody found
    have reached := Tree.mem_preorder_of_mem_children visited member
    refine ⟨body, member, ?_⟩
    dsimp only at answered
    split at answered
    · rename_i block
      split at answered
      · rename_i statement single
        obtain ⟨below, kind⟩ : statement ∈ body.significantChildren ∧
            statement.isKind .returnStatement = true :=
          List.mem_filter.1 (by rw [single]; exact List.mem_singleton_self _)
        have inside := Tree.mem_children_of_mem_significantChildren below
        have stands := Tree.mem_preorder_of_mem_children reached inside
        cases given : statement.significantChildren.head? with
        | none =>
          rw [given] at answered
          cases answered
        | some value =>
          rw [given] at answered
          have within := Tree.mem_children_of_mem_significantChildren (List.mem_of_head? given)
          have arrived := Tree.mem_preorder_of_mem_children stands within
          obtain ⟨exposed, front⟩ := outer value arrived answered
          have first := laid.nested body reached statement inside
          have second := laid.nested statement stands value within
          have last := exposed.of_children laid stands within (isFunction_of_isKind kind (by decide))
          exact ⟨last.of_children laid reached inside (isFunction_of_isKind block (by decide)), by omega⟩
      · cases answered
    · exact outer body reached answered

/-- The names that classes and types inside a node go by. -/
def typeNames (document : Document) (tree : Tree) : List String :=
  (tree.nodes.filter (·.isKind .typeIdentifier)).map document.text

/-- Parameters `names` and a key that `call` brings into `callback`. The key reads the second parameter, whose
name is `name`: it stands in the callback and in no function inside it, and no identifier there spells that
name, so that only a class could take it. -/
structure Keyed (document : Document) (call callback : Tree) (names : List String) (name : String)
    (edits : List Edit) (offset : Nat) : Prop where
  introduced : Introduced document callback names edits
  second : names.getLast? = some name
  planned : (keyRepairs document call).edits = edits ++ [.insert offset (keyAttribute name)]
  inside : callback.start < offset ∧ offset ≤ callback.stop
  clear : ∀ inner ∈ callback.preorder, inner.isFunction = true → inner ≠ callback →
    ¬(inner.start < offset ∧ offset < inner.stop)
  unspelled : name ∉ document.identifierNames callback

/-- A function that gets parameters for a position gets a key that reads the second of them. The names that
are brought in are spelled nowhere in the function, unless one of them is that of a class or a type, or the
name that fills the first place of an empty list is in use. -/
theorem introduced_parameters (laid : LaidOut text document) (tagged : Tagged document)
    (visited : call ∈ document.root.preorder) (mapped : mapCallback? document call = some callback)
    (introduces : 1 < (keyRepairs document call).edits.length) :
    ∃ names name edits offset, Keyed document call callback names name edits offset ∧
      ((∀ introduced ∈ names,
          introduced ∉ document.identifierNames callback ++ typeNames document callback) ↔
        (∀ introduced ∈ names, introduced ∉ typeNames document callback) ∧
          ¬("_item" ∈ names ∧ "_item" ∈ document.identifierNames callback)) := by
  obtain ⟨element, tag, position, answered, named, found, edited, planned⟩ :=
    keyRepairs_of_introducing mapped introduces
  obtain ⟨fresh, given⟩ := introduced_of_position found edited
  have unspelled : position.name ∉ document.identifierNames callback := by
    rw [fresh]
    exact freshName_not_mem _
  have reached := mem_preorder_of_mapCallback visited mapped
  obtain ⟨body, member, exposed, front⟩ := exposed_of_mappedElement laid tagged reached answered named
  have bounds := laid.nested callback reached body member
  have inside := exposed.inside
  have clear : ∀ inner ∈ callback.preorder, inner.isFunction = true → inner ≠ callback →
      ¬(inner.start < attributesStart element tag ∧ attributesStart element tag < inner.stop) := by
    intro inner below function other
    rcases apart_of_children laid reached member inside below other with within | apart
    · exact exposed.clear inner within function
    · exact apart
  obtain ⟨names, introduced, second, only⟩ : ∃ names,
      Introduced document callback names position.edits ∧ names.getLast? = some position.name ∧
        ∀ name ∈ names, name = position.name ∨ name = "_item" := by
    rcases given with one | two
    · exact ⟨_, one, rfl, by simp⟩
    · exact ⟨_, two, rfl, by simp⟩
  refine ⟨names, position.name, position.edits, attributesStart element tag,
    ⟨introduced, second, planned, by omega, clear, unspelled⟩, ?_⟩
  constructor
  · intro free
    refine ⟨fun name member used => free name member (List.mem_append_right _ used), ?_⟩
    rintro ⟨member, used⟩
    exact free "_item" member (List.mem_append_left _ used)
  · rintro ⟨untyped, unused⟩ name member used
    rcases List.mem_append.1 used with spelled | typed
    · rcases only name member with rfl | rfl
      · exact unspelled spelled
      · exact unused ⟨member, spelled⟩
    · exact untyped name member typed

/-- Lists one inside the other; the inner one is mapped by a function without parameters. -/
def nestedLists : String := "xs.map(index => <ul>\x7bys.map(() => <li/>)\x7d</ul>);\n"

theorem nestedLists_introduced :
    LaidOut nestedLists (.read Syntax.parse nestedLists) ∧ Tagged (.read Syntax.parse nestedLists) ∧
      ∃ call ∈ (Document.read Syntax.parse nestedLists).root.preorder, ∃ callback,
        mapCallback? (.read Syntax.parse nestedLists) call = some callback ∧
        1 < (keyRepairs (.read Syntax.parse nestedLists) call).edits.length ∧
        ∃ names name edits offset,
          Keyed (.read Syntax.parse nestedLists) call callback names name edits offset ∧
          ((∀ introduced ∈ names, introduced ∉
              (Document.read Syntax.parse nestedLists).identifierNames callback ++
                typeNames (.read Syntax.parse nestedLists) callback) ↔
            (∀ introduced ∈ names, introduced ∉ typeNames (.read Syntax.parse nestedLists) callback) ∧
              ¬("_item" ∈ names ∧
                "_item" ∈ (Document.read Syntax.parse nestedLists).identifierNames callback)) := by
  -- evaluated together, so that the text is parsed once
  obtain ⟨laid, tagged, some⟩ : LaidOut nestedLists (.read Syntax.parse nestedLists) ∧
      Tagged (.read Syntax.parse nestedLists) ∧
      ((Document.read Syntax.parse nestedLists).root.preorder.any fun call =>
        (mapCallback? (.read Syntax.parse nestedLists) call).isSome &&
          decide (1 < (keyRepairs (.read Syntax.parse nestedLists) call).edits.length)) = true := by
    decide +kernel
  obtain ⟨call, visited, both⟩ := List.any_eq_true.1 some
  rw [Bool.and_eq_true, decide_eq_true_eq] at both
  obtain ⟨callback, mapped⟩ := Option.isSome_iff_exists.1 both.1
  exact ⟨laid, tagged, call, visited, callback, mapped, both.2,
    introduced_parameters laid tagged visited mapped both.2⟩

/-- A function without parameters whose element shows a variable of the name that fills the first place. -/
def outerItem : String := "xs.map(() => <li>\x7b_item\x7d</li>);\n"

/-- The variable is captured by the parameter that is brought in for the first place. -/
theorem outerItem_captured :
    ∃ call ∈ (Document.read Syntax.parse outerItem).root.preorder,
      ∃ callback ∈ mapCallback? (.read Syntax.parse outerItem) call,
        (keyRepairs (.read Syntax.parse outerItem) call).edits =
            [.insert 8 "_item, index", .insert 16 (keyAttribute "index")] ∧
          "_item" ∈ (Document.read Syntax.parse outerItem).identifierNames callback := by
  decide +kernel

end Keys

end Repair

end ComponentGate
