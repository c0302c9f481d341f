import ComponentGate.Proofs.Repair.Insertions
import ComponentGate.Proofs.Repair.Moving
import ComponentGate.Proofs.Repair.Rounds

/-! Handlers in their proper spelling. A handler's name is overwritten by one of the same length, so nothing
else in the text moves or changes; an element's attributes stay distinct unless one of them already has the
name that another one is given. -/

namespace ComponentGate

open Syntax Preamble Document

namespace Edit

/-- Whether an edit writes as many bytes as it takes away. -/
def Even (edit : Edit) : Prop := edit.start + edit.written.length = edit.stop

section Even

variable {bytes : List UInt8} {edits : List Edit} {reached : Nat}
  (ahead : Ahead bytes.length reached edits) (even : ∀ edit ∈ edits, edit.Even)
include ahead even

theorem length_cells_of_even :
    (cells bytes edits reached (bytes.length + 1)).length = bytes.length - reached := by
  induction ahead with
  | done =>
    rw [cells_of_lt (by simp), List.length_drop, List.length_take]
    omega
  | @next reached edit rest fits start later _ ih =>
    obtain ⟨level, even⟩ := List.forall_mem_cons.1 even
    rw [Even] at level
    have ⟨nonneg, forward, inside⟩ := fits
    rw [cells_reached fits later start, List.length_append, List.length_append, ih even, List.length_drop,
      List.length_take]
    omega

/-- A byte that no edit overwrites stays where it is. -/
theorem getElem?_cells_of_uncovered {offset : Nat} (beyond : reached ≤ offset)
    (outside : ∀ edit ∈ edits, offset < edit.start ∨ edit.stop ≤ offset) :
    (cells bytes edits reached (bytes.length + 1))[offset - reached]? = bytes[offset]? := by
  induction ahead with
  | done =>
    rw [cells_of_lt (by simp), List.take_of_length_le (Nat.le_succ _), List.getElem?_drop,
      Nat.add_sub_cancel' beyond]
  | @next reached edit rest fits start later _ ih =>
    obtain ⟨level, even⟩ := List.forall_mem_cons.1 even
    rw [Even] at level
    obtain ⟨own, outside⟩ := List.forall_mem_cons.1 outside
    have ⟨nonneg, forward, inside⟩ := fits
    have front : ((bytes.take edit.start.toNat).drop reached).length = edit.start.toNat - reached := by
      rw [List.length_drop, List.length_take]
      omega
    rw [cells_reached fits later start]
    rcases own with before | after
    · rw [List.getElem?_append_left (by omega), List.getElem?_drop, Nat.add_sub_cancel' beyond,
        List.getElem?_take_of_lt (by omega)]
    · rw [← ih even (by omega) outside, List.getElem?_append_right (by omega),
        List.getElem?_append_right (by omega)]
      congr 1
      omega

/-- What an edit writes stands in its range. -/
theorem take_drop_cells_of_even {edit : Edit} (member : edit ∈ edits) :
    ((cells bytes edits reached (bytes.length + 1)).drop (edit.start.toNat - reached)).take
      edit.written.length = edit.written := by
  induction ahead with
  | done => cases member
  | @next reached first rest fits start later _ ih =>
    obtain ⟨level, even⟩ := List.forall_mem_cons.1 even
    rw [Even] at level
    have ⟨nonneg, forward, inside⟩ := fits
    have front : ((bytes.take first.start.toNat).drop reached).length = first.start.toNat - reached := by
      rw [List.length_drop, List.length_take]
      omega
    rw [cells_reached fits later start]
    rcases List.mem_cons.1 member with rfl | member
    · rw [List.drop_left' front, List.take_left]
    · have order := later edit member
      have place : edit.start.toNat - reached =
          ((bytes.take first.start.toNat).drop reached).length +
            (first.written.length + (edit.start.toNat - first.stop.toNat)) := by
        omega
      rw [place, List.drop_length_add_append, List.drop_length_add_append, ih even member]

end Even

/-- Edits that write as many bytes as they take away overwrite these and leave all others as they are. -/
theorem overwritten_of_render {document : Document} {edits : List Edit} {after : String}
    (fits : ∀ edit ∈ edits, edit.Fits document.bytes.size) (even : ∀ edit ∈ edits, edit.Even)
    (rendered : document.render edits = .ok after) :
    (bytesOf after).length = document.content.length ∧
      (∀ offset : Nat, (∀ edit ∈ edits, offset < edit.start ∨ edit.stop ≤ offset) →
        (bytesOf after)[offset]? = document.content[offset]?) ∧
      ∀ edit ∈ edits, ((bytesOf after).take edit.stop.toNat).drop edit.start.toNat = edit.written := by
  obtain ⟨ahead, bytes⟩ := cells_ordered_of_render fits rendered
  have ahead : Ahead document.content.length 0 (ordered edits) := ahead
  have bytes : bytesOf after = cells document.content (ordered edits) 0 (document.content.length + 1) :=
    bytes
  have same (edit : Edit) : edit ∈ ordered edits ↔ edit ∈ edits := (perm_ordered edits).mem_iff
  have even' : ∀ edit ∈ ordered edits, edit.Even := fun edit member => even edit ((same edit).1 member)
  rw [bytes]
  refine ⟨length_cells_of_even ahead even', fun offset outside => ?_, fun edit member => ?_⟩
  · exact getElem?_cells_of_uncovered ahead even' (Nat.zero_le _)
      fun edit member => outside edit ((same edit).1 member)
  · obtain ⟨nonneg, forward, -⟩ := fits edit member
    have level : edit.start + edit.written.length = edit.stop := even edit member
    have stop : edit.stop.toNat - edit.start.toNat = edit.written.length := by omega
    rw [List.drop_take, stop]
    exact take_drop_cells_of_even ahead even' ((same edit).2 member)

end Edit

namespace Syntax.Tree

/-- An element's attributes. -/
def givens (element : Tree) : List Tree :=
  element.openingTag.namedChildren.filter (·.isKind .markupAttribute)

def attributeNames (element : Tree) : List Tree := element.givens.filterMap (·.namedChildren.head?)

def attributeValues (element : Tree) : List Tree := element.givens.filterMap (·.namedChildren[1]?)

/-- The names of all attributes below a node. -/
def namesBelow (tree : Tree) : List Tree :=
  (tree.preorder.filter (·.isKind .markupAttribute)).filterMap (·.namedChildren.head?)

end Syntax.Tree

namespace Repair

/-- The spelling that a handler's name is given. -/
def proper? (document : Document) (name : Tree) : Option String :=
  if name.isKind .propertyIdentifier then Entries.get? handlerNames (document.text name) else none

def spelled (document : Document) (name : Tree) : String :=
  (proper? document name).getD (document.text name)

/-- The names of attributes that are spelled in another way. -/
def respelled (document : Document) (tree : Tree) : List Tree :=
  tree.namesBelow.filter fun name => (proper? document name).isSome

/-- The names that an element's attributes are found by. -/
def givenNames (document : Document) (element : Tree) : List String :=
  (element.openingTag.namedChildren.filterMap (Document.attributes.named? document)).map Prod.fst

/-- Whether no element has two attributes of one name. -/
def Distinct (document : Document) : Prop :=
  ∀ element ∈ document.root.preorder, element.isElement = true → (givenNames document element).Nodup

instance (document : Document) : Decidable (Distinct document) :=
  inferInstanceAs (Decidable (∀ element ∈ document.root.preorder, _ → _))

/-- Whether one of an element's attributes already has the name that another one is given. -/
def Crowded (document : Document) (element : Tree) : Prop :=
  ∃ name ∈ element.attributeNames, ∃ other ∈ element.attributeNames,
    proper? document name = some (document.text other)

instance (document : Document) (element : Tree) : Decidable (Crowded document element) :=
  inferInstanceAs (Decidable (∃ name ∈ element.attributeNames, _))

/-- Whether no attribute stands inside the name of another one. -/
def PlainNames (tree : Tree) : Prop :=
  ∀ given ∈ tree.preorder, given.isKind .markupAttribute = true →
    ∀ name ∈ given.namedChildren.head?, ∀ node ∈ name.preorder, node.isKind .markupAttribute = false

instance (tree : Tree) : Decidable (PlainNames tree) :=
  inferInstanceAs (Decidable (∀ given ∈ tree.preorder, _ → _))

section Names

variable {document : Document} {name other element : Tree} {proper : String}

theorem givenNames_eq (document : Document) (element : Tree) :
    givenNames document element = element.attributeNames.map document.text := by
  rw [givenNames, Tree.attributeNames, Tree.givens, List.filterMap_filter, List.map_filterMap,
    List.map_filterMap]
  apply List.filterMap_congr
  intro child _
  rw [Document.attributes.named?]
  cases child.isKind .markupAttribute with
  | false => rfl
  | true => simp [Function.comp_def]

theorem edits_eventHandlers (document : Document) :
    (eventHandlers.plan document).edits =
      (respelled document document.root).map fun name => .replace name (spelled document name) := by
  rw [eventHandlers, Repairs.edits_concat, Tree.nodes_eq_preorder, List.flatMap_map, respelled,
    Tree.namesBelow, List.filterMap_eq_flatMap_toList, List.filter_flatMap, List.map_flatMap]
  apply List.flatMap_congr
  intro given _
  rw [handlerRepairs]
  cases given.namedChildren.head? with
  | none => rfl
  | some name =>
    cases kind : name.isKind .propertyIdentifier with
    | false => simp [proper?, kind, Repairs.none]
    | true =>
      cases found : Entries.get? handlerNames (document.text name) with
      | none => simp [proper?, kind, found, Repairs.none]
      | some proper => simp [proper?, spelled, kind, found]

theorem mem_handlerNames (found : proper? document name = some proper) :
    (document.text name, proper) ∈ handlerNames := by
  rw [proper?] at found
  split at found
  · exact Entries.mem_of_get found
  · cases found

/-- No proper spelling is spelled in another way. -/
theorem proper_of_proper (found : proper? document name = some (document.text other)) :
    proper? document other = none := by
  have table : ∀ entry ∈ handlerNames, Entries.get? handlerNames entry.2 = none := by decide +kernel
  rw [proper?, table _ (mem_handlerNames found), ite_self]

theorem text_injective_of_proper (one : proper? document name = some proper)
    (two : proper? document other = some proper) : document.text name = document.text other := by
  have table : ∀ entry ∈ handlerNames, ∀ other ∈ handlerNames,
      entry.2 = other.2 → entry.1 = other.1 := by
    decide +kernel
  simpa only using table _ (mem_handlerNames one) _ (mem_handlerNames two) rfl

theorem length_proper (found : proper? document name = some proper) :
    document.text name ≠ "" ∧ (bytesOf proper).length = (bytesOf (document.text name)).length := by
  have table : ∀ entry ∈ handlerNames,
      entry.1 ≠ "" ∧ entry.2.utf8ByteSize = entry.1.utf8ByteSize := by
    decide +kernel
  have size (text : String) : (bytesOf text).length = text.utf8ByteSize := rfl
  simpa only [size] using table _ (mem_handlerNames found)

/-- Distinct names are spelled as distinct names unless one of them is given the name of another. -/
theorem nodup_spelled_iff {names : List Tree} (distinct : (names.map document.text).Nodup) :
    (names.map (spelled document)).Nodup ↔
      ¬∃ name ∈ names, ∃ other ∈ names, proper? document name = some (document.text other) := by
  rw [List.nodup_map_iff_inj_on distinct.of_map]
  have same := List.inj_on_of_nodup_map distinct
  constructor
  · rintro apart ⟨name, member, other, member', found⟩
    have plain := proper_of_proper found
    have equal := apart name member other member' (by simp [spelled, found, plain])
    rw [equal, plain] at found
    cases found
  · intro clear name member other member' equal
    rw [spelled, spelled] at equal
    apply same member member'
    cases found : proper? document name with
    | none =>
      cases found' : proper? document other with
      | none => simpa [found, found'] using equal
      | some proper =>
        simp only [found, found', Option.getD_none, Option.getD_some] at equal
        exact absurd ⟨other, member', name, member, equal ▸ found'⟩ clear
    | some proper =>
      cases found' : proper? document other with
      | none =>
        simp only [found, found', Option.getD_none, Option.getD_some] at equal
        exact absurd ⟨name, member, other, member', equal ▸ found⟩ clear
      | some proper' =>
        simp only [found, found', Option.getD_some] at equal
        exact text_injective_of_proper found (equal ▸ found')

end Names

section Places

variable {text : String} {document : Document} {tree name other : Tree}

theorem mem_namesBelow_iff :
    name ∈ tree.namesBelow ↔ ∃ given ∈ tree.preorder, given.isKind .markupAttribute = true ∧
      given.namedChildren.head? = some name := by
  simp [Tree.namesBelow, and_assoc]

theorem mem_children_of_head? {given : Tree} (first : given.namedChildren.head? = some name) :
    name ∈ given.children :=
  (List.mem_filter.1 (List.mem_of_head? first)).1

theorem mem_preorder_of_mem_namesBelow (visited : tree ∈ document.root.preorder)
    (member : name ∈ tree.namesBelow) : name ∈ document.root.preorder := by
  obtain ⟨given, below, -, first⟩ := mem_namesBelow_iff.1 member
  have reached := Tree.preorder_subset_of_mem_preorder visited below
  exact Tree.mem_preorder_of_mem_children reached (mem_children_of_head? first)

/-- The names of attributes stand one in front of the other. -/
theorem pairwise_namesBelow (ranged : Ranged text document) (plain : PlainNames document.root)
    (visited : tree ∈ document.root.preorder) :
    tree.namesBelow.Pairwise fun first second =>
      first.stop ≤ second.start ∨ second.stop ≤ first.start := by
  rw [Tree.namesBelow, List.pairwise_filterMap, List.pairwise_filter]
  induction tree using Tree.induction_on_children with
  | step tree ih =>
    have reached {child : Tree} (member : child ∈ tree.children) : child ∈ document.root.preorder :=
      Tree.mem_preorder_of_mem_children visited member
    rw [Tree.preorder_eq, List.pairwise_cons, List.pairwise_flatMap]
    refine ⟨fun given below markup markup' name first other first' => ?_,
      fun child member => ih child member (reached member),
      (ranged.apart tree visited).imp_of_mem fun {one two} member member' order => ?_⟩
    · obtain ⟨child, member, below⟩ := List.mem_flatMap.1 below
      have inner := ranged.inside (Tree.preorder_subset_of_mem_preorder (reached member) below)
        (Tree.mem_preorder_of_mem_children given.mem_preorder_self (mem_children_of_head? first'))
      have outer := ranged.inside (reached member) below
      rcases ranged.siblings visited (mem_children_of_head? first) member with rfl | apart
      · -- An attribute would stand inside the name of this one.
        have none := plain tree visited markup name first given below
        rw [markup'] at none
        cases none
      · omega
    · intro given below given' below' _ _ name first other first'
      have inner := ranged.inside (Tree.preorder_subset_of_mem_preorder (reached member) below)
        (Tree.mem_preorder_of_mem_children given.mem_preorder_self (mem_children_of_head? first))
      have outer := ranged.inside (reached member) below
      have inner' := ranged.inside (Tree.preorder_subset_of_mem_preorder (reached member') below')
        (Tree.mem_preorder_of_mem_children given'.mem_preorder_self (mem_children_of_head? first'))
      have outer' := ranged.inside (reached member') below'
      omega

theorem eq_or_apart_of_mem_namesBelow (ranged : Ranged text document)
    (plain : PlainNames document.root) (one : name ∈ document.root.namesBelow)
    (two : other ∈ document.root.namesBelow) :
    name = other ∨ name.stop ≤ other.start ∨ other.stop ≤ name.start := by
  have symm : Std.Symm fun first second : Tree =>
      first.stop ≤ second.start ∨ second.stop ≤ first.start := ⟨fun _ _ => Or.symm⟩
  have pairs := pairwise_namesBelow ranged plain document.root.mem_preorder_self
  by_cases same : name = other
  · exact .inl same
  · exact .inr (pairs.forall one two same)

theorem mem_preorder_of_givens {root element given : Tree} (visited : element ∈ root.preorder)
    (listed : given ∈ element.givens) : given ∈ root.preorder :=
  Tree.mem_preorder_of_mem_children (Tree.openingTag_mem_preorder visited)
    (List.mem_filter.1 (List.mem_filter.1 listed).1).1

theorem mem_namesBelow_of_attributeNames {root element : Tree} (visited : element ∈ root.preorder)
    (member : name ∈ element.attributeNames) : name ∈ root.namesBelow := by
  obtain ⟨given, listed, first⟩ := List.mem_filterMap.1 member
  exact mem_namesBelow_iff.2
    ⟨given, mem_preorder_of_givens visited listed, (List.mem_filter.1 listed).2, first⟩

/-- Names of attributes stand outside the values of attributes, but for the names in a value. -/
theorem apart_of_value (ranged : Ranged text document) (plain : PlainNames document.root)
    {given value : Tree} (markup : given.isKind .markupAttribute = true) (visited : given ∈ document.root.preorder)
    (second : given.namedChildren[1]? = some value) (below : name ∈ document.root.namesBelow)
    (outside : name ∉ value.namesBelow) : name.stop ≤ value.start ∨ value.stop ≤ name.start := by
  obtain ⟨other, reached, markup', first⟩ := mem_namesBelow_iff.1 below
  have member := mem_children_of_head? first
  have member' : value ∈ given.children := (List.mem_filter.1 (List.mem_of_getElem? second)).1
  have around := ranged.nested other reached name member
  have around' := ranged.nested given visited value member'
  have own (same : other = given) : name.stop ≤ value.start := by
    have ordered := (ranged.apart given visited).filter Tree.isNamed
    rw [List.head?_eq_getElem?, same] at first
    obtain ⟨_, here⟩ := List.getElem?_eq_some_iff.1 first
    obtain ⟨_, there⟩ := List.getElem?_eq_some_iff.1 second
    rw [← here, ← there]
    exact List.pairwise_iff_getElem.1 ordered 0 1 _ _ Nat.zero_lt_one
  rcases ranged.nested_or_apart document.root.mem_preorder_self visited reached with inside | inside | apart
  · rw [Tree.preorder_eq, List.mem_cons] at inside
    rcases inside with same | deeper
    · exact .inl (own same.symm)
    · obtain ⟨child, part, within⟩ := List.mem_flatMap.1 deeper
      have bounds := ranged.inside (Tree.mem_preorder_of_mem_children reached part) within
      rcases ranged.siblings reached member part with rfl | apart
      · -- The attribute would stand inside a name.
        have none := plain other reached markup' name first given within
        rw [markup] at none
        cases none
      · omega
  · rw [Tree.preorder_eq, List.mem_cons] at inside
    rcases inside with same | deeper
    · exact .inl (own same)
    · obtain ⟨child, part, within⟩ := List.mem_flatMap.1 deeper
      have bounds := ranged.inside (Tree.mem_preorder_of_mem_children visited part) within
      rcases ranged.siblings visited member' part with rfl | apart
      · exact absurd (mem_namesBelow_iff.2 ⟨other, within, markup', first⟩) outside
      · omega
  · omega

end Places

section Overwriting

variable {parse : Parse} {text : String} {document : Document} {progress : Progress} {name tree : Tree}

/-- A name is overwritten by one of the same length, at places where the text can be cut. -/
theorem replace_of_respelled (ranged : Ranged text document)
    (member : name ∈ respelled document document.root) :
    let edit := Edit.replace name (spelled document name)
    edit.Fits document.bytes.size ∧ edit.start < edit.stop ∧ edit.Even ∧
      Cuttable text edit.start.toNat ∧ Cuttable text edit.stop.toNat := by
  obtain ⟨below, chosen⟩ := List.mem_filter.1 member
  obtain ⟨proper, found⟩ := Option.isSome_iff_exists.1 chosen
  have visited := mem_preorder_of_mem_namesBelow document.root.mem_preorder_self below
  obtain ⟨shown, long⟩ := length_proper found
  have within := ranged.stop_le visited
  have forward := ranged.forward name visited
  have length := congrArg List.length (ranged.bytesOf_span visited)
  have size : document.content.length = document.bytes.size := rfl
  rw [span, List.length_drop, List.length_take, ← long] at length
  have filled : 0 < (bytesOf (document.text name)).length := by
    rw [List.length_pos_iff]
    exact fun nothing => shown (bytesOf_injective nothing)
  have written : (Edit.replace name (spelled document name)).written = bytesOf proper := by
    rw [spelled, found]
    rfl
  refine ⟨⟨Int.natCast_nonneg _, Int.ofNat_le.2 forward, Int.ofNat_le.2 within⟩,
    Int.ofNat_lt.2 (by omega), ?_, ranged.cuts name visited⟩
  rw [Edit.Even, written]
  change (name.start : Int) + _ = (name.stop : Int)
  omega

/-- Handlers' names do not clash. -/
theorem not_clashing_eventHandlers (ranged : Ranged text document) (plain : PlainNames document.root) :
    ¬Edit.Clashing (eventHandlers.plan document).edits := by
  rw [edits_eventHandlers, Edit.not_clashing_iff, List.pairwise_map]
  constructor
  · refine ((pairwise_namesBelow ranged plain document.root.mem_preorder_self).filter _).imp ?_
    intro first second apart
    simp only [Edit.Overlaps, Edit.replace]
    omega
  · intro insertion made _ _
    obtain ⟨name, member, rfl⟩ := List.mem_map.1 made
    have filled := (replace_of_respelled ranged member).2.1
    simp only [Edit.Splits]
    omega

/-- The step reads the tree that was there before, over a text in which some names are overwritten. -/
theorem step_eventHandlers (sound : progress.document.hasErrors = false)
    (ranged : Ranged progress.body progress.document) (plain : PlainNames progress.document.root)
    (steady : ∀ after, progress.document.render (eventHandlers.plan progress.document).edits = .ok after →
      parse after = progress.document.root) :
    let document := progress.document
    let document' := (progress.step parse eventHandlers).document
    document'.root = document.root ∧ document'.content.length = document.content.length ∧
      (∀ offset, (∀ name ∈ respelled document document.root, offset < name.start ∨ name.stop ≤ offset) →
        document'.content[offset]? = document.content[offset]?) ∧
      ∀ name ∈ respelled document document.root,
        document'.span name = bytesOf (spelled document name) := by
  intro document
  have sure : ∀ edit ∈ (eventHandlers.plan document).edits,
      edit.Fits document.bytes.size ∧ edit.start < edit.stop ∧ edit.Even ∧
        Cuttable progress.body edit.start.toNat ∧ Cuttable progress.body edit.stop.toNat := by
    rw [edits_eventHandlers, List.forall_mem_map]
    exact fun name member => replace_of_respelled ranged member
  have fits : ∀ edit ∈ (eventHandlers.plan document).edits, edit.Fits document.bytes.size :=
    fun edit made => (sure edit made).1
  have even : ∀ edit ∈ (eventHandlers.plan document).edits, edit.Even :=
    fun edit made => (sure edit made).2.2.1
  obtain ⟨after, rendered, -⟩ := render_of_cuttable ranged.read fits
    (not_clashing_eventHandlers ranged plain) fun edit made => (sure edit made).2.2.2
  have tree : parse after = document.root := steady after rendered
  by_cases idle : (eventHandlers.plan document).edits = []
  · have none : respelled document document.root = [] := by
      rw [edits_eventHandlers] at idle
      exact List.map_eq_nil_iff.1 idle
    rw [step_of_unplanned idle, none]
    exact ⟨rfl, rfl, fun _ _ => rfl, by simp⟩
  · have readable : (Document.read parse after).hasErrors = false := by
      rw [← sound, Document.hasErrors, Document.hasErrors, Document.read, tree]
    obtain ⟨length, kept, written⟩ := Edit.overwritten_of_render fits even rendered
    rw [edits_eventHandlers] at kept written
    rw [document_step_of_render idle rendered readable]
    refine ⟨tree, length, fun offset outside => kept offset ?_, fun name member => ?_⟩
    · intro edit changed
      obtain ⟨name, member, rfl⟩ := List.mem_map.1 changed
      have apart := outside name member
      simp only [Edit.replace]
      omega
    · exact written _ (List.mem_map_of_mem member)

/-- A node's bytes are the same where they are the same at each offset. -/
theorem span_congr {document' : Document}
    (same : ∀ offset, tree.start ≤ offset → offset < tree.stop →
      document'.content[offset]? = document.content[offset]?) :
    document'.span tree = document.span tree := by
  apply List.ext_getElem?
  intro step
  rw [span, span, List.getElem?_drop, List.getElem?_drop, List.getElem?_take, List.getElem?_take]
  split
  · exact same _ (Nat.le_add_right _ _) ‹_›
  · rfl

variable {document' : Document} (ranged : Ranged text document) (plain : PlainNames document.root)
  (kept : ∀ offset,
    (∀ name ∈ respelled document document.root, offset < name.start ∨ name.stop ≤ offset) →
      document'.content[offset]? = document.content[offset]?)
include ranged plain kept

/-- Each name is spelled as it has to be. -/
theorem text_of_name (written : ∀ name ∈ respelled document document.root,
      document'.span name = bytesOf (spelled document name))
    (below : name ∈ document.root.namesBelow) : document'.text name = spelled document name := by
  cases found : proper? document name with
  | some proper =>
    exact text_of_span (written name (List.mem_filter.2 ⟨below, Option.isSome_iff_exists.2 ⟨_, found⟩⟩))
  | none =>
    have same : document'.span name = document.span name := by
      refine span_congr fun offset behind before => kept offset fun other member => ?_
      obtain ⟨below', chosen⟩ := List.mem_filter.1 member
      rcases eq_or_apart_of_mem_namesBelow ranged plain below below' with rfl | apart
      · simp [found] at chosen
      · omega
    rw [text_congr same, spelled, found, Option.getD_none]

/-- A value without a handler in it keeps its text. -/
theorem text_of_value {given value : Tree} (markup : given.isKind .markupAttribute = true)
    (visited : given ∈ document.root.preorder) (second : given.namedChildren[1]? = some value) (quiet : respelled document value = []) :
    document'.text value = document.text value := by
  refine text_congr (span_congr fun offset behind before => kept offset fun name member => ?_)
  obtain ⟨below, chosen⟩ := List.mem_filter.1 member
  have outside : name ∉ value.namesBelow := by
    intro inside
    have here : name ∈ respelled document value := List.mem_filter.2 ⟨inside, chosen⟩
    rw [quiet] at here
    cases here
  have apart := apart_of_value ranged plain markup visited second below outside
  omega

end Overwriting

/-- Handlers are overwritten by their proper names, and each byte outside of them stays as it is, so that a
value without a handler in it keeps its text. Attributes of distinct names have distinct names afterwards
exactly if no element has a handler in lower case and, beside it, an attribute of its proper name. -/
theorem handlers_stay_distinct_iff {parse : Parse} {progress : Progress}
    (sound : progress.document.hasErrors = false) (ranged : Ranged progress.body progress.document)
    (plain : PlainNames progress.document.root)
    (steady : ∀ after, progress.document.render (eventHandlers.plan progress.document).edits = .ok after →
      parse after = progress.document.root)
    (distinct : Distinct progress.document) :
    let document := progress.document
    let document' := (progress.step parse eventHandlers).document
    document'.root = document.root ∧
      (∀ offset, (∀ name ∈ respelled document document.root, offset < name.start ∨ name.stop ≤ offset) →
        document'.content[offset]? = document.content[offset]?) ∧
      (∀ element ∈ document.root.preorder, element.isElement = true →
        givenNames document' element = element.attributeNames.map (spelled document) ∧
          ∀ value ∈ element.attributeValues, respelled document value = [] →
            document'.text value = document.text value) ∧
      (Distinct document' ↔
        ∀ element ∈ document.root.preorder, element.isElement = true → ¬Crowded document element) := by
  intro document document'
  obtain ⟨root, -, kept, written⟩ := step_eventHandlers sound ranged plain steady
  have names : ∀ element ∈ document.root.preorder,
      givenNames document' element = element.attributeNames.map (spelled document) := by
    intro element visited
    rw [givenNames_eq]
    exact List.map_congr_left fun name member =>
      text_of_name ranged plain kept written (mem_namesBelow_of_attributeNames visited member)
  refine ⟨root, kept, fun element visited _ => ⟨names element visited, fun value member quiet => ?_⟩, ?_⟩
  · obtain ⟨given, listed, second⟩ := List.mem_filterMap.1 member
    exact text_of_value ranged plain kept (List.mem_filter.1 listed).2
      (mem_preorder_of_givens visited listed) second quiet
  · rw [Distinct, root]
    refine forall₂_congr fun element visited => forall_congr' fun shown => ?_
    have apart := distinct element visited shown
    rw [givenNames_eq] at apart
    rw [names element visited, nodup_spelled_iff apart, Crowded]

/-- Handlers of two nested elements, one of them with the proper name of the other's. -/
def nestedHandlers : String := "<a onclick={f} title='é' b={<i onClick={g}/>}/>;\n"

theorem nestedHandlers_stay_distinct :
    Distinct (Progress.start Syntax.parse nestedHandlers).document ∧
      ((Progress.start Syntax.parse nestedHandlers).step Syntax.parse eventHandlers).body =
        "<a onClick={f} title='é' b={<i onClick={g}/>}/>;\n" ∧
      Distinct ((Progress.start Syntax.parse nestedHandlers).step Syntax.parse eventHandlers).document := by
  -- evaluated together, so that each text is parsed once
  obtain ⟨sound, ranged, plain, steady, distinct, body, clear⟩ :
      (Document.read Syntax.parse nestedHandlers).hasErrors = false ∧
      Ranged nestedHandlers (.read Syntax.parse nestedHandlers) ∧
      PlainNames (Document.read Syntax.parse nestedHandlers).root ∧
      (∀ after ∈ ((Document.read Syntax.parse nestedHandlers).render
          (eventHandlers.plan (.read Syntax.parse nestedHandlers)).edits).toOption,
        Syntax.parse after = (Document.read Syntax.parse nestedHandlers).root) ∧
      Distinct (.read Syntax.parse nestedHandlers) ∧
      ((Progress.start Syntax.parse nestedHandlers).step Syntax.parse eventHandlers).body =
        "<a onClick={f} title='é' b={<i onClick={g}/>}/>;\n" ∧
      ∀ element ∈ (Document.read Syntax.parse nestedHandlers).root.preorder,
        element.isElement = true → ¬Crowded (.read Syntax.parse nestedHandlers) element := by
    decide +kernel
  obtain ⟨-, -, -, apart⟩ := @handlers_stay_distinct_iff Syntax.parse
    (Progress.start Syntax.parse nestedHandlers) sound ranged plain
    (fun after rendered => steady after (by rw [Progress.start] at rendered; rw [rendered]; rfl)) distinct
  exact ⟨distinct, body, apart.2 clear⟩

/-- A handler in lower case beside one of the proper name. -/
def crowdedHandlers : String := "<a onclick={f} onClick={g}/>;\n"

/-- Two attributes of one name are left. -/
theorem crowdedHandlers_not_distinct :
    Distinct (Progress.start Syntax.parse crowdedHandlers).document ∧
      ((Progress.start Syntax.parse crowdedHandlers).step Syntax.parse eventHandlers).body =
        "<a onClick={f} onClick={g}/>;\n" ∧
      ¬Distinct ((Progress.start Syntax.parse crowdedHandlers).step Syntax.parse eventHandlers).document := by
  decide +kernel

end Repair

end ComponentGate
