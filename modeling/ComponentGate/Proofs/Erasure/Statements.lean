import ComponentGate.Proofs.Erasure.Removing
import ComponentGate.Proofs.Repair.Apart

/-! Statements without types. What erasing leaves of the statements of a module stands one behind the other,
the statements of types cut out; a statement that ends without a semicolon may go on with what comes to stand
behind it, and one that governs a statement of types goes on with the next statement. -/

namespace ComponentGate

open Syntax Preamble Document

namespace Erasure

/-- Whether a statement of a module is one of types only. -/
def isTypeStatement (statement : Tree) : Bool :=
  statement.isOneOf
      [.interfaceDeclaration, .typeAliasDeclaration, .functionSignature, .ambientDeclaration] ||
    (statement.isOneOf [.importStatement, .exportStatement] &&
      (isTypeOnly statement || statement.children.any (endsStatement statement)))

/-- What a parser is relied on for: it reads the statements of a module one behind the other; each ends with
what shows, or is on one line; clauses are written as clauses, and they and modifiers do not stand among the
statements, nor imported specifiers right below one of them. -/
structure Stated (takes : List UInt8 → Nat) (document : Document) : Prop where
  program : document.root.isKind .program = true
  top : Reads takes document.content 0 document.root.children document.content.length
  ended : ∀ child ∈ document.root.children, lineFeed ∉ document.span child ∨
    (document.content[child.stop - 1]?.any fun byte => !isBlankByte byte) = true
  clausal : ∀ clause ∈ document.root.preorder,
    clause.isOneOf [.namedImports, .exportClause] = true → isClausal document clause = true
  placed : ∀ child ∈ document.root.children,
    child.isOneOf [.namedImports, .exportClause] = false ∧ child.isOneOf modifierKinds = false ∧
      ∀ part ∈ child.children, part.isKind .namedImports = false

instance (takes : List UInt8 → Nat) (document : Document) : Decidable (Stated takes document) :=
  decidable_of_iff
    (document.root.isKind .program = true ∧
      Reads takes document.content 0 document.root.children document.content.length ∧
      (∀ clause ∈ document.root.preorder,
        clause.isOneOf [.namedImports, .exportClause] = true → isClausal document clause = true) ∧
      ∀ child ∈ document.root.children,
        (lineFeed ∉ document.span child ∨
          (document.content[child.stop - 1]?.any fun byte => !isBlankByte byte) = true) ∧
        child.isOneOf [.namedImports, .exportClause] = false ∧ child.isOneOf modifierKinds = false ∧
          ∀ part ∈ child.children, part.isKind .namedImports = false)
    ⟨fun ⟨program, top, clausal, children⟩ =>
      { program, top, clausal
        ended := fun child member => (children child member).1
        placed := fun child member => (children child member).2 },
    fun stated => ⟨stated.program, stated.top, stated.clausal, fun child member =>
      ⟨stated.ended child member, stated.placed child member⟩⟩⟩

/-- Whether a place lies in a statement of a module. -/
structure Below (root statement : Tree) (place : Place) : Prop where
  here : place.tree ∈ statement.preorder
  next : place.tree = statement ∨ ∀ following ∈ place.following, following ∈ statement.preorder
  around : ∃ inner, place.ancestors = inner ++ [root] ∧
    (∀ ancestor ∈ inner, ancestor ∈ statement.preorder) ∧
    (inner = [] → place.tree = statement) ∧ (inner.length = 1 → place.tree ∈ statement.children)

section Places

variable {root statement : Tree} {place child : Place}

/-- What stands below a place in a statement has all its siblings there too. -/
theorem Below.of_mem_children (below : Below root statement place) (member : child ∈ place.children) :
    Below root statement child ∧ ∀ following ∈ child.following, following ∈ statement.preorder := by
  have ordered : place.tree.children.Pairwise fun _ _ => True := List.pairwise_of_forall fun _ _ => trivial
  have here := Place.tree_mem_children member
  have next := Place.following_of_mem_siblings ordered member
  obtain ⟨inner, outside, inside, own, -⟩ := below.around
  have reached {tree : Tree} (listed : tree ∈ place.tree.children) : tree ∈ statement.preorder :=
    Tree.mem_preorder_of_mem_children below.here listed
  have following : ∀ following ∈ child.following, following ∈ statement.preorder :=
    fun tree found => reached (next tree found).1
  refine ⟨⟨reached here, .inr following, place.tree :: inner, ?_, ?_, ?_, ?_⟩, following⟩
  · rw [Place.ancestors_of_mem_siblings member, outside, List.cons_append]
  · exact List.forall_mem_cons.2 ⟨below.here, inside⟩
  · intro none
    cases none
  · intro single
    have none : inner = [] := by simpa using single
    rwa [← own none]

/-- What stands around a place stands in the statement too, unless the place is the statement. -/
theorem Below.parent (below : Below root statement place) {parent : Tree} {rest : List Tree}
    (around : place.ancestors = parent :: rest) :
    (place.tree = statement ∧ parent = root) ∨ parent ∈ statement.preorder := by
  obtain ⟨inner, outside, inside, own, -⟩ := below.around
  rw [around] at outside
  cases inner with
  | nil => exact .inl ⟨own rfl, (List.cons.inj outside).1⟩
  | cons first more =>
    obtain rfl : parent = first := (List.cons.inj outside).1
    exact .inr (inside parent List.mem_cons_self)

theorem Below.grandparent (below : Below root statement place) {parent outer : Tree} {rest : List Tree}
    (around : place.ancestors = parent :: outer :: rest) :
    place.tree ∈ statement.children ∨ outer ∈ statement.preorder := by
  obtain ⟨inner, outside, inside, -, direct⟩ := below.around
  rw [around] at outside
  match inner with
  | [] => cases outside
  | [first] => exact .inl (direct rfl)
  | first :: second :: more =>
    obtain ⟨rfl, rfl, -⟩ : parent = first ∧ outer = second ∧ rest = more ++ [root] := by
      simpa using outside
    exact .inr (inside outer (by simp))

/-- A walk begins with the module and goes on in its statements. -/
theorem below_of_mem_walkWhere {descends : Place → Place → Bool}
    (member : place ∈ (Place.ofRoot root).walkWhere descends) :
    place = Place.ofRoot root ∨ ∃ statement ∈ root.children, Below root statement place := by
  refine @Place.forall_mem_walkWhere descends
    (fun place => place = Place.ofRoot root ∨ ∃ statement ∈ root.children, Below root statement place)
    (fun place holds child under => .inr ?_) (Place.ofRoot root) (.inl rfl) place member
  rcases holds with rfl | ⟨statement, listed, below⟩
  · refine ⟨child.tree, Place.tree_mem_children under, child.tree.mem_preorder_self, .inl rfl, [],
      Place.ancestors_of_mem_siblings under, by simp, fun _ => rfl, ?_⟩
    intro single
    cases single
  · exact ⟨statement, listed, (below.of_mem_children under).1⟩

end Places

/-- How far an edit in a statement reaches: it stays in the statement, or clears the lines of a part of it. -/
def Reaches (document : Document) (statement : Tree) (edit : Edit) : Prop :=
  (statement.start ≤ edit.start ∧ edit.stop ≤ statement.stop) ∨
    ∃ part ∈ statement.preorder, edit = document.removeStatement part

section Reach

variable {takes : List UInt8 → Nat} {text : String} {document : Document} {statement : Tree}
  {place : Place} {edit : Edit}

/-- What stays in a part of a statement stays in the statement. -/
theorem reaches_of_inside (ranged : Ranged text document) (listed : statement ∈ document.root.children)
    {tree : Tree} (here : tree ∈ statement.preorder) (front : (tree.start : Int) ≤ edit.start)
    (back : edit.stop ≤ tree.stop) : Reaches document statement edit := by
  have inside := ranged.inside
    (Tree.mem_preorder_of_mem_children document.root.mem_preorder_self listed) here
  exact .inl ⟨by omega, by omega⟩

theorem reaches_remove (ranged : Ranged text document) (listed : statement ∈ document.root.children)
    {tree : Tree} (here : tree ∈ statement.preorder) : Reaches document statement (.remove tree) :=
  reaches_of_inside ranged listed here (Int.le_refl _) (Int.le_refl _)

theorem reaches_removeWithGap (ranged : Ranged text document)
    (listed : statement ∈ document.root.children) (here : place.tree ∈ statement.preorder)
    (next : ∀ following ∈ place.following, following ∈ statement.preorder) :
    Reaches document statement (removeWithGap place) := by
  have visited := Tree.mem_preorder_of_mem_children document.root.mem_preorder_self listed
  have inside := ranged.inside visited here
  refine .inl ⟨Int.ofNat_le.2 inside.1, ?_⟩
  rw [removeWithGap]
  cases found : place.following with
  | none => exact Int.ofNat_le.2 inside.2
  | some following =>
    have there := next following found
    have forward := ranged.forward following (Tree.preorder_subset_of_mem_preorder visited there)
    exact Int.ofNat_le.2 (forward.trans (ranged.inside visited there).2)

theorem reaches_of_cause (ranged : Ranged text document) (stated : Stated takes document)
    (listed : statement ∈ document.root.children) (below : Below document.root statement place)
    (cause : Cause document place edit) : Reaches document statement edit := by
  obtain ⟨plain, other, parts⟩ := stated.placed statement listed
  cases cause with
  | construct => exact reaches_remove ranged listed below.here
  | modifier kind =>
    rcases below.next with same | next
    · rw [same, other] at kind
      cases kind
    · exact reaches_removeWithGap ranged listed below.here next
  | statement => exact .inr ⟨place.tree, below.here, rfl⟩
  | @exported parent around kind =>
    obtain ⟨rest, around⟩ := List.head?_eq_some_iff.1 around
    rcases below.parent around with ⟨-, rfl⟩ | inside
    · have program := stated.program
      rw [Tree.isKind, beq_iff_eq] at program kind
      rw [program] at kind
      cases kind
    · exact .inr ⟨parent, inside, rfl⟩
  | @cast value first =>
    have visited := Tree.mem_preorder_of_mem_children document.root.mem_preorder_self listed
    have reached := Tree.preorder_subset_of_mem_preorder visited below.here
    have part := (List.mem_filter.1 (List.mem_of_head? first)).1
    have nested := ranged.nested _ reached value part
    have forward := ranged.forward value (Tree.mem_preorder_of_mem_children reached part)
    exact reaches_of_inside ranged listed below.here (Int.ofNat_le.2 (nested.1.trans forward))
      (Int.le_refl _)
  | mark under => exact reaches_remove ranged listed (below.of_mem_children under).1.here
  | word under =>
    obtain ⟨deeper, next⟩ := below.of_mem_children under
    exact reaches_removeWithGap ranged listed deeper.here next
  | clause _ _ =>
    exact reaches_of_inside ranged listed below.here (Int.le_refl _) (Int.le_refl _)
  | @imported parent outer rest kind around =>
    rcases below.grandparent around with direct | inside
    · rw [parts _ direct] at kind
      cases kind
    · exact .inr ⟨outer, inside, rfl⟩
  | @reexported parent rest kind around =>
    rcases below.parent around with ⟨same, -⟩ | inside
    · rw [same, plain] at kind
      cases kind
    · exact .inr ⟨parent, inside, rfl⟩

/-- Each edit is made in a statement. -/
theorem exists_reaches (ranged : Ranged text document) (stated : Stated takes document)
    (made : edit ∈ edits document) :
    ∃ statement ∈ document.root.children, ∃ place, Below document.root statement place ∧
      edit ∈ (action document place).edits ∧ Reaches document statement edit := by
  obtain ⟨place, visited, made⟩ := List.mem_flatMap.1 made
  rcases below_of_mem_walkWhere visited with rfl | ⟨statement, listed, below⟩
  · have kind : document.root.kind? = some .program := beq_iff_eq.1 stated.program
    have none : (action document (Place.ofRoot document.root)).edits = [] := by
      rw [action, Place.ofRoot]
      dsimp only
      rw [kind]
      simp [erasedKinds, modifierKinds, typeStatementKinds, castKinds, Action.edits, markEdits, typedMarks]
    rw [none] at made
    cases made
  · exact ⟨statement, listed, place, below, made,
      reaches_of_cause ranged stated listed below (cause_of_mem_action made)⟩

end Reach

section Removals

variable {takes : List UInt8 → Nat} {document : Document} {place child : Place} {clause statement : Tree}
  {edit : Edit}

/-- The walk enters modules and clauses of imports, and statements that are not marked as ones of types. -/
theorem descends_of_kind {kind : Kind} (found : place.tree.kind? = some kind)
    (plain : kind ∈ [Kind.program, .importClause] ∨
      kind ∈ [Kind.importStatement, .exportStatement] ∧ isTypeOnly place.tree = false) :
    descends document place child = true := by
  have entered : ∃ edits, action document place = .descend edits := by
    rw [action]
    dsimp only
    rw [found]
    simp only [List.mem_cons, List.not_mem_nil, or_false] at plain
    rcases plain with (rfl | rfl) | ⟨rfl | rfl, free⟩ <;>
      simp [erasedKinds, modifierKinds, typeStatementKinds, castKinds, *]
  obtain ⟨edits, entered⟩ := entered
  rw [descends, entered]

theorem mem_edits_of_walk (visited : place ∈ (Place.ofRoot document.root).walkWhere (descends document))
    (made : edit ∈ (action document place).edits) : edit ∈ edits document :=
  List.mem_flatMap.2 ⟨place, visited, made⟩

theorem mem_action_of_typeStatement (kind : place.tree.isOneOf typeStatementKinds = true) :
    document.removeStatement ((place.parent?.filter (·.isKind .exportStatement)).getD place.tree) ∈
      (action document place).edits := by
  rw [action]
  dsimp only
  cases found : place.tree.kind? with
  | none => simp [Tree.isOneOf, found] at kind
  | some own =>
    have listed : own ∈ typeStatementKinds := by simpa [Tree.isOneOf, found] using kind
    have other : own ∉ erasedKinds ∧ own ∉ modifierKinds := by
      have apart : ∀ kind ∈ typeStatementKinds, kind ∉ erasedKinds ∧ kind ∉ modifierKinds := by decide
      exact apart own listed
    simp [listed, other.1, other.2, Action.edits]

theorem mem_action_of_typeOnly (kind : place.tree.isOneOf [.importStatement, .exportStatement] = true)
    (typed : isTypeOnly place.tree = true) :
    document.removeStatement place.tree ∈ (action document place).edits := by
  rw [action]
  dsimp only
  cases found : place.tree.kind? with
  | none => simp [Tree.isOneOf, found] at kind
  | some own =>
    have listed : own = .importStatement ∨ own = .exportStatement := by
      simpa [Tree.isOneOf, found] using kind
    rcases listed with rfl | rfl <;>
      simp [typed, erasedKinds, modifierKinds, typeStatementKinds, castKinds, Action.edits]

/-- A clause of types only goes with its statement. -/
theorem mem_specifierEdits_of_isEmptied (emptied : isEmptied place.tree = true) {parent : Tree}
    {rest : List Tree} (around : place.ancestors = parent :: rest)
    (few : place.tree.isKind .namedImports = true → parent.namedChildren.length ≤ 1) :
    ∀ statement ∈ (if place.tree.isKind .namedImports then rest.head? else some parent),
      document.removeStatement statement ∈ specifierEdits document place := by
  intro statement last
  rw [isEmptied] at emptied
  simp only [Bool.and_eq_true, Bool.not_eq_true', List.isEmpty_eq_false_iff] at emptied
  obtain ⟨some, typed⟩ := emptied
  have none : keptSpecifiers place.tree = [] := by
    apply List.filter_eq_nil_iff.2
    intro specifier member
    simp [List.all_eq_true.1 typed specifier member]
  have differ : ¬(keptSpecifiers place.tree).length =
      (place.tree.namedChildren.filter isSpecifier).length := by
    rw [none]
    exact fun same => some (List.length_eq_zero_iff.1 same.symm)
  rw [specifierEdits_eq, if_neg differ, none, around]
  cases imports : place.tree.isKind .namedImports with
  | true =>
    rw [imports, if_pos rfl] at last
    have short : ¬1 < parent.namedChildren.length := by
      have := few imports
      omega
    simp [short, Option.mem_def.1 last]
  | false =>
    rw [imports, if_neg Bool.false_ne_true] at last
    obtain rfl := Option.some.inj last
    simp

theorem edits_action_of_clause (clause : place.tree.isOneOf [.namedImports, .exportClause] = true) :
    (action document place).edits = specifierEdits document place := by
  rw [action]
  dsimp only
  cases found : place.tree.kind? with
  | none => simp [Tree.isOneOf, found] at clause
  | some own =>
    have listed : own = .namedImports ∨ own = .exportClause := by simpa [Tree.isOneOf, found] using clause
    rcases listed with rfl | rfl <;>
      simp [erasedKinds, modifierKinds, typeStatementKinds, castKinds, Action.edits]

/-- A statement goes with the part of it that leaves nothing of it but types. -/
theorem mem_edits_of_endsStatement
    (visited : place ∈ (Place.ofRoot document.root).walkWhere (descends document))
    (kind : place.tree.isOneOf [.importStatement, .exportStatement] = true)
    (free : isTypeOnly place.tree = false) {part : Tree} (member : part ∈ place.tree.children)
    (ends : endsStatement place.tree part = true) :
    document.removeStatement place.tree ∈ edits document := by
  obtain ⟨own, found, listed⟩ : ∃ own, place.tree.kind? = some own ∧
      own ∈ [Kind.importStatement, .exportStatement] := by
    cases found : place.tree.kind? with
    | none => simp [Tree.isOneOf, found] at kind
    | some own => exact ⟨own, rfl, by simpa [Tree.isOneOf, found] using kind⟩
  obtain ⟨inner, under, rfl, around⟩ := Place.exists_mem_children member
  have visited' := Place.mem_walkWhere_of_mem_children visited under
    (descends_of_kind found (.inr ⟨listed, free⟩))
  rw [endsStatement] at ends
  split at ends
  · simp only [Bool.and_eq_true, decide_eq_true_eq, List.any_eq_true] at ends
    obtain ⟨⟨imports, few⟩, clause, member', named, emptied⟩ := ends
    obtain ⟨deeper, under', rfl, around'⟩ := Place.exists_mem_children member'
    have visited'' := Place.mem_walkWhere_of_mem_children visited' under'
      (descends_of_kind (beq_iff_eq.1 imports) (.inl (by simp)))
    have last := @mem_specifierEdits_of_isEmptied document deeper emptied inner.tree _ around' (fun _ => few)
      place.tree (by rw [if_pos named, around]; rfl)
    rw [← edits_action_of_clause (by simp [Tree.isOneOf, beq_iff_eq.1 named])] at last
    exact mem_edits_of_walk visited'' last
  · rename_i other
    have exports : place.tree.isKind .exportStatement = true := by
      rw [← Tree.isOneOf_singleton] at other ⊢
      rw [Tree.isOneOf, found] at other ⊢
      simp only [List.mem_cons, List.not_mem_nil, or_false] at listed
      rcases listed with rfl | rfl
      · exact absurd rfl other
      · rfl
    rw [Bool.or_eq_true, Bool.and_eq_true] at ends
    rcases ends with typed | ⟨clause, emptied⟩
    · have made := @mem_action_of_typeStatement document inner typed
      rw [Place.parent?, around, List.head?_cons, Option.filter_some, if_pos exports,
        Option.getD_some] at made
      exact mem_edits_of_walk visited' made
    · have own : inner.tree.kind? = some .exportClause := beq_iff_eq.1 clause
      have plain : inner.tree.isKind .namedImports = false := by
        rw [Tree.isKind, own]
        rfl
      have last := @mem_specifierEdits_of_isEmptied document inner emptied place.tree _ around
        (by simp [plain]) place.tree (by simp [plain])
      rw [← edits_action_of_clause (by simp [Tree.isOneOf, own])] at last
      exact mem_edits_of_walk visited' last

/-- Each statement of types only is removed. -/
theorem removeStatement_mem_edits (program : document.root.isKind .program = true)
    (listed : statement ∈ document.root.children) (typed : isTypeStatement statement = true) :
    document.removeStatement statement ∈ edits document := by
  have kind : document.root.kind? = some .program := beq_iff_eq.1 program
  obtain ⟨place, under, rfl, around⟩ := @Place.exists_mem_children (Place.ofRoot document.root) _ listed
  have visited := Place.mem_walkWhere_of_mem_children
    (Place.mem_walkWhere_self (descends document) (Place.ofRoot document.root)) under
    (descends_of_kind kind (.inl (by simp)))
  rw [isTypeStatement, Bool.or_eq_true, Bool.and_eq_true, Bool.or_eq_true, List.any_eq_true] at typed
  rcases typed with declared | ⟨moved, marked | ⟨part, member, ends⟩⟩
  · have made := @mem_action_of_typeStatement document place declared
    have plain : document.root.isKind .exportStatement = false := by
      rw [Tree.isKind, kind]
      rfl
    rw [Place.parent?, around, List.head?_cons, Place.ofRoot, Option.filter_some, plain,
      if_neg Bool.false_ne_true, Option.getD_none] at made
    exact mem_edits_of_walk visited made
  · exact mem_edits_of_walk visited (mem_action_of_typeOnly moved marked)
  · cases free : isTypeOnly place.tree with
    | true => exact mem_edits_of_walk visited (mem_action_of_typeOnly moved free)
    | false => exact mem_edits_of_endsStatement visited moved free member ends

end Removals

/-- What erasing leaves of a statement, from what shows of it on. -/
def outcome (document : Document) (statement : Tree) : List UInt8 :=
  (Edit.cells document.content (edits document) statement.start statement.stop).dropWhile isBlankByte

/-- What erasing leaves of the statements of a module that are not of types only. -/
def remaining (document : Document) : List (List UInt8) :=
  (document.root.children.filter fun statement => !isTypeStatement statement).map (outcome document)

section Outcomes

variable {takes : List UInt8 → Nat} {text : String} {document : Document} {statement : Tree} {place : Nat}
  (ranged : Ranged text document)
include ranged

/-- Removing a statement of types takes it away as a whole. -/
theorem covers_removeStatement (listed : statement ∈ document.root.children) {offset : Nat}
    (behind : statement.start ≤ offset) (before : offset < statement.stop) :
    (document.removeStatement statement).covers offset = true := by
  have visited := Tree.mem_preorder_of_mem_children document.root.mem_preorder_self listed
  have front := clearedFrom_le document statement
  have back := le_clearedTo (ranged.stop_le visited)
  rw [removeStatement_eq, Edit.covers_iff]
  exact ⟨Int.ofNat_le.2 (by omega), Int.ofNat_lt.2 (by omega)⟩

variable (stated : Stated takes document)
include stated

/-- Outside the statements that stay nothing is written. -/
theorem written_of_outside (clear : ¬Edit.Clashing (edits document))
    (outside : ∀ statement ∈ document.root.children, isTypeStatement statement = false →
      place < statement.start ∨ statement.stop ≤ place) :
    ∀ edit ∈ edits document, edit.start = place → edit.written = [] := by
  intro edit made start
  by_contra some
  obtain ⟨statement, listed, -, -, -, reaches⟩ := exists_reaches ranged stated made
  rcases reaches with ⟨front, back⟩ | ⟨part, -, rfl⟩
  · have filled := filled_edits ranged stated.clausal edit made some
    cases typed : isTypeStatement statement with
    | false =>
      have apart := outside statement listed typed
      omega
    | true =>
      have removed := removeStatement_mem_edits stated.program listed typed
      have covers := @covers_removeStatement _ _ statement ranged listed place (by omega) (by omega)
      rw [Edit.covers_iff] at covers
      refine Edit.not_overlaps_of_mem clear removed made ?_ ⟨by omega, filled, by omega, by omega⟩
      rintro rfl
      exact some (written_removeStatement statement)
  · exact some (written_removeStatement part)

/-- Outside the statements that stay nothing comes out that shows. -/
theorem dense_cell_of_outside (clear : ¬Edit.Clashing (edits document))
    (before : place < document.content.length)
    (outside : ∀ statement ∈ document.root.children, isTypeStatement statement = false →
      place < statement.start ∨ statement.stop ≤ place) :
    dense (Edit.cell document.content (edits document) place) = [] := by
  rw [Edit.cell_of_silent (written_of_outside ranged stated clear outside)]
  split
  · rfl
  · rename_i uncovered
    apply dense_eq_nil
    intro byte here
    refine stated.top.blank_outside (Nat.zero_le _) before (fun statement listed => ?_)
      (Option.mem_toList.1 here)
    cases typed : isTypeStatement statement with
    | false => exact outside statement listed typed
    | true =>
      by_contra! inside
      exact uncovered (List.any_eq_true.2 ⟨_, removeStatement_mem_edits stated.program listed typed,
        covers_removeStatement ranged listed inside.1 inside.2⟩)

/-- Behind the text nothing comes out. -/
theorem cells_behind (clear : ¬Edit.Clashing (edits document)) :
    Edit.cells document.content (edits document) document.content.length
      (document.content.length + 1) = [] := by
  have silent := @written_of_outside _ _ _ document.content.length ranged stated clear
    fun statement listed _ => .inr (stated.top.bounds.2.2 statement listed).2.2
  have beyond : document.content[document.content.length]? = none := List.getElem?_eq_none (Nat.le_refl _)
  rw [Edit.cells_succ _ _ (Nat.lt_succ_self _), Edit.cell_of_silent silent, beyond]
  simp [Edit.cells]

/-- A statement without anything of types in it keeps its bytes. -/
theorem outcome_of_untyped (listed : statement ∈ document.root.children)
    (untyped : ∀ node ∈ statement.preorder, isUntyped node = true) :
    outcome document statement = document.span statement := by
  have self := document.root.mem_preorder_self
  have begins := stated.top.opens_of_mem listed
  obtain ⟨-, filled, last⟩ := stated.top.bounds.2.2 statement listed
  have still : ∀ offset, statement.start ≤ offset → offset < statement.stop →
      Edit.cell document.content (edits document) offset = document.content[offset]?.toList := by
    intro offset behind before
    have elsewhere : ∀ edit ∈ edits document, (edit.start = offset → edit.written = []) ∧
        ¬edit.covers offset = true := by
      intro edit member
      obtain ⟨other, listed', place, below, made, reaches⟩ := exists_reaches ranged stated member
      rcases ranged.siblings self listed listed' with rfl | order
      · rw [edits_action_of_untyped untyped below.here] at made
        cases made
      · rcases reaches with ⟨front, back⟩ | ⟨part, inside, rfl⟩
        · rw [Edit.covers_iff]
          refine ⟨fun start => by_contra fun some => ?_, by omega⟩
          have := filled_edits ranged stated.clausal edit member some
          omega
        · refine ⟨fun _ => written_removeStatement part, ?_⟩
          have visited := Tree.mem_preorder_of_mem_children self listed'
          have below := Tree.preorder_subset_of_mem_preorder visited inside
          have around := ranged.inside visited inside
          have apart := not_cleared_of_apart begins (stated.ended statement listed)
            (ranged.forward part below) (ranged.stop_le below) (by omega) behind before
          rw [removeStatement_eq, Edit.covers_iff]
          simp only [Edit.delete]
          omega
    rw [Edit.cell_of_silent fun edit made => (elsewhere edit made).1, if_neg]
    rw [List.any_eq_true]
    rintro ⟨edit, made, covers⟩
    exact (elsewhere edit made).2 covers
  have whole : Edit.cells document.content (edits document) statement.start statement.stop =
      document.span statement :=
    Edit.cells_of_still still
  rw [outcome, whole]
  apply dropWhile_of_opens
  rwa [span, opens, List.head?_drop, List.getElem?_take_of_lt filled, ← List.head?_drop]

end Outcomes

open Repair in
/-- Erasing leaves a statement without types as it is. What it leaves of the statements, those of types left
out, stands one behind the other if each of them can begin a statement; these are the statements that are
read exactly if, moreover, each of them is still taken whole. -/
theorem erasing_keeps_statements_iff {parse : Parse} {source erased : String} {takes : List UInt8 → Nat}
    (commits : Commits parse source erased)
    (ranged : Ranged (split source).body (reviewed parse source))
    (stated : Stated takes (reviewed parse source))
    (reads : Reads takes (bytesOf erased) 0 (parse erased).children (bytesOf erased).length) :
    (∀ statement ∈ (reviewed parse source).root.children, isTypeStatement statement = false →
      (∀ node ∈ statement.preorder, isUntyped node = true) →
        outcome (reviewed parse source) statement = (reviewed parse source).span statement) ∧
    ((∀ piece ∈ remaining (reviewed parse source), opens piece = true) →
      Standing (remaining (reviewed parse source)) (bytesOf erased)) ∧
    ((parse erased).children.map (Document.read parse erased).span = remaining (reviewed parse source) ↔
      (∀ piece ∈ remaining (reviewed parse source), opens piece = true) ∧
        TakenWhole takes (remaining (reviewed parse source)) (bytesOf erased)) := by
  have fits : ∀ edit ∈ edits (reviewed parse source), edit.Fits (reviewed parse source).bytes.size :=
    fun edit member => (removes_edits ranged stated.clausal edit member).fits
  obtain ⟨clear, bytes⟩ := Edit.cells_of_render fits commits.rendered
  have standing (begins : ∀ piece ∈ remaining (reviewed parse source), opens piece = true) :
      Standing (remaining (reviewed parse source)) (bytesOf erased) := by
    rw [bytes]
    apply standing_trimmed stated.top
    · intro place _ before outside
      exact dense_cell_of_outside ranged stated clear before
        fun statement listed stays => outside statement listed (by simp [stays])
    · intro statement listed stays
      exact begins _ (List.mem_map_of_mem (List.mem_filter.2 ⟨listed, stays⟩))
    · rw [cells_behind ranged stated clear]
      rfl
  refine ⟨fun statement listed _ untyped => outcome_of_untyped ranged stated listed untyped, standing, ?_⟩
  constructor
  · intro same
    have begins : ∀ piece ∈ remaining (reviewed parse source), opens piece = true := by
      rw [← same, List.forall_mem_map]
      intro statement listed
      have filled := (reads.bounds.2.2 statement listed).2.1
      have opening := reads.opens_of_mem listed
      rwa [span, opens, List.head?_drop, List.getElem?_take_of_lt filled, ← List.head?_drop]
    exact ⟨begins, (reads.map_span_eq_iff (standing begins)).1 same⟩
  · rintro ⟨begins, whole⟩
    exact (reads.map_span_eq_iff (standing begins)).2 whole

/-- A statement of types between two others, one of which has a type in it. -/
def partedCalls : String := "b();\ntype T = 1;\nlet a: T\n// k\n"

theorem partedCalls_keeps_statements :
    ∃ erased, Commits Syntax.parse partedCalls erased ∧
      remaining (reviewed Syntax.parse partedCalls) = [bytesOf "b();", bytesOf "let a", bytesOf "// k"] ∧
      (Syntax.parse erased).children.map (Document.read Syntax.parse erased).span =
        remaining (reviewed Syntax.parse partedCalls) := by
  -- evaluated together, so that each text is parsed once
  obtain ⟨readable, ranged, stated, pieces, erased, rendered, readable', reads, begins, whole⟩ :
      (reviewed Syntax.parse partedCalls).hasErrors = false ∧
      Ranged (split partedCalls).body (reviewed Syntax.parse partedCalls) ∧
      Stated Repair.taken (reviewed Syntax.parse partedCalls) ∧
      remaining (reviewed Syntax.parse partedCalls) = [bytesOf "b();", bytesOf "let a", bytesOf "// k"] ∧
      ∃ erased ∈ ((reviewed Syntax.parse partedCalls).render
          (edits (reviewed Syntax.parse partedCalls))).toOption,
        (Document.read Syntax.parse erased).hasErrors = false ∧
        Reads Repair.taken (bytesOf erased) 0 (Syntax.parse erased).children (bytesOf erased).length ∧
        (∀ piece ∈ remaining (reviewed Syntax.parse partedCalls), opens piece = true) ∧
        TakenWhole Repair.taken (remaining (reviewed Syntax.parse partedCalls)) (bytesOf erased) := by
    decide +kernel
  have commits := commits_of_mem_toOption readable rendered readable'
  exact ⟨erased, commits, pieces,
    (erasing_keeps_statements_iff commits ranged stated reads).2.2.2 ⟨begins, whole⟩⟩

/-- A statement that ends with its line, in front of a statement of types and one that begins with a
bracket. -/
def joinedCalls : String := "b()\ntype T = 1;\n(c)();\n"

/-- Two statements are read as one. -/
theorem joinedCalls_joined :
    (reviewed Syntax.parse joinedCalls).root.children.map (reviewed Syntax.parse joinedCalls).text =
        ["b()", "type T = 1;", "(c)();"] ∧
      (reviewed Syntax.parse joinedCalls).root.children.map isTypeStatement = [false, true, false] ∧
      eraseTypes Syntax.parse joinedCalls = "b()\n(c)();\n" ∧
      (Syntax.parse "b()\n(c)();\n").children.map (Document.read Syntax.parse "b()\n(c)();\n").text =
        ["b()\n(c)();"] := by
  decide +kernel

end Erasure

end ComponentGate
