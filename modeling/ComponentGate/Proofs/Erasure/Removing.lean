import ComponentGate.Proofs.Document.Layout
import ComponentGate.Proofs.Erasure.Unlocking

/-! Erasing types removes only. Each edit leaves a part of what shows in its range; the one that writes
anything writes a clause again from the specifiers that it keeps. -/

namespace ComponentGate

open Syntax Preamble Document

/-- The characters of a text other than blanks. -/
def shown (text : String) : List Char := text.toList.filter fun c => !isAsciiBlank c

section Shown

@[simp] theorem shown_empty : shown "" = [] := rfl

@[simp] theorem shown_append (first second : String) :
    shown (first ++ second) = shown first ++ shown second := by
  simp [shown]

theorem shown_intercalate_cons (separator first : String) (rest : List String) :
    shown (separator.intercalate (first :: rest)) =
      shown first ++ rest.flatMap fun part => shown separator ++ shown part := by
  induction rest generalizing first with
  | nil => simp
  | cons second rest ih =>
    rw [String.intercalate_cons_cons, shown_append, shown_append, ih, List.flatMap_cons]
    simp

end Shown

namespace Document

variable {text : String} {document : Document}

/-- Whether an edit puts a part of what shows in its range in the place of all of it. -/
structure Removes (text : String) (document : Document) (edit : Edit) : Prop where
  fits : edit.Fits document.bytes.size
  cuts : Cuttable text edit.start.toNat ∧ Cuttable text edit.stop.toNat
  less : (shown edit.text).Sublist (shown (document.textBetween edit.start.toNat edit.stop.toNat))

theorem textBetween_self (read : document.bytes = text.toUTF8) :
    document.textBetween 0 document.bytes.size = text := by
  apply bytesOf_injective
  have size : document.content.length = document.bytes.size := rfl
  rw [bytesOf_textBetween_of_cuttable read cuttable_zero (read ▸ cuttable_size) (Nat.zero_le _),
    List.drop_zero, ← size, List.take_length, content, read]
  rfl

/-- Edits that remove leave a part of what shows behind the offset that is reached. -/
theorem exists_shown_cells (read : document.bytes = text.toUTF8) {edits : List Edit} {reached : Nat}
    (ahead : Edit.Ahead document.bytes.size reached edits)
    (removes : ∀ edit ∈ edits, Removes text document edit) (cut : Cuttable text reached) :
    ∃ rest : String,
      bytesOf rest = Edit.cells document.content edits reached (document.bytes.size + 1) ∧
        (shown rest).Sublist (shown (document.textBetween reached document.bytes.size)) := by
  have size : document.content.length = document.bytes.size := rfl
  have last : Cuttable text document.bytes.size := read ▸ cuttable_size
  induction ahead with
  | @done reached within =>
    refine ⟨document.textBetween reached document.bytes.size, ?_, List.Sublist.refl _⟩
    rw [bytesOf_textBetween_of_cuttable read cut last within, Edit.cells_of_lt (by simp),
      ← size, List.take_length, List.take_of_length_le (Nat.le_succ _)]
  | @next reached edit rest fits start later _ ih =>
    obtain ⟨own, others⟩ := List.forall_mem_cons.1 removes
    have ⟨nonneg, forward, within⟩ := fits
    obtain ⟨tail, bytes, less⟩ := ih others own.cuts.2
    refine ⟨document.textBetween reached edit.start.toNat ++ (edit.text ++ tail), ?_, ?_⟩
    · rw [Edit.cells_reached fits later start, bytesOf_append, bytesOf_append, bytes,
        bytesOf_textBetween_of_cuttable read cut own.cuts.1 (by omega)]
      rfl
    · rw [textBetween_append read cut own.cuts.1 last (by omega) (by omega),
        textBetween_append read own.cuts.1 own.cuts.2 last (by omega) (by omega)]
      simp only [shown_append]
      exact (List.Sublist.refl _).append (own.less.append less)

/-- Edits that remove leave a part of what shows. -/
theorem shown_of_render (read : document.bytes = text.toUTF8) {edits : List Edit} {after : String}
    (removes : ∀ edit ∈ edits, Removes text document edit) (rendered : document.render edits = .ok after) :
    (shown after).Sublist (shown text) := by
  obtain ⟨ahead, bytes⟩ :=
    Edit.cells_ordered_of_render (fun edit member => (removes edit member).fits) rendered
  have kept : ∀ edit ∈ Edit.ordered edits, Removes text document edit :=
    fun edit member => removes edit ((Edit.perm_ordered edits).mem_iff.1 member)
  obtain ⟨rest, same, less⟩ := exists_shown_cells read ahead kept cuttable_zero
  obtain rfl : after = rest := bytesOf_injective (bytes.trans same.symm)
  rwa [textBetween_self read] at less

section Parts

/-- What shows in parts that stand one behind the other shows where they stand. -/
theorem shown_parts_sublist (read : document.bytes = text.toUTF8) {parts : List Tree} {start stop : Nat}
    (one : Cuttable text start) (two : Cuttable text stop) (order : start ≤ stop)
    (cuts : ∀ part ∈ parts, Cuttable text part.start ∧ Cuttable text part.stop)
    (forward : ∀ part ∈ parts, part.start ≤ part.stop)
    (inside : ∀ part ∈ parts, start ≤ part.start ∧ part.stop ≤ stop)
    (apart : parts.Pairwise fun first second => first.stop ≤ second.start) :
    (parts.flatMap fun part => shown (document.text part)).Sublist
      (shown (document.textBetween start stop)) := by
  induction parts generalizing start with
  | nil => exact List.nil_sublist _
  | cons part rest ih =>
    obtain ⟨own, cuts⟩ := List.forall_mem_cons.1 cuts
    obtain ⟨ahead, forward⟩ := List.forall_mem_cons.1 forward
    obtain ⟨around, inside⟩ := List.forall_mem_cons.1 inside
    obtain ⟨later, apart⟩ := List.pairwise_cons.1 apart
    have rest := ih own.2 (by omega) cuts forward
      (fun other member => ⟨later other member, (inside other member).2⟩) apart
    rw [textBetween_append read one own.1 two (by omega) (by omega),
      textBetween_append read own.1 own.2 two (by omega) (by omega), List.flatMap_cons]
    simp only [shown_append]
    exact ((List.Sublist.refl _).append rest).trans (List.sublist_append_right _ _)

end Parts

end Document

namespace Erasure

/-- Whether each specifier has a comma of its own in front; `free` says that one is left over. -/
def separated (document : Document) : (free : Bool) → List Tree → Bool
  | _, [] => true
  | free, part :: rest =>
    if isSpecifier part then free && separated document false rest
    else separated document (free || document.text part == ",") rest

/-- Whether a clause is written as one: specifiers between braces, and commas between them. -/
def isClausal (document : Document) (clause : Tree) : Bool :=
  clause.children.head?.any (fun part => !isSpecifier part && document.text part == "\x7b") &&
    clause.children.getLast?.any (fun part => !isSpecifier part && document.text part == "\x7d") &&
    separated document true clause.children

section Clauses

variable {text : String} {document : Document} {clause : Tree}

theorem isNamed_of_isSpecifier {part : Tree} (specifier : isSpecifier part = true) :
    part.isNamed = true := by
  cases named : part.isNamed with
  | true => rfl
  | false => rw [isSpecifier, Tree.isOneOf_of_unnamed named] at specifier; cases specifier

/-- Specifiers with a comma in front of each show where commas stand between specifiers. -/
theorem joined_sublist {chosen : Tree → Bool} (among : ∀ part, chosen part = true → isSpecifier part = true)
    {free : Bool} {parts : List Tree} (apart : separated document free parts = true) :
    ((parts.filter chosen).flatMap fun part => ',' :: shown (document.text part)).Sublist
      ((if free then [','] else []) ++ parts.flatMap fun part => shown (document.text part)) := by
  induction parts generalizing free with
  | nil => exact List.nil_sublist _
  | cons part rest ih =>
    rw [separated] at apart
    rw [List.flatMap_cons]
    split at apart
    · rename_i specifier
      rw [Bool.and_eq_true] at apart
      obtain ⟨rfl, apart⟩ := apart
      have later := ih apart
      rw [if_neg Bool.false_ne_true, List.nil_append] at later
      rw [if_pos rfl, List.singleton_append]
      cases kept : chosen part with
      | true =>
        rw [List.filter_cons_of_pos kept, List.flatMap_cons, List.cons_append]
        exact ((List.Sublist.refl _).append later).cons_cons ','
      | false =>
        rw [List.filter_cons_of_neg (by simp [kept])]
        exact (later.trans (List.sublist_append_right _ _)).cons ','
    · rename_i plain
      have other : chosen part = false := Bool.eq_false_iff.2 fun kept => plain (among part kept)
      have later := ih apart
      rw [List.filter_cons_of_neg (by simp [other])]
      cases comma : document.text part == "," with
      | true =>
        have spelled : shown (document.text part) = [','] := by
          rw [eq_of_beq comma]
          decide
        rw [comma, Bool.or_true] at later
        rw [spelled]
        exact later.trans (List.sublist_append_right _ _)
      | false =>
        rw [comma, Bool.or_false] at later
        exact later.trans ((List.Sublist.refl _).append (List.sublist_append_right _ _))

theorem separated_of_append {free : Bool} {front back : List Tree}
    (apart : separated document free (front ++ back) = true) : separated document free front = true := by
  induction front generalizing free with
  | nil => rfl
  | cons part rest ih =>
    rw [List.cons_append, separated] at apart
    rw [separated]
    split
    · rename_i specifier
      rw [if_pos specifier, Bool.and_eq_true] at apart
      exact Bool.and_eq_true_iff.2 ⟨apart.1, ih apart.2⟩
    · rename_i plain
      rw [if_neg plain] at apart
      exact ih apart

/-- The specifiers that a clause keeps. -/
def keptSpecifiers (clause : Tree) : List Tree :=
  (clause.namedChildren.filter isSpecifier).filter (!isTypeOnly ·)

theorem keptSpecifiers_eq (clause : Tree) :
    keptSpecifiers clause = clause.children.filter fun part => isSpecifier part && !isTypeOnly part := by
  rw [keptSpecifiers, Tree.namedChildren, List.filter_filter, List.filter_filter]
  apply List.filter_congr
  intro part _
  cases specifier : isSpecifier part with
  | false => simp
  | true => simp [isNamed_of_isSpecifier specifier]

/-- A clause begins with a brace, ends with one, and shows its specifiers in between. -/
theorem exists_braced (clausal : isClausal document clause = true) :
    ∃ middle, (clause.children.flatMap fun part => shown (document.text part)) =
        '\x7b' :: (middle.flatMap fun part => shown (document.text part)) ++ ['\x7d'] ∧
      separated document true middle = true ∧
      keptSpecifiers clause = middle.filter fun part => isSpecifier part && !isTypeOnly part := by
  rw [isClausal, Bool.and_eq_true, Bool.and_eq_true, Option.any_eq_true, Option.any_eq_true] at clausal
  obtain ⟨⟨⟨opening, first, one⟩, closing, last, two⟩, apart⟩ := clausal
  simp only [Bool.and_eq_true, Bool.not_eq_true', beq_iff_eq] at one two
  rw [keptSpecifiers_eq]
  cases children : clause.children with
  | nil =>
    rw [children] at first
    cases first
  | cons part rest =>
    rw [children] at first last apart
    obtain rfl : part = opening := Option.some.inj first
    have filled : rest ≠ [] := by
      rintro rfl
      obtain rfl : part = closing := Option.some.inj last
      rw [one.2] at two
      exact absurd two.2 (by decide)
    rw [List.getLast?_cons, List.getLast?_eq_some_getLast filled, Option.getD_some] at last
    obtain rfl : rest.getLast filled = closing := Option.some.inj last
    have parts := List.dropLast_append_getLast filled
    generalize rest.dropLast = middle at parts
    generalize rest.getLast filled = closing at parts two
    rw [separated, one.1, if_neg Bool.false_ne_true, ← parts] at apart
    refine ⟨middle, ?_, separated_of_append apart, ?_⟩
    · have brace : shown "\x7b" = ['\x7b'] := by decide
      have brace' : shown "\x7d" = ['\x7d'] := by decide
      rw [← parts, List.flatMap_cons, List.flatMap_append, List.flatMap_singleton, one.2, two.2, brace,
        brace']
      rfl
    · rw [← parts, List.filter_cons_of_neg (by simp [one.1]), List.filter_append,
        List.filter_cons_of_neg (by simp [two.1]), List.filter_nil, List.append_nil]

/-- What is written for a clause shows nothing that the clause does not show. -/
theorem shown_clause_sublist (clausal : isClausal document clause = true) {first : Tree}
    {rest : List Tree} (kept : keptSpecifiers clause = first :: rest) :
    (shown ("\x7b " ++ ", ".intercalate ((first :: rest).map document.text) ++ " \x7d")).Sublist
      (clause.children.flatMap fun part => shown (document.text part)) := by
  obtain ⟨middle, whole, apart, same⟩ := exists_braced clausal
  have joined := @joined_sublist document (fun part => isSpecifier part && !isTypeOnly part)
    (fun part chosen => (Bool.and_eq_true_iff.1 chosen).1) true middle apart
  rw [← same, kept, if_pos rfl, List.flatMap_cons, List.cons_append, List.singleton_append,
    List.cons_sublist_cons] at joined
  have comma : shown ", " = [','] := by decide
  have brace : shown "\x7b " = ['\x7b'] := by decide
  have brace' : shown " \x7d" = ['\x7d'] := by decide
  rw [whole, shown_append, shown_append, List.map_cons, shown_intercalate_cons, comma, brace, brace',
    List.flatMap_map]
  simp only [List.singleton_append]
  exact (joined.cons_cons _).append (List.Sublist.refl _)

theorem shown_braces_sublist (clausal : isClausal document clause = true) :
    (shown "\x7b\x7d").Sublist (clause.children.flatMap fun part => shown (document.text part)) := by
  obtain ⟨middle, whole, -, -⟩ := exists_braced clausal
  have braces : shown "\x7b\x7d" = ['\x7b', '\x7d'] := by decide
  rw [whole, braces]
  exact ((List.nil_sublist _).append (List.Sublist.refl ['\x7d'])).cons_cons _

end Clauses

/-- What makes an edit at a place. -/
inductive Cause (document : Document) (place : Place) : Edit → Prop where
  | construct : Cause document place (.remove place.tree)
  | modifier : place.tree.isOneOf modifierKinds = true → Cause document place (removeWithGap place)
  | statement : Cause document place (document.removeStatement place.tree)
  | exported {parent : Tree} : place.parent? = some parent → parent.isKind .exportStatement = true →
      Cause document place (document.removeStatement parent)
  | cast {value : Tree} : place.tree.namedChildren.head? = some value →
      Cause document place (.delete value.stop place.tree.stop)
  | mark {child : Place} : child ∈ place.children → Cause document place (.remove child.tree)
  | word {child : Place} : child ∈ place.children → Cause document place (removeWithGap child)
  | clause {written : String} : place.tree.isOneOf [.namedImports, .exportClause] = true →
      (isClausal document place.tree = true →
        (shown written).Sublist (place.tree.children.flatMap fun part => shown (document.text part))) →
      Cause document place (.replace place.tree written)
  | imported {parent statement : Tree} {rest : List Tree} : place.tree.isKind .namedImports = true →
      place.ancestors = parent :: statement :: rest →
      Cause document place (document.removeStatement statement)
  | reexported {parent : Tree} {rest : List Tree} :
      place.tree.isOneOf [.namedImports, .exportClause] = true → place.ancestors = parent :: rest →
      Cause document place (document.removeStatement parent)

section Causes

variable {document : Document} {place : Place} {edit : Edit}

theorem specifierEdits_eq (document : Document) (place : Place) :
    specifierEdits document place =
      if (keptSpecifiers place.tree).length = (place.tree.namedChildren.filter isSpecifier).length then []
      else if !(keptSpecifiers place.tree).isEmpty then
        [.replace place.tree ("\x7b " ++ ", ".intercalate ((keptSpecifiers place.tree).map document.text) ++
          " \x7d")]
      else
        match place.tree.isKind .namedImports, place.ancestors with
        | true, parent :: rest =>
          if 1 < parent.namedChildren.length then [.replace place.tree "\x7b\x7d"]
          else (rest.head?.map document.removeStatement).toList
        | false, parent :: _ => [document.removeStatement parent]
        | _, [] => [] :=
  rfl

theorem cause_of_mem_specifierEdits
    (clause : place.tree.isOneOf [.namedImports, .exportClause] = true)
    (member : edit ∈ specifierEdits document place) : Cause document place edit := by
  rw [specifierEdits_eq] at member
  split at member
  · cases member
  split at member
  · rename_i some
    cases kept : keptSpecifiers place.tree with
    | nil =>
      rw [kept] at some
      cases some
    | cons first rest =>
      rw [kept] at member
      obtain rfl := List.mem_singleton.1 member
      exact .clause clause fun clausal => shown_clause_sublist clausal kept
  split at member
  · rename_i parent rest imports around
    split at member
    · obtain rfl := List.mem_singleton.1 member
      exact .clause clause fun clausal => shown_braces_sublist clausal
    · cases rest with
      | nil => cases member
      | cons statement rest =>
        obtain rfl := List.mem_singleton.1 member
        exact .imported imports around
  · rename_i parent rest _ around
    obtain rfl := List.mem_singleton.1 member
    exact .reexported clause around
  · cases member

theorem cause_of_mem_markEdits {marks : List String} (member : edit ∈ markEdits place marks) :
    Cause document place edit := by
  obtain ⟨child, listed, rfl⟩ := List.mem_map.1 member
  split
  · exact .word (List.mem_filter.1 listed).1
  · exact .mark (List.mem_filter.1 listed).1

theorem cause_of_mem_action (member : edit ∈ (action document place).edits) :
    Cause document place edit := by
  rw [action] at member
  dsimp only at member
  cases kind : place.tree.kind? with
  | none =>
    rw [kind] at member
    cases member
  | some kind' =>
    rw [kind] at member
    dsimp only at member
    split at member
    · obtain rfl := List.mem_singleton.1 member
      exact .construct
    split at member
    · rename_i modifier
      obtain rfl := List.mem_singleton.1 member
      exact .modifier (by simpa only [Tree.isOneOf, kind] using modifier)
    split at member
    · obtain rfl := List.mem_singleton.1 member
      cases exported : place.parent?.filter (·.isKind .exportStatement) with
      | none => exact .statement
      | some parent =>
        obtain ⟨around, exports⟩ := Option.filter_eq_some_iff.1 exported
        exact .exported around exports
    split at member
    · rw [castAction] at member
      split at member
      · rename_i value first
        obtain rfl := List.mem_singleton.1 member
        exact .cast first
      · cases member
    split at member
    · obtain rfl := List.mem_singleton.1 member
      exact .statement
    split at member
    · rename_i clause
      exact cause_of_mem_specifierEdits (by simpa [Tree.isOneOf, kind] using clause) member
    · exact cause_of_mem_markEdits member

end Causes

/-- Whether what a place says is true of a tree: its node and those around it are nodes of the tree, and so
is the one after it, which stands behind it. -/
structure Seated (root : Tree) (place : Place) : Prop where
  here : place.tree ∈ root.preorder
  around : ∀ ancestor ∈ place.ancestors, ancestor ∈ root.preorder ∧ place.tree ∈ ancestor.preorder
  next : ∀ following ∈ place.following,
    following ∈ root.preorder ∧ place.tree.stop ≤ following.start

section Places

variable {text : String} {document : Document} {place : Place} (ranged : Ranged text document)
include ranged

theorem Seated.of_mem_children (seated : Seated document.root place) {child : Place}
    (member : child ∈ place.children) : Seated document.root child := by
  have here := Place.tree_mem_children member
  have next := Place.following_of_mem_siblings (ranged.apart place.tree seated.here) member
  have inside (ancestor : Tree) (outer : place.tree ∈ ancestor.preorder) :
      child.tree ∈ ancestor.preorder :=
    Tree.mem_preorder_of_mem_children outer here
  refine ⟨inside _ seated.here, ?_, fun following found => ?_⟩
  · rw [Place.ancestors_of_mem_siblings member]
    refine List.forall_mem_cons.2 ⟨⟨seated.here, inside _ place.tree.mem_preorder_self⟩, ?_⟩
    exact fun ancestor member => (seated.around ancestor member).imp_right (inside ancestor)
  · obtain ⟨there, behind⟩ := next following found
    exact ⟨Tree.mem_preorder_of_mem_children seated.here there, behind⟩

theorem seated_of_mem_walkWhere {descends : Place → Place → Bool} {visited : Place}
    (member : visited ∈ (Place.ofRoot document.root).walkWhere descends) :
    Seated document.root visited :=
  Place.forall_mem_walkWhere (fun _ seated _ below => seated.of_mem_children ranged below)
    ⟨document.root.mem_preorder_self, by simp [Place.ofRoot], by simp [Place.ofRoot]⟩ visited member

theorem removes_delete {start stop : Nat} (one : Cuttable text start) (two : Cuttable text stop)
    (forward : start ≤ stop) : Removes text document (.delete start stop) where
  fits := ⟨Int.natCast_nonneg _, Int.ofNat_le.2 forward, Int.ofNat_le.2 (ranged.read ▸ two.le_size)⟩
  cuts := ⟨one, two⟩
  less := List.nil_sublist _

theorem removes_remove {tree : Tree} (visited : tree ∈ document.root.preorder) :
    Removes text document (.remove tree) :=
  removes_delete ranged (ranged.cuts tree visited).1 (ranged.cuts tree visited).2
    (ranged.forward tree visited)

theorem removes_removeStatement {tree : Tree} (visited : tree ∈ document.root.preorder) :
    Removes text document (document.removeStatement tree) := by
  obtain ⟨fits, cuts⟩ := ranged.fits_removeStatement visited
  refine ⟨fits, cuts, ?_⟩
  rw [removeStatement_eq]
  exact List.nil_sublist _

theorem removes_removeWithGap (seated : Seated document.root place) :
    Removes text document (removeWithGap place) := by
  have own := ranged.cuts place.tree seated.here
  have forward := ranged.forward place.tree seated.here
  rw [removeWithGap]
  cases next : place.following with
  | none => exact removes_delete ranged own.1 own.2 forward
  | some following =>
    obtain ⟨there, behind⟩ := seated.next following next
    exact removes_delete ranged own.1 (ranged.cuts following there).1 (forward.trans behind)

/-- A node that is replaced by a part of what its children show. -/
theorem removes_replace {tree : Tree} (visited : tree ∈ document.root.preorder) {written : String}
    (less : (shown written).Sublist (tree.children.flatMap fun part => shown (document.text part))) :
    Removes text document (.replace tree written) := by
  have own := ranged.cuts tree visited
  have forward := ranged.forward tree visited
  have ⟨nonneg, order, inside⟩ := (removes_remove ranged visited).fits
  refine ⟨⟨nonneg, order, inside⟩, own, less.trans ?_⟩
  have below {part : Tree} (member : part ∈ tree.children) :=
    Tree.mem_preorder_of_mem_children visited member
  exact shown_parts_sublist ranged.read own.1 own.2 forward
    (fun part member => ranged.cuts part (below member))
    (fun part member => ranged.forward part (below member))
    (ranged.nested tree visited) (ranged.apart tree visited)

/-- Whatever is done at a place removes. -/
theorem removes_of_cause (clausal : ∀ clause ∈ document.root.preorder,
      clause.isOneOf [.namedImports, .exportClause] = true → isClausal document clause = true)
    (seated : Seated document.root place) {edit : Edit} (cause : Cause document place edit) :
    Removes text document edit := by
  cases cause with
  | construct => exact removes_remove ranged seated.here
  | modifier _ => exact removes_removeWithGap ranged seated
  | statement => exact removes_removeStatement ranged seated.here
  | exported around _ =>
    exact removes_removeStatement ranged (seated.around _ (List.mem_of_head? around)).1
  | cast first =>
    have part := (List.mem_filter.1 (List.mem_of_head? first)).1
    have below := Tree.mem_preorder_of_mem_children seated.here part
    exact removes_delete ranged (ranged.cuts _ below).2 (ranged.cuts _ seated.here).2
      (ranged.nested _ seated.here _ part).2
  | mark listed => exact removes_remove ranged (seated.of_mem_children ranged listed).here
  | word listed => exact removes_removeWithGap ranged (seated.of_mem_children ranged listed)
  | clause kind less => exact removes_replace ranged seated.here (less (clausal _ seated.here kind))
  | imported _ around =>
    refine removes_removeStatement ranged (seated.around _ ?_).1
    rw [around]
    exact List.mem_cons_of_mem _ List.mem_cons_self
  | reexported _ around =>
    refine removes_removeStatement ranged (seated.around _ ?_).1
    rw [around]
    exact List.mem_cons_self

theorem removes_edits (clausal : ∀ clause ∈ document.root.preorder,
      clause.isOneOf [.namedImports, .exportClause] = true → isClausal document clause = true) :
    ∀ edit ∈ edits document, Removes text document edit := by
  intro edit member
  obtain ⟨place, visited, made⟩ := List.mem_flatMap.1 member
  exact removes_of_cause ranged clausal (seated_of_mem_walkWhere ranged visited) (cause_of_mem_action made)

/-- A specifier stands behind the brace that its clause begins with. -/
theorem lt_start_of_isClausal {clause : Tree} (visited : clause ∈ document.root.preorder)
    (clausal : isClausal document clause = true) :
    clause.start < clause.stop ∧
      ∀ part ∈ clause.children, isSpecifier part = true → clause.start < part.start := by
  rw [isClausal, Bool.and_eq_true, Bool.and_eq_true, Option.any_eq_true] at clausal
  obtain ⟨⟨⟨opening, first, both⟩, -⟩, -⟩ := clausal
  rw [Bool.and_eq_true, Bool.not_eq_true', beq_iff_eq] at both
  have member := List.mem_of_head? first
  have inside := ranged.nested clause visited opening member
  have below := Tree.mem_preorder_of_mem_children visited member
  have bytes := bytesOf_text ranged.read (ranged.cuts opening below).1 (ranged.cuts opening below).2
    (ranged.forward opening below)
  have length := congrArg List.length bytes
  have single : (bytesOf "\x7b").length = 1 := by decide +kernel
  rw [both.2, single, List.length_drop, List.length_take] at length
  refine ⟨by omega, fun part listed specifier => ?_⟩
  have apart := ranged.apart clause visited
  cases children : clause.children with
  | nil => simp [children] at listed
  | cons front rest =>
    rw [children] at first listed apart
    obtain rfl : front = opening := Option.some.inj first
    rcases List.mem_cons.1 listed with rfl | later
    · rw [both.1] at specifier
      cases specifier
    · have := List.rel_of_pairwise_cons apart later
      omega

/-- What writes something takes something away. -/
theorem filled_edits (clausal : ∀ clause ∈ document.root.preorder,
      clause.isOneOf [.namedImports, .exportClause] = true → isClausal document clause = true) :
    ∀ edit ∈ edits document, edit.written ≠ [] → edit.start < edit.stop := by
  intro edit member writes
  obtain ⟨place, visited, made⟩ := List.mem_flatMap.1 member
  cases cause_of_mem_action made with
  | clause kind _ =>
    have here := Place.mem_preorder_of_mem_walkWhere visited
    exact Int.ofNat_lt.2 (lt_start_of_isClausal ranged here (clausal _ here kind)).1
  | _ => exact absurd rfl writes

end Places

/-- Whether a node is nothing of types itself, and has no token that only a typed program has. -/
def isUntyped (tree : Tree) : Bool :=
  !tree.isOneOf (erasedKinds ++ modifierKinds ++ typeStatementKinds ++ castKinds) &&
    !(tree.children.any fun child => tree.kind?.any fun kind => (typedMarks kind).any child.isToken) &&
    !(tree.isOneOf [.importStatement, .exportStatement, .importSpecifier, .exportSpecifier] &&
      isTypeOnly tree)

section Untyped

variable {document : Document} {root : Tree} {place : Place}
  (untyped : ∀ node ∈ root.preorder, isUntyped node = true)
include untyped

theorem specifierEdits_of_untyped (visited : place.tree ∈ root.preorder) :
    specifierEdits document place = [] := by
  have all : keptSpecifiers place.tree = place.tree.namedChildren.filter isSpecifier := by
    apply List.filter_eq_self.2
    intro part member
    obtain ⟨named, specifier⟩ := List.mem_filter.1 member
    have plain := untyped part (Tree.mem_preorder_of_mem_children visited (List.mem_filter.1 named).1)
    simp only [isUntyped, Bool.and_eq_true, Bool.not_eq_true', Bool.and_eq_false_iff] at plain
    rcases plain.2 with other | free
    · have among : [Kind.importSpecifier, .exportSpecifier] ⊆
          [.importStatement, .exportStatement, .importSpecifier, .exportSpecifier] := by
        decide
      rw [Tree.isOneOf_mono among specifier] at other
      cases other
    · rw [free]
      rfl
  rw [specifierEdits]
  exact if_pos (congrArg List.length all)

theorem edits_action_of_untyped (visited : place.tree ∈ root.preorder) :
    (action document place).edits = [] := by
  have plain := untyped place.tree visited
  simp only [isUntyped, Bool.and_eq_true, Bool.not_eq_true'] at plain
  obtain ⟨⟨other, unmarked⟩, free⟩ := plain
  rw [action]
  dsimp only
  cases kind : place.tree.kind? with
  | none => rfl
  | some kind' =>
    have apart : kind' ∉ erasedKinds ++ modifierKinds ++ typeStatementKinds ++ castKinds := by
      simpa [Tree.isOneOf, kind] using other
    simp only [List.mem_append, not_or] at apart
    obtain ⟨⟨⟨erased, modifier⟩, statement⟩, cast⟩ := apart
    have marks : markEdits place (typedMarks kind') = [] := by
      rw [markEdits, List.map_eq_nil_iff, List.filter_eq_nil_iff]
      intro child member
      have none := List.any_eq_false.1 unmarked child.tree (Place.tree_mem_children member)
      simpa [kind] using none
    simp only [List.contains_iff_mem, erased, modifier, statement, cast, ↓reduceIte]
    split
    · rename_i typed
      have module : place.tree.isOneOf
          [.importStatement, .exportStatement, .importSpecifier, .exportSpecifier] = true := by
        rcases typed.1 with rfl | rfl <;> simp [Tree.isOneOf, kind]
      rw [module, typed.2] at free
      cases free
    split
    · exact specifierEdits_of_untyped untyped visited
    · exact marks

end Untyped

/-- Whether erasing the types of a source comes to something: its body becomes `erased`. -/
structure Commits (parse : Parse) (source erased : String) : Prop where
  readable : (reviewed parse source).hasErrors = false
  rendered : (reviewed parse source).render (edits (reviewed parse source)) = .ok erased
  readable' : (Document.read parse erased).hasErrors = false

section Commits

variable {parse : Parse} {source erased : String}

theorem commits_of_mem_toOption (readable : (reviewed parse source).hasErrors = false)
    (rendered : erased ∈ ((reviewed parse source).render (edits (reviewed parse source))).toOption)
    (readable' : (Document.read parse erased).hasErrors = false) : Commits parse source erased := by
  refine ⟨readable, ?_, readable'⟩
  cases made : (reviewed parse source).render (edits (reviewed parse source)) with
  | error failure =>
    rw [made] at rendered
    cases rendered
  | ok text =>
    rw [made] at rendered
    rw [Option.some.inj rendered]

/-- A source stays as it is, or erasing its types comes to something. -/
theorem eq_or_commits (parse : Parse) (source : String) :
    eraseTypes parse source = source ∨
      ∃ erased, Commits parse source erased ∧
        eraseTypes parse source = (split source).preamble ++ erased := by
  rw [eraseTypes]
  dsimp only
  split
  · exact .inl rfl
  rename_i sound
  split
  · exact .inl rfl
  split
  · exact .inl rfl
  rename_i erased rendered
  split
  · exact .inl rfl
  · rename_i sound'
    exact .inr ⟨erased, ⟨Bool.eq_false_iff.2 sound, rendered, Bool.eq_false_iff.2 sound'⟩, rfl⟩

theorem eraseTypes_of_edits (none : edits (reviewed parse source) = []) :
    eraseTypes parse source = source := by
  rw [eraseTypes]
  dsimp only
  split
  · rfl
  · rw [if_pos]
    exact List.isEmpty_iff.2 none

end Commits

/-- Erasing the types of a source leaves it as it is, or leaves behind its preamble a body that can be parsed
and shows a part of what the body showed, in the same order. Where there is nothing of types in the tree the
source stays as it is. -/
theorem eraseTypes_removes (parse : Parse) (source : String)
    (ranged : (reviewed parse source).hasErrors = false →
      Ranged (split source).body (reviewed parse source))
    (clausal : (reviewed parse source).hasErrors = false →
      ∀ clause ∈ (reviewed parse source).root.preorder,
        clause.isOneOf [.namedImports, .exportClause] = true →
          isClausal (reviewed parse source) clause = true) :
    (eraseTypes parse source = source ∨
      ∃ erased, eraseTypes parse source = (split source).preamble ++ erased ∧
        (Document.read parse erased).hasErrors = false ∧
        (shown erased).Sublist (shown (split source).body)) ∧
    ((∀ node ∈ (reviewed parse source).root.preorder, isUntyped node = true) →
      eraseTypes parse source = source) := by
  constructor
  · refine (eq_or_commits parse source).imp_right fun ⟨erased, commits, eq⟩ => ?_
    have sound := commits.readable
    exact ⟨erased, eq, commits.readable', shown_of_render (ranged sound).read
      (removes_edits (ranged sound) (clausal sound)) commits.rendered⟩
  · intro untyped
    apply eraseTypes_of_edits
    apply List.flatMap_eq_nil_iff.2
    intro place visited
    exact edits_action_of_untyped untyped (Place.mem_preorder_of_mem_walkWhere visited)

/-- A clause with a specifier of a type in front of another one, behind a preamble. -/
def typedModule : String := "---\né\n---\nimport \x7b type A, b \x7d from 'é';\n"

theorem typedModule_removes :
    eraseTypes Syntax.parse typedModule = "---\né\n---\nimport \x7b b \x7d from 'é';\n" ∧
      ∃ erased, eraseTypes Syntax.parse typedModule = (split typedModule).preamble ++ erased ∧
        (Document.read Syntax.parse erased).hasErrors = false ∧
        (shown erased).Sublist (shown (split typedModule).body) := by
  -- evaluated together, so that each text is parsed once
  obtain ⟨ranged, clausal, erased⟩ :
      Ranged (split typedModule).body (reviewed Syntax.parse typedModule) ∧
      (∀ clause ∈ (reviewed Syntax.parse typedModule).root.preorder,
        clause.isOneOf [.namedImports, .exportClause] = true →
          isClausal (reviewed Syntax.parse typedModule) clause = true) ∧
      eraseTypes Syntax.parse typedModule = "---\né\n---\nimport \x7b b \x7d from 'é';\n" := by
    decide +kernel
  refine ⟨erased, ?_⟩
  rcases (eraseTypes_removes Syntax.parse typedModule (fun _ => ranged) fun _ => clausal).1 with same | less
  · rw [erased] at same
    exact absurd same (by decide +kernel)
  · exact less

end Erasure

end ComponentGate
