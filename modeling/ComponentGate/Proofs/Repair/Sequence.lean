import ComponentGate.Proofs.Repair.Moving

/-! Statements one behind the other. A parser takes a statement from the front of a text, and the next one
from what is left. Texts that stand one behind the other are its statements exactly if each of them, with all
that follows it, is taken whole. -/

namespace ComponentGate

open Syntax

namespace Document

/-- Whether a statement can begin here: what comes first shows and closes no block. -/
def opens (bytes : List UInt8) : Bool := bytes.head?.any fun byte => !isBlankByte byte && byte != 0x7D

/-- Whether statements are over here: the text ends, or a block does. -/
def closes (bytes : List UInt8) : Bool := bytes.head?.all (· == 0x7D)

/-- Whether trees are read from a text one behind the other, from `offset` until statements are over at
`stop`; `takes` says how much of a text belongs to the statement or the comment at its front. -/
def Reads (takes : List UInt8 → Nat) (content : List UInt8) : Nat → List Tree → Nat → Prop
  | offset, [], stop =>
    offset ≤ stop ∧ stop ≤ content.length ∧ dense ((content.take stop).drop offset) = [] ∧
      closes (content.drop stop) = true
  | offset, tree :: rest, stop =>
    (offset ≤ tree.start ∧ dense ((content.take tree.start).drop offset) = []) ∧
      opens (content.drop tree.start) = true ∧ tree.start < tree.stop ∧
      takes (content.drop tree.start) = tree.stop - tree.start ∧ Reads takes content tree.stop rest stop

instance decidableReads (takes : List UInt8 → Nat) (content : List UInt8) :
    (offset : Nat) → (trees : List Tree) → (stop : Nat) →
      Decidable (Reads takes content offset trees stop)
  | _, [], _ => inferInstanceAs (Decidable (_ ∧ _))
  | _, tree :: rest, stop =>
    have := decidableReads takes content tree.stop rest stop
    inferInstanceAs (Decidable (_ ∧ _))

/-- Texts one behind the other, each where a statement can begin, with nothing but blanks in between. -/
inductive Standing : List (List UInt8) → List UInt8 → Prop
  | done {gap behind : List UInt8} : dense gap = [] → closes behind = true → Standing [] (gap ++ behind)
  | next {gap piece behind : List UInt8} {rest : List (List UInt8)} : dense gap = [] →
      opens piece = true → Standing rest behind → Standing (piece :: rest) (gap ++ (piece ++ behind))

/-- Whether each of the texts that stand one behind the other is taken whole. -/
def TakenWhole (takes : List UInt8 → Nat) : List (List UInt8) → List UInt8 → Prop
  | [], _ => True
  | piece :: rest, bytes =>
    let front := bytes.dropWhile isBlankByte
    takes front = piece.length ∧ TakenWhole takes rest (front.drop piece.length)

instance decidableTakenWhole (takes : List UInt8 → Nat) :
    (pieces : List (List UInt8)) → (bytes : List UInt8) → Decidable (TakenWhole takes pieces bytes)
  | [], _ => inferInstanceAs (Decidable True)
  | piece :: rest, bytes =>
    have := decidableTakenWhole takes rest ((bytes.dropWhile isBlankByte).drop piece.length)
    inferInstanceAs (Decidable (_ ∧ _))

section Fronts

variable {gap piece behind bytes : List UInt8}

theorem isBlank_of_dense_eq_nil (blank : dense gap = []) {byte : UInt8} (member : byte ∈ gap) :
    isBlankByte byte = true := by
  simpa using List.filter_eq_nil_iff.1 blank byte member

theorem dropWhile_blanks (blank : dense gap = [])
    (shown : (bytes.head?.all fun byte => !isBlankByte byte) = true) :
    (gap ++ bytes).dropWhile isBlankByte = bytes := by
  rw [List.dropWhile_append_of_pos fun byte member => isBlank_of_dense_eq_nil blank member]
  cases bytes with
  | nil => rfl
  | cons first rest => rw [List.dropWhile_cons_of_neg (by simpa using shown)]

theorem opens_append (begins : opens piece = true) : opens (piece ++ behind) = true := by
  cases piece with
  | nil => cases begins
  | cons first rest => exact begins

theorem shown_of_opens (begins : opens bytes = true) :
    (bytes.head?.all fun byte => !isBlankByte byte) = true := by
  cases bytes with
  | nil => rfl
  | cons first rest =>
    have both : (!isBlankByte first && first != 0x7D) = true := begins
    rw [Bool.and_eq_true] at both
    exact both.1

theorem dropWhile_of_opens (begins : opens bytes = true) : bytes.dropWhile isBlankByte = bytes :=
  @dropWhile_blanks [] bytes rfl (shown_of_opens begins)

theorem shown_of_closes (ends : closes bytes = true) :
    (bytes.head?.all fun byte => !isBlankByte byte) = true := by
  cases bytes with
  | nil => rfl
  | cons first rest =>
    obtain rfl : first = 0x7D := eq_of_beq ends
    rfl

theorem not_closes_of_opens (begins : opens bytes = true) : ¬closes bytes = true := by
  intro ends
  cases bytes with
  | nil => cases begins
  | cons first rest =>
    obtain rfl : first = 0x7D := eq_of_beq ends
    cases begins

theorem shown_at {place : Nat} (begins : opens (bytes.drop place) = true) :
    (bytes[place]?.any fun byte => !isBlankByte byte) = true := by
  rw [opens, List.head?_drop] at begins
  obtain ⟨byte, here, both⟩ := (Option.any_eq_true _ _).1 begins
  rw [Bool.and_eq_true] at both
  rw [here]
  exact both.1

theorem drop_eq_append (bytes : List UInt8) {first second : Nat} (order : first ≤ second) :
    bytes.drop first = (bytes.take second).drop first ++ bytes.drop second := by
  rw [List.drop_take]
  conv_lhs => rw [← List.take_append_drop (second - first) (bytes.drop first), List.drop_drop,
    Nat.add_sub_cancel' order]

end Fronts

section Reads

variable {takes : List UInt8 → Nat} {content : List UInt8} {offset stop : Nat} {tree : Tree}
  {trees : List Tree} {pieces : List (List UInt8)}

theorem Reads.bounds (reads : Reads takes content offset trees stop) :
    offset ≤ stop ∧ stop ≤ content.length ∧
      ∀ tree ∈ trees, offset ≤ tree.start ∧ tree.start < tree.stop ∧ tree.stop ≤ stop := by
  induction trees generalizing offset with
  | nil => exact ⟨reads.1, reads.2.1, by simp⟩
  | cons first rest ih =>
    obtain ⟨⟨behind, -⟩, -, filled, -, later⟩ := reads
    obtain ⟨order, within, inside⟩ := ih later
    refine ⟨by omega, within, fun tree member => ?_⟩
    rcases List.mem_cons.1 member with rfl | member
    · exact ⟨behind, filled, order⟩
    · have := inside tree member
      omega

theorem Reads.closes_behind (reads : Reads takes content offset trees stop) :
    closes (content.drop stop) = true := by
  induction trees generalizing offset with
  | nil => exact reads.2.2.2
  | cons first rest ih => exact ih reads.2.2.2.2

theorem Reads.opens_of_mem (reads : Reads takes content offset trees stop) (member : tree ∈ trees) :
    opens (content.drop tree.start) = true := by
  induction trees generalizing offset with
  | nil => cases member
  | cons first rest ih =>
    obtain ⟨-, begins, -, -, later⟩ := reads
    rcases List.mem_cons.1 member with rfl | member
    · exact begins
    · exact ih later member

theorem isBlank_of_gap {place : Nat} (blank : dense ((content.take stop).drop offset) = [])
    (behind : offset ≤ place) (before : place < stop) {byte : UInt8}
    (here : content[place]? = some byte) : isBlankByte byte = true := by
  apply isBlank_of_dense_eq_nil blank
  apply List.mem_of_getElem? (i := place - offset)
  rw [List.getElem?_drop, Nat.add_sub_cancel' behind, List.getElem?_take_of_lt before, here]

/-- What is taken from the front of a longer text is its first part exactly if it is as long. -/
theorem take_append_eq_left_iff {piece behind : List UInt8} {count : Nat}
    (enough : count ≤ (piece ++ behind).length) :
    (piece ++ behind).take count = piece ↔ count = piece.length := by
  constructor
  · intro equal
    have taken := congrArg List.length equal
    rwa [List.length_take, Nat.min_eq_left enough] at taken
  · rintro rfl
    exact List.take_left

/-- Between the trees that are read only blanks stand. -/
theorem Reads.blank_outside (reads : Reads takes content offset trees stop) {place : Nat}
    (behind : offset ≤ place) (before : place < stop)
    (outside : ∀ tree ∈ trees, place < tree.start ∨ tree.stop ≤ place) {byte : UInt8}
    (here : content[place]? = some byte) : isBlankByte byte = true := by
  induction trees generalizing offset with
  | nil => exact isBlank_of_gap reads.2.2.1 behind before here
  | cons first rest ih =>
    obtain ⟨⟨-, blank⟩, -, -, -, later⟩ := reads
    rcases outside first List.mem_cons_self with front | back
    · exact isBlank_of_gap blank behind front here
    · exact ih later back fun tree member => outside tree (List.mem_cons_of_mem _ member)

/-- What is read is what stands there exactly if each text that stands there is taken whole. -/
theorem Reads.map_span_eq_iff (reads : Reads takes content offset trees stop)
    (standing : Standing pieces (content.drop offset)) :
    (trees.map fun tree => (content.take tree.stop).drop tree.start) = pieces ↔
      TakenWhole takes pieces (content.drop offset) := by
  induction trees generalizing offset pieces with
  | nil =>
    obtain ⟨order, -, blank, ends⟩ := reads
    have front := dropWhile_blanks blank (shown_of_closes ends)
    rw [← drop_eq_append content order] at front
    generalize content.drop offset = bytes at standing front ⊢
    cases standing with
    | done => simp [TakenWhole]
    | next blank' begins _ =>
      rw [dropWhile_blanks blank' (shown_of_opens (opens_append begins))] at front
      rw [← front] at ends
      exact absurd ends (not_closes_of_opens (opens_append begins))
  | cons tree rest ih =>
    have bounds := Reads.bounds reads
    obtain ⟨⟨order, blank⟩, begins, filled, taken, later⟩ := reads
    have front := dropWhile_blanks blank (shown_of_opens begins)
    rw [← drop_eq_append content order] at front
    generalize content.drop offset = bytes at standing front ⊢
    cases standing with
    | done blank' ends =>
      rw [dropWhile_blanks blank' (shown_of_closes ends)] at front
      rw [front] at ends
      exact absurd ends (not_closes_of_opens begins)
    | @next gap piece behind others blank' begins' standing =>
      rw [dropWhile_blanks blank' (shown_of_opens (opens_append begins'))] at front
      have whole : TakenWhole takes (piece :: others) (gap ++ (piece ++ behind)) ↔
          takes (piece ++ behind) = piece.length ∧ TakenWhole takes others behind := by
        rw [TakenWhole, dropWhile_blanks blank' (shown_of_opens (opens_append begins')), List.drop_left]
      have last := bounds.2.2 tree List.mem_cons_self
      have enough : takes (piece ++ behind) ≤ (piece ++ behind).length := by
        rw [front, taken, List.length_drop]
        omega
      have same : (content.take tree.stop).drop tree.start = piece ↔
          takes (piece ++ behind) = piece.length := by
        rw [List.drop_take, ← taken, ← front]
        exact take_append_eq_left_iff enough
      rw [whole, List.map_cons, List.cons.injEq, same]
      refine and_congr_right fun count => ?_
      have rest' : content.drop tree.stop = behind := by
        rw [← Nat.add_sub_cancel' filled.le, ← List.drop_drop, ← taken, ← front, count, List.drop_left]
      rw [← rest']
      exact ih later (rest'.symm ▸ standing)

end Reads

section Cells

variable {takes : List UInt8 → Nat} {content gap bytes : List UInt8} {offset stop : Nat} {trees : List Tree}
  {pieces : List (List UInt8)} {edits : List Edit} {kept : Tree → Bool}

theorem Standing.behind_blanks (blank : dense gap = []) (standing : Standing pieces bytes) :
    Standing pieces (gap ++ bytes) := by
  have more {other : List UInt8} (blank' : dense other = []) : dense (gap ++ other) = [] := by
    rw [dense_append, blank, blank', List.append_nil]
  cases standing with
  | done blank' ends =>
    rw [← List.append_assoc]
    exact .done (more blank') ends
  | next blank' begins later =>
    rw [← List.append_assoc]
    exact .next (more blank') begins later

/-- What is in front of a statement does not count if it is blank. -/
theorem Standing.next_trimmed (begins : opens (bytes.dropWhile isBlankByte) = true)
    {behind : List UInt8} (standing : Standing pieces behind) :
    Standing (bytes.dropWhile isBlankByte :: pieces) (bytes ++ behind) := by
  have front : dense (bytes.takeWhile isBlankByte) = [] :=
    dense_eq_nil fun byte member => List.all_eq_true.1 List.all_takeWhile byte member
  have next := Standing.next front begins standing
  rwa [← List.append_assoc, List.takeWhile_append_dropWhile] at next

theorem dense_cells_eq_nil {first second : Nat}
    (silent : ∀ place, first ≤ place → place < second → dense (Edit.cell content edits place) = []) :
    dense (Edit.cells content edits first second) = [] := by
  rw [Edit.cells, dense_flatMap, List.flatMap_eq_nil_iff]
  intro place member
  rw [List.mem_range'_1] at member
  exact silent place member.1 (by omega)

/-- What edits make of statements stands one behind the other where they leave nothing but blanks in
between; blanks in front of what they leave of a statement do not count. -/
theorem standing_trimmed (reads : Reads takes content offset trees stop)
    (blank : ∀ place, offset ≤ place → place < stop →
      (∀ tree ∈ trees, kept tree = true → place < tree.start ∨ tree.stop ≤ place) →
        dense (Edit.cell content edits place) = [])
    (begins : ∀ tree ∈ trees, kept tree = true →
      opens ((Edit.cells content edits tree.start tree.stop).dropWhile isBlankByte) = true)
    (ends : closes (Edit.cells content edits stop (content.length + 1)) = true) :
    Standing ((trees.filter kept).map fun tree =>
        (Edit.cells content edits tree.start tree.stop).dropWhile isBlankByte)
      (Edit.cells content edits offset (content.length + 1)) := by
  induction trees generalizing offset with
  | nil =>
    obtain ⟨order, within, -⟩ := reads
    rw [Edit.cells_append content edits stop order (by omega)]
    exact .done (dense_cells_eq_nil fun place behind before => blank place behind before (by simp)) ends
  | cons tree rest ih =>
    obtain ⟨-, within, inside⟩ := reads.bounds
    obtain ⟨behind, filled, last⟩ := inside tree List.mem_cons_self
    obtain ⟨-, -, -, -, later⟩ := reads
    have after := later.bounds.2.2
    have standing := ih later
      (fun place reached before outside => blank place (by omega) before
        (List.forall_mem_cons.2 ⟨fun _ => .inr reached, outside⟩))
      fun tree member => begins tree (List.mem_cons_of_mem _ member)
    rw [Edit.cells_append content edits tree.stop (by omega) (by omega)]
    cases chosen : kept tree with
    | true =>
      rw [List.filter_cons_of_pos chosen, List.map_cons,
        Edit.cells_append content edits tree.start behind filled.le, List.append_assoc]
      have next := standing.next_trimmed (begins tree List.mem_cons_self chosen)
      refine next.behind_blanks (dense_cells_eq_nil fun place reached before => ?_)
      refine blank place reached (by omega) (List.forall_mem_cons.2 ⟨fun _ => .inl before, ?_⟩)
      intro other member _
      have := after other member
      omega
    | false =>
      rw [List.filter_cons_of_neg (by simp [chosen])]
      refine standing.behind_blanks (dense_cells_eq_nil fun place reached before => ?_)
      refine blank place reached (by omega) (List.forall_mem_cons.2 ⟨fun taken => ?_, ?_⟩)
      · rw [chosen] at taken
        cases taken
      · intro other member _
        have := after other member
        omega

theorem standing_cells (reads : Reads takes content offset trees stop)
    (blank : ∀ place, offset ≤ place → place < stop →
      (∀ tree ∈ trees, kept tree = true → place < tree.start ∨ tree.stop ≤ place) →
        dense (Edit.cell content edits place) = [])
    (begins : ∀ tree ∈ trees, kept tree = true →
      opens (Edit.cells content edits tree.start tree.stop) = true)
    (ends : closes (Edit.cells content edits stop (content.length + 1)) = true) :
    Standing ((trees.filter kept).map fun tree => Edit.cells content edits tree.start tree.stop)
      (Edit.cells content edits offset (content.length + 1)) := by
  have whole : ∀ tree ∈ trees, kept tree = true →
      (Edit.cells content edits tree.start tree.stop).dropWhile isBlankByte =
        Edit.cells content edits tree.start tree.stop :=
    fun tree member chosen => dropWhile_of_opens (begins tree member chosen)
  have standing := standing_trimmed reads blank
    (fun tree member chosen => (whole tree member chosen).symm ▸ begins tree member chosen) ends
  rwa [List.map_congr_left fun tree member =>
    whole tree (List.mem_filter.1 member).1 (List.mem_filter.1 member).2] at standing

end Cells

section Removals

variable {document : Document} {child tree : Tree} {place : Nat}

/-- Removing a statement takes nothing from one that is apart from it, if that one begins with what shows,
and ends with what shows or is on one line. -/
theorem not_cleared_of_apart (begins : opens (document.content.drop child.start) = true)
    (ended : lineFeed ∉ document.span child ∨
      (document.content[child.stop - 1]?.any fun byte => !isBlankByte byte) = true)
    (forward : tree.start ≤ tree.stop) (within : tree.stop ≤ document.bytes.size)
    (order : tree.stop ≤ child.start ∨ child.stop ≤ tree.start) (behind : child.start ≤ place)
    (before : place < child.stop) :
    place < document.clearedFrom tree ∨ document.clearedTo tree ≤ place := by
  have front := clearedFrom_le document tree
  have back := le_clearedTo within
  have shown := shown_at begins
  rcases order with order | order
  · have apart := not_cleared tree shown (.inr order)
    omega
  · have apart := not_cleared tree shown (.inl (by omega))
    rcases ended with single | closes
    · rcases clearedFrom_opens document tree with same | zero | ⟨last, next, ends⟩
      · omega
      · omega
      · -- The line of what is removed begins behind the statement, which has no line feed.
        by_contra! inside
        apply single
        rw [span]
        apply List.mem_of_getElem? (i := last - child.start)
        rw [List.getElem?_drop, Nat.add_sub_cancel' (by omega), List.getElem?_take_of_lt (by omega), ends]
    · have apart' := not_cleared tree closes (.inl (by omega))
      omega

end Removals

end Document

end ComponentGate
