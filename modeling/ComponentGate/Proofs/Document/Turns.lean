import ComponentGate.Proofs.Document.Cells
import Mathlib.Data.List.Pairwise
import Mathlib.Data.List.Sort

/-! Edits in turns. Edits that do not clash are applied all at once as if one at a time from the highest
offset to the lowest, so that no turn shifts what is left to be done. They clash if two of them take away
the same byte or one inserts inside the range of another. -/

namespace ComponentGate

open Preamble

namespace Edit

section Clashes

/-- Whether two edits take away the same byte. -/
def Overlaps (first second : Edit) : Prop :=
  first.start < first.stop ∧ second.start < second.stop ∧
    first.start < second.stop ∧ second.start < first.stop

/-- Whether an edit inserts strictly inside the range of another. -/
def Splits (insertion range : Edit) : Prop :=
  insertion.start = insertion.stop ∧ range.start < insertion.start ∧ insertion.start < range.stop

/-- Whether two of the edits overlap, or one of them inserts inside the range of another. -/
def Clashing (edits : List Edit) : Prop :=
  (∃ first second, [first, second].Sublist edits ∧ first.Overlaps second) ∨
    ∃ insertion ∈ edits, ∃ range ∈ edits, insertion.Splits range

/-- Whether an edit is at home in front of another: it starts at a lower offset, or at the same one
and takes nothing away, or both take something away. -/
def Leads (first second : Edit) : Prop :=
  first.start < second.start ∨
    first.start = second.start ∧ (first.start = first.stop ∨ second.start < second.stop)

variable {edits others : List Edit}

theorem not_clashing_iff :
    ¬Clashing edits ↔
      edits.Pairwise (fun first second => ¬first.Overlaps second) ∧
        ∀ insertion ∈ edits, ∀ range ∈ edits, ¬insertion.Splits range := by
  rw [Clashing, not_or, List.pairwise_iff_forall_sublist]
  simp only [not_exists, not_and]

instance : Std.Symm fun first second : Edit => ¬first.Overlaps second :=
  ⟨fun _ _ apart both => apart ⟨both.2.1, both.1, both.2.2.2, both.2.2.1⟩⟩

theorem not_overlaps_of_mem (clear : ¬Clashing edits) {one two : Edit} (first : one ∈ edits)
    (second : two ∈ edits) (different : one ≠ two) : ¬one.Overlaps two :=
  (not_clashing_iff.1 clear).1.forall first second different

theorem clashing_iff_of_perm (same : edits.Perm others) : Clashing edits ↔ Clashing others := by
  rw [← not_iff_not, not_clashing_iff, not_clashing_iff,
    same.pairwise_iff (fun {first second} => Std.Symm.symm first second)]
  simp only [same.mem_iff]

/-- Edits in an order in which each leads the next ones are laid one after the other if and only if
they do not clash. -/
theorem laid_iff_of_leads {size : Nat} (fits : ∀ edit ∈ edits, edit.Fits size)
    (leads : edits.Pairwise Leads) : Laid edits ↔ ¬Clashing edits := by
  rw [not_clashing_iff]
  constructor
  · intro laid
    have apart : edits.Pairwise fun first second =>
        ¬first.Overlaps second ∧ ¬first.Splits second ∧ ¬second.Splits first := by
      refine laid.imp_of_mem fun {first second} one two order => ?_
      have := (fits first one).forward
      have := (fits second two).forward
      simp only [Overlaps, Splits]
      omega
    refine ⟨apart.imp And.left, ?_⟩
    intro insertion one range two
    have itself (edit : Edit) : ¬edit.Splits edit := fun inside => absurd inside.2.1 (lt_irrefl _)
    exact List.Pairwise.forall_of_forall_of_flip (fun edit _ => itself edit)
      (apart.imp fun apart => apart.2.1) (apart.imp fun apart => apart.2.2) one two
  · rintro ⟨apart, whole⟩
    refine (leads.and apart).imp_of_mem fun {first second} one two both => ?_
    obtain ⟨leads, apart⟩ := both
    have := (fits first one).forward
    have := (fits second two).forward
    have inside := whole second two first one
    simp only [Leads, Overlaps, Splits] at leads apart inside
    omega

/-- At one offset at most one range can be taken away. -/
theorem replacements_congr (same : edits.Perm others) (clear : ¬Clashing edits) (offset : Int) :
    edits.filter (replacesFrom offset) = others.filter (replacesFrom offset) := by
  have perm := same.filter (replacesFrom offset)
  have apart := ((not_clashing_iff.1 clear).1.filter (replacesFrom offset))
  have begins : ∀ edit ∈ edits.filter (replacesFrom offset), edit.start = offset ∧ offset < edit.stop :=
    fun edit member => replacesFrom_iff.1 (List.mem_filter.1 member).2
  cases found : edits.filter (replacesFrom offset) with
  | nil =>
    rw [found] at perm
    exact perm.nil_eq
  | cons first rest =>
    cases rest with
    | nil =>
      rw [found] at perm
      exact (List.perm_singleton.1 perm.symm).symm
    | cons second rest =>
      exfalso
      rw [found] at apart begins
      have one := begins first (by simp)
      have two := begins second (by simp)
      apply List.rel_of_pairwise_cons apart (List.mem_cons_self)
      simp only [Overlaps]
      omega

/-- What comes out depends on the edits alone, and on the order of insertions at one offset. -/
theorem cell_congr (bytes : List UInt8) (same : edits.Perm others) (clear : ¬Clashing edits)
    (insertions : ∀ offset, edits.filter (insertsAt offset) = others.filter (insertsAt offset))
    (offset : Nat) : cell bytes edits offset = cell bytes others offset := by
  have kept : edits.any (covers offset) = others.any (covers offset) := by
    rw [Bool.eq_iff_iff, List.any_eq_true, List.any_eq_true]
    simp only [same.mem_iff]
  rw [cell, cell, insertions, replacements_congr same clear, kept]

/-- An edit that is apart from others does not clash with them. -/
theorem not_clashing_cons {edit : Edit} (forward : edit.start ≤ edit.stop)
    (filled : ∀ other ∈ edits, other.start < other.stop) (laid : Laid edits)
    (apart : ∀ other ∈ edits, edit.stop ≤ other.start ∨ other.stop ≤ edit.start) :
    ¬Clashing (edit :: edits) := by
  rw [not_clashing_iff]
  refine ⟨.cons ?_ (laid.imp_of_mem fun {first second} one two order => ?_), ?_⟩
  · intro other member
    have := apart other member
    simp only [Overlaps]
    omega
  · simp only [Overlaps]
    omega
  · intro insertion one range two
    simp only [Splits]
    rcases List.mem_cons.1 one with rfl | behind
    · rcases List.mem_cons.1 two with rfl | other
      · omega
      · have := apart range other
        omega
    · have := filled insertion behind
      omega

/-- What an edit that is apart from others writes comes out between what they leave. -/
theorem cells_cons_of_apart {edit : Edit} {bytes : List UInt8} {size : Nat}
    (fits : edit.Fits size) (filled : ∀ other ∈ edits, other.start < other.stop)
    (apart : ∀ other ∈ edits, edit.stop ≤ other.start ∨ other.stop ≤ edit.start) :
    cells bytes (edit :: edits) 0 (size + 1) =
      cells bytes edits 0 edit.start.toNat ++
        (edit.written ++ cells bytes edits edit.stop.toNat (size + 1)) := by
  obtain ⟨nonneg, forward, inside⟩ := fits
  have front : cells bytes (edit :: edits) 0 edit.start.toNat =
      cells bytes edits 0 edit.start.toNat :=
    cells_congr fun offset _ before => cell_cons_of_outside (by omega)
  rw [cells_append _ _ edit.start.toNat (by omega) (by omega), front]
  congr 1
  rcases Int.lt_or_eq_of_le forward with wide | empty
  · apply cells_of_replacement (by omega) (by omega) (by omega) (by omega)
    intro offset behind before other member
    have := filled other member
    have := apart other member
    simp only [insertsAt_iff, covers_iff]
    omega
  · rw [← empty]
    exact cells_of_insertion (insertsAt_iff.2 (by omega)) (by omega)

/-- Whether an edit takes all away between two offsets and writes nothing there. -/
structure Empties (start stop : Nat) (edit : Edit) : Prop where
  front : edit.start ≤ start
  back : stop ≤ edit.stop
  silent : edit.written = [] ∨ edit.start < start

theorem Empties.mono {edit : Edit} {start stop first last : Nat} (empties : edit.Empties start stop)
    (front : start ≤ first) (back : last ≤ stop) : edit.Empties first last := by
  obtain ⟨before, behind, silent⟩ := empties
  exact ⟨by omega, by omega, silent.imp_right fun before => by omega⟩

/-- Nothing comes out where one of the edits empties, as no other one writes there. -/
theorem cells_of_empties {edit : Edit} {bytes : List UInt8} {start stop : Nat} (clear : ¬Clashing edits)
    (filled : ∀ edit ∈ edits, edit.written ≠ [] → edit.start < edit.stop) (member : edit ∈ edits)
    (empties : edit.Empties start stop) : cells bytes edits start stop = [] := by
  obtain ⟨front, back, silent⟩ := empties
  apply List.flatMap_eq_nil_iff.2
  intro offset here
  rw [List.mem_range'_1] at here
  have others : ∀ other ∈ edits, other.start = offset → other.written = [] := by
    intro other member' begins
    by_contra writes
    have wide := filled other member' writes
    refine not_overlaps_of_mem clear member member' ?_ ⟨by omega, wide, by omega, by omega⟩
    rintro rfl
    rcases silent with nothing | before
    · exact writes nothing
    · omega
  rw [cell_of_silent others, if_pos]
  exact List.any_eq_true.2 ⟨edit, member, covers_iff.2 (by omega)⟩

end Clashes

section Order

theorem precedes_iff {first second : Edit} :
    first.precedes second = true ↔
      first.start < second.start ∨ first.start = second.start ∧ first.stop ≤ second.stop := by
  simp [precedes]

instance : Std.Total fun first second : Edit => first.precedes second = true where
  total first second := by
    rw [precedes_iff, precedes_iff]
    omega

instance : IsTrans Edit fun first second => first.precedes second = true where
  trans first second third := by
    rw [precedes_iff, precedes_iff, precedes_iff]
    omega

/-- The order of edits is found by insertion. -/
theorem ordered_eq (edits : List Edit) :
    ordered edits = edits.insertionSort fun first second => first.precedes second = true := by
  have put (edit : Edit) (edits : List Edit) :
      edit.putInto edits =
        edits.orderedInsert (fun first second => first.precedes second = true) edit := by
    induction edits with
    | nil => rfl
    | cons first rest ih => rw [putInto, List.orderedInsert_cons, ih]
  induction edits with
  | nil => rfl
  | cons first rest ih =>
    rw [List.insertionSort_cons, ← ih, ← put]
    rfl

variable (edits : List Edit)

theorem perm_ordered : (ordered edits).Perm edits := by
  rw [ordered_eq]
  exact List.perm_insertionSort _ edits

theorem pairwise_ordered : (ordered edits).Pairwise fun first second => first.precedes second = true := by
  rw [ordered_eq]
  exact List.pairwise_insertionSort _ edits

theorem rising_ordered : (ordered edits).Pairwise fun first second => first.start ≤ second.start := by
  refine (pairwise_ordered edits).imp fun {first second} precedes => ?_
  rw [precedes_iff] at precedes
  omega

/-- Insertions at one offset stay in the order in which they were recorded. -/
theorem insertions_ordered (offset : Int) :
    (ordered edits).filter (insertsAt offset) = edits.filter (insertsAt offset) := by
  have alike : (edits.filter (insertsAt offset)).Pairwise
      fun first second => first.precedes second = true := by
    apply List.pairwise_of_forall_mem_list
    intro first one second two
    have first_at := insertsAt_iff.1 (List.mem_filter.1 one).2
    have second_at := insertsAt_iff.1 (List.mem_filter.1 two).2
    rw [precedes_iff]
    omega
  have kept : (edits.filter (insertsAt offset)).Sublist (ordered edits) := by
    rw [ordered_eq]
    exact List.sublist_insertionSort alike List.filter_sublist
  have inside := kept.filter (insertsAt offset)
  simp only [List.filter_filter, Bool.and_self] at inside
  exact (inside.eq_of_length ((perm_ordered edits).filter _).length_eq.symm).symm

theorem leads_of_precedes {size : Nat} {first second : Edit} (one : first.Fits size)
    (two : second.Fits size) (precedes : first.precedes second = true) : first.Leads second := by
  obtain ⟨_, forward, _⟩ := one
  obtain ⟨_, forward', _⟩ := two
  rw [precedes_iff] at precedes
  simp only [Leads]
  omega

theorem laid_ordered_iff {size : Nat} {edits : List Edit} (fits : ∀ edit ∈ edits, edit.Fits size) :
    Laid (ordered edits) ↔ ¬Clashing edits := by
  have kept : ∀ edit ∈ ordered edits, edit.Fits size :=
    fun edit member => fits edit ((perm_ordered edits).mem_iff.1 member)
  have leads : (ordered edits).Pairwise Leads :=
    (pairwise_ordered edits).imp_of_mem fun one two => leads_of_precedes (kept _ one) (kept _ two)
  rw [laid_iff_of_leads kept leads, clashing_iff_of_perm (perm_ordered edits)]

theorem ahead_ordered {size : Nat} {edits : List Edit} (fits : ∀ edit ∈ edits, edit.Fits size)
    (clear : ¬Clashing edits) : Ahead size 0 (ordered edits) := by
  have kept : ∀ edit ∈ ordered edits, edit.Fits size :=
    fun edit member => fits edit ((perm_ordered edits).mem_iff.1 member)
  exact ((laid_ordered_iff fits).2 clear).ahead kept (Nat.zero_le _)
    fun edit member => (kept edit member).nonneg

/-- Edits that do not clash give the same cells in the order in which they are applied. -/
theorem cells_ordered {bytes : List UInt8} {edits : List Edit} {start stop : Nat}
    (clear : ¬Clashing edits) : cells bytes (ordered edits) start stop = cells bytes edits start stop :=
  cells_congr fun offset _ _ => (cell_congr bytes (perm_ordered edits).symm clear
    (fun offset => (insertions_ordered edits offset).symm) offset).symm

end Order

section Turns

variable {bytes : ByteArray} {edits turns : List Edit}

theorem splice_ordered (fits : ∀ edit ∈ edits, edit.Fits bytes.size) (clear : ¬Clashing edits) :
    ∃ out, Document.splice bytes 0 (ordered edits) = .ok out ∧
      out.data.toList = cells bytes.data.toList edits 0 (bytes.size + 1) := by
  obtain ⟨out, made, same⟩ := splice_of_ahead (ahead_ordered fits clear)
  exact ⟨out, made, same.trans (cells_ordered clear)⟩

end Turns

section Rendering

variable {document : Document} {edits : List Edit}

theorem decoded_iff (bytes : ByteArray) {text : String} :
    String.fromUTF8? bytes = some text ↔ text.toUTF8 = bytes := by
  constructor
  · intro decoded
    exact (bytes_of_decoded decoded).symm
  · rintro rfl
    exact dif_pos text.isValidUTF8

theorem render_of_splice {bytes : ByteArray}
    (made : Document.splice document.bytes 0 (ordered edits) = .ok bytes) :
    (∀ text, document.render edits = .ok text ↔ text.toUTF8 = bytes) ∧
      (document.render edits = .error .undecodable ↔ ∀ text : String, text.toUTF8 ≠ bytes) ∧
      ∀ offset reached, document.render edits ≠ .error (.overlap offset reached) := by
  simp only [Document.render, made, bind, Except.bind, ne_eq, ← decoded_iff bytes]
  cases String.fromUTF8? bytes with
  | none => simp
  | some text => simp

theorem render_of_splice_error {failure : EditError}
    (failed : Document.splice document.bytes 0 (ordered edits) = .error failure) :
    document.render edits = .error failure := by
  rw [Document.render, failed]
  rfl

variable (fits : ∀ edit ∈ edits, edit.Fits document.bytes.size)
include fits

theorem splice_error_of_clashing (clash : Clashing edits) :
    ∃ offset reached, Document.splice document.bytes 0 (ordered edits) =
      .error (.overlap offset reached) := by
  cases made : Document.splice document.bytes 0 (ordered edits) with
  | error failure =>
    obtain ⟨offset, reached, rfl⟩ := overlap_of_splice made
    exact ⟨offset, reached, rfl⟩
  | ok out =>
    exact absurd clash ((laid_ordered_iff fits).1 (laid_of_splice (rising_ordered edits) made).1)

/-- Edits are refused if and only if they clash. -/
theorem overlap_iff_clashing :
    (∃ offset reached, document.render edits = .error (.overlap offset reached)) ↔ Clashing edits := by
  constructor
  · rintro ⟨offset, reached, refused⟩
    by_contra clear
    obtain ⟨out, made, -⟩ := splice_ordered fits clear
    exact (render_of_splice made).2.2 offset reached refused
  · intro clash
    obtain ⟨offset, reached, failed⟩ := splice_error_of_clashing fits clash
    exact ⟨offset, reached, render_of_splice_error failed⟩

/-- What is rendered are the cells of edits that do not clash. -/
theorem cells_of_render {after : String} (rendered : document.render edits = .ok after) :
    ¬Clashing edits ∧
      bytesOf after = cells document.bytes.data.toList edits 0 (document.bytes.size + 1) := by
  have clear : ¬Clashing edits := by
    intro clash
    obtain ⟨offset, reached, refused⟩ := (overlap_iff_clashing fits).2 clash
    rw [rendered] at refused
    cases refused
  obtain ⟨out, made, bytes⟩ := splice_ordered fits clear
  obtain rfl := ((render_of_splice made).1 after).1 rendered
  exact ⟨clear, bytes⟩

/-- The same cells come out of the edits in the order in which they are applied. -/
theorem cells_ordered_of_render {after : String} (rendered : document.render edits = .ok after) :
    Ahead document.bytes.size 0 (ordered edits) ∧
      bytesOf after = cells document.bytes.data.toList (ordered edits) 0 (document.bytes.size + 1) := by
  obtain ⟨clear, bytes⟩ := cells_of_render fits rendered
  exact ⟨ahead_ordered fits clear, bytes.trans (cells_ordered clear).symm⟩

end Rendering

end Edit

end ComponentGate
