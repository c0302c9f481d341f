import ComponentGate.Proofs.Preamble.Patches
import Mathlib.Data.List.Forall2

/-! Edits offset by offset. What a list of edits makes of a text is put together from cells, one for each
offset: what is inserted there, what replaces the range that starts there, and the byte that stands there
unless an edit takes it away. -/

namespace ComponentGate

open Preamble

namespace Edit

/-- Whether an edit's range lies in a text of `size` bytes. -/
structure Fits (size : Nat) (edit : Edit) : Prop where
  nonneg : 0 ≤ edit.start
  forward : edit.start ≤ edit.stop
  inside : edit.stop ≤ size

instance (size : Nat) (edit : Edit) : Decidable (edit.Fits size) :=
  decidable_of_iff (0 ≤ edit.start ∧ edit.start ≤ edit.stop ∧ edit.stop ≤ size)
    ⟨fun fits => ⟨fits.1, fits.2.1, fits.2.2⟩, fun fits => ⟨fits.nonneg, fits.forward, fits.inside⟩⟩

/-- The offsets between which an edit takes bytes away. -/
def range (edit : Edit) : Int × Int := (edit.start, edit.stop)

/-- Whether an edit inserts at an offset and takes nothing away. -/
def insertsAt (offset : Int) (edit : Edit) : Bool := edit.start == offset && edit.stop == offset

/-- Whether an edit takes away bytes, the first of them at an offset. -/
def replacesFrom (offset : Int) (edit : Edit) : Bool := edit.start == offset && offset < edit.stop

/-- Whether an edit takes away the byte at an offset. -/
def covers (offset : Int) (edit : Edit) : Bool := edit.start ≤ offset && offset < edit.stop

@[simp] theorem insertsAt_iff {offset : Int} {edit : Edit} :
    edit.insertsAt offset = true ↔ edit.start = offset ∧ edit.stop = offset := by
  simp [insertsAt]

@[simp] theorem replacesFrom_iff {offset : Int} {edit : Edit} :
    edit.replacesFrom offset = true ↔ edit.start = offset ∧ offset < edit.stop := by
  simp [replacesFrom]

@[simp] theorem covers_iff {offset : Int} {edit : Edit} :
    edit.covers offset = true ↔ edit.start ≤ offset ∧ offset < edit.stop := by
  simp [covers]

def written (edit : Edit) : List UInt8 := bytesOf edit.text

/-- What comes out for one offset: what is inserted there, what replaces the range that starts there,
and the byte itself unless it is taken away. -/
def cell (bytes : List UInt8) (edits : List Edit) (offset : Nat) : List UInt8 :=
  (edits.filter (insertsAt offset)).flatMap written ++
    ((edits.filter (replacesFrom offset)).flatMap written ++
      if edits.any (covers offset) then [] else bytes[offset]?.toList)

/-- What comes out for the offsets from `start` up to `stop`. -/
def cells (bytes : List UInt8) (edits : List Edit) (start stop : Nat) : List UInt8 :=
  (List.range' start (stop - start)).flatMap (cell bytes edits)

/-- Whether each edit starts where the ones before it are done. -/
def Laid (edits : List Edit) : Prop := edits.Pairwise fun first second => first.stop ≤ second.start

section Cells

variable {bytes : List UInt8} {edit : Edit} {edits : List Edit} {offset : Nat}

/-- Whether no edit inserts at an offset or takes away the byte there. -/
def Untouched (edits : List Edit) (offset : Int) : Prop :=
  ∀ edit ∈ edits, ¬edit.insertsAt offset = true ∧ ¬edit.covers offset = true

theorem untouched_of_lt (later : ∀ edit ∈ edits, (offset : Int) < edit.start) :
    Untouched edits offset := by
  intro edit member
  have behind := later edit member
  simp only [insertsAt_iff, covers_iff]
  omega

theorem still_of_untouched (still : Untouched edits offset) :
    edits.filter (insertsAt offset) = [] ∧ edits.filter (replacesFrom offset) = [] ∧
      edits.any (covers offset) = false := by
  refine ⟨List.filter_eq_nil_iff.2 ?_, List.filter_eq_nil_iff.2 ?_, List.any_eq_false.2 ?_⟩
  all_goals
    intro edit member
    have apart := still edit member
    simp only [insertsAt_iff, replacesFrom_iff, covers_iff] at apart ⊢
    omega

/-- Where edits that write nothing begin, the byte stays unless it is taken away. -/
theorem cell_of_silent (silent : ∀ edit ∈ edits, edit.start = offset → edit.written = []) :
    cell bytes edits offset = if edits.any (covers offset) then [] else bytes[offset]?.toList := by
  have insertions : (edits.filter (insertsAt offset)).flatMap written = [] := by
    apply List.flatMap_eq_nil_iff.2
    intro edit member
    obtain ⟨listed, here⟩ := List.mem_filter.1 member
    exact silent edit listed (insertsAt_iff.1 here).1
  have replacements : (edits.filter (replacesFrom offset)).flatMap written = [] := by
    apply List.flatMap_eq_nil_iff.2
    intro edit member
    obtain ⟨listed, here⟩ := List.mem_filter.1 member
    exact silent edit listed (replacesFrom_iff.1 here).1
  rw [cell, insertions, replacements, List.nil_append, List.nil_append]

theorem cell_of_untouched (still : Untouched edits offset) :
    cell bytes edits offset = bytes[offset]?.toList := by
  obtain ⟨insertions, replacements, kept⟩ := still_of_untouched still
  simp [cell, insertions, replacements, kept]

/-- An edit does nothing in front of its range and behind it. -/
theorem cell_cons_of_outside (outside : offset < edit.start ∨ edit.stop ≤ offset ∧ edit.start < offset) :
    cell bytes (edit :: edits) offset = cell bytes edits offset := by
  have insertion : ¬edit.insertsAt offset = true := by
    simp only [insertsAt_iff]
    omega
  have replacement : ¬edit.replacesFrom offset = true := by
    simp only [replacesFrom_iff]
    omega
  have kept : ¬edit.covers offset = true := by
    simp only [covers_iff]
    omega
  simp [cell, insertion, replacement, kept]

theorem cell_cons_of_insertion (insertion : edit.insertsAt offset = true) :
    cell bytes (edit :: edits) offset = edit.written ++ cell bytes edits offset := by
  have place := insertsAt_iff.1 insertion
  have replacement : ¬edit.replacesFrom offset = true := by
    simp only [replacesFrom_iff]
    omega
  have kept : ¬edit.covers offset = true := by
    simp only [covers_iff]
    omega
  simp [cell, insertion, replacement, kept]

theorem cell_cons_of_replacement (replacement : edit.replacesFrom offset = true)
    (still : Untouched edits offset) : cell bytes (edit :: edits) offset = edit.written := by
  have place := replacesFrom_iff.1 replacement
  have insertion : ¬edit.insertsAt offset = true := by
    simp only [insertsAt_iff]
    omega
  have covered : edit.covers offset = true := by
    simp only [covers_iff]
    omega
  obtain ⟨insertions, replacements, -⟩ := still_of_untouched still
  simp [cell, insertion, replacement, covered, insertions, replacements]

theorem cell_cons_of_covers (covered : edit.covers offset = true) (behind : edit.start < offset)
    (still : Untouched edits offset) : cell bytes (edit :: edits) offset = [] := by
  have place := covers_iff.1 covered
  have insertion : ¬edit.insertsAt offset = true := by
    simp only [insertsAt_iff]
    omega
  have replacement : ¬edit.replacesFrom offset = true := by
    simp only [replacesFrom_iff]
    omega
  obtain ⟨insertions, replacements, -⟩ := still_of_untouched still
  simp [cell, insertion, replacement, covered, insertions, replacements]

theorem cells_append (bytes : List UInt8) (edits : List Edit) {first third : Nat} (second : Nat)
    (one : first ≤ second) (two : second ≤ third) :
    cells bytes edits first third =
      cells bytes edits first second ++ cells bytes edits second third := by
  have parts : third - first = (second - first) + (third - second) := by omega
  have middle : first + 1 * (second - first) = second := by omega
  rw [cells, parts, ← List.range'_append, middle, List.flatMap_append]
  rfl

theorem cells_congr {others : List Edit} {start stop : Nat}
    (same : ∀ offset, start ≤ offset → offset < stop →
      cell bytes edits offset = cell bytes others offset) :
    cells bytes edits start stop = cells bytes others start stop := by
  apply List.flatMap_congr
  intro offset member
  rw [List.mem_range'_1] at member
  exact same offset member.1 (by omega)

theorem flatMap_getElem_range' (bytes : List UInt8) (start count : Nat) :
    ((List.range' start count).flatMap fun offset => bytes[offset]?.toList) =
      (bytes.drop start).take count := by
  induction count generalizing start with
  | zero => rfl
  | succ count ih =>
    rw [List.range'_succ, List.flatMap_cons, ih, List.drop_eq_getElem?_toList_append (i := start)]
    cases found : bytes[start]? with
    | none =>
      have beyond : bytes.length ≤ start := List.getElem?_eq_none_iff.1 found
      simp [List.drop_eq_nil_of_le (Nat.le_succ_of_le beyond)]
    | some byte => rfl

/-- Where every offset keeps its byte, so does what stands there. -/
theorem cells_of_still {start stop : Nat}
    (still : ∀ offset, start ≤ offset → offset < stop → cell bytes edits offset = bytes[offset]?.toList) :
    cells bytes edits start stop = (bytes.take stop).drop start := by
  have plain : cells bytes edits start stop =
      (List.range' start (stop - start)).flatMap fun offset => bytes[offset]?.toList := by
    apply List.flatMap_congr
    intro offset member
    rw [List.mem_range'_1] at member
    exact still offset member.1 (by omega)
  rw [plain, flatMap_getElem_range', List.drop_take]

/-- Offsets in front of all edits keep their bytes. -/
theorem cells_of_lt {start stop : Nat} (later : ∀ edit ∈ edits, (stop : Int) ≤ edit.start) :
    cells bytes edits start stop = (bytes.take stop).drop start := by
  apply cells_of_still
  intro offset _ before
  apply cell_of_untouched
  apply untouched_of_lt
  intro edit present
  have := later edit present
  omega

theorem cells_succ (bytes : List UInt8) (edits : List Edit) {start stop : Nat} (more : start < stop) :
    cells bytes edits start stop =
      cell bytes edits start ++ cells bytes edits (start + 1) stop := by
  have count : stop - start = (stop - (start + 1)) + 1 := by omega
  rw [cells, count, List.range'_succ, List.flatMap_cons]
  rfl

/-- What comes out begins as what stands there, where its first offset keeps its byte. -/
theorem head?_cells {start stop : Nat} (still : cell bytes edits start = bytes[start]?.toList)
    (within : start < bytes.length) (more : start < stop) :
    (cells bytes edits start stop).head? = (bytes.drop start).head? := by
  rw [cells_succ bytes edits more, still, List.head?_drop, List.getElem?_eq_getElem within]
  rfl

/-- What an insertion brings comes out in front of what stands at its place. -/
theorem cells_of_insertion {place size : Nat} (insertion : edit.insertsAt place = true)
    (within : place < size) :
    cells bytes (edit :: edits) place size = edit.written ++ cells bytes edits place size := by
  have own := insertsAt_iff.1 insertion
  have rest : cells bytes (edit :: edits) (place + 1) size = cells bytes edits (place + 1) size :=
    cells_congr fun offset _ _ => cell_cons_of_outside (by omega)
  rw [cells_succ _ _ within, cell_cons_of_insertion insertion, rest, List.append_assoc,
    ← cells_succ bytes edits within]

/-- What replaces a range comes out in front of what stands behind it. -/
theorem cells_of_replacement {start stop size : Nat} (first : edit.start = start)
    (last : edit.stop = stop) (filled : start < stop) (within : stop ≤ size)
    (still : ∀ offset : Nat, start ≤ offset → offset < stop → Untouched edits offset) :
    cells bytes (edit :: edits) start size = edit.written ++ cells bytes edits stop size := by
  have replacement : edit.replacesFrom start = true := replacesFrom_iff.2 (by omega)
  have nothing : cells bytes (edit :: edits) (start + 1) stop = [] := by
    apply List.flatMap_eq_nil_iff.2
    intro offset member
    rw [List.mem_range'_1] at member
    exact cell_cons_of_covers (covers_iff.2 (by omega)) (by omega) (still offset (by omega) (by omega))
  have rest : cells bytes (edit :: edits) stop size = cells bytes edits stop size :=
    cells_congr fun offset _ _ => cell_cons_of_outside (by omega)
  rw [cells_succ _ _ (by omega), cell_cons_of_replacement replacement (still start (by omega) filled),
    cells_append bytes (edit :: edits) stop (by omega) within, nothing, rest,
    List.nil_append]

/-- What an edit writes comes out in front of what comes out behind its range. -/
theorem cells_cons {size : Nat} (fits : edit.Fits size)
    (later : ∀ other ∈ edits, edit.stop ≤ other.start) :
    cells bytes (edit :: edits) edit.start.toNat (size + 1) =
      edit.written ++ cells bytes edits edit.stop.toNat (size + 1) := by
  obtain ⟨nonneg, forward, inside⟩ := fits
  rcases Int.lt_or_eq_of_le forward with filled | empty
  · apply cells_of_replacement (by omega) (by omega) (by omega) (by omega)
    intro offset _ before
    apply untouched_of_lt
    intro other present
    have := later other present
    omega
  · rw [← empty]
    exact cells_of_insertion (insertsAt_iff.2 (by omega)) (by omega)

/-- In front of the first edit the bytes come out as they are. -/
theorem cells_reached {size reached : Nat} (fits : edit.Fits size)
    (later : ∀ other ∈ edits, edit.stop ≤ other.start) (behind : reached ≤ edit.start) :
    cells bytes (edit :: edits) reached (size + 1) =
      (bytes.take edit.start.toNat).drop reached ++
        (edit.written ++ cells bytes edits edit.stop.toNat (size + 1)) := by
  have ⟨nonneg, forward, inside⟩ := fits
  have ahead : ∀ other ∈ edit :: edits, (edit.start.toNat : Int) ≤ other.start := by
    intro other member
    rcases List.mem_cons.1 member with rfl | present
    · omega
    · have := later other present
      omega
  rw [cells_append _ _ edit.start.toNat (by omega) (by omega), cells_of_lt ahead,
    cells_cons fits later]

/-- Edits in a text of `size` bytes, none of which starts in front of what is reached by then. -/
inductive Ahead (size : Nat) : Nat → List Edit → Prop where
  | done {reached : Nat} (within : reached ≤ size) : Ahead size reached []
  | next {reached : Nat} {edit : Edit} {rest : List Edit} (fits : edit.Fits size)
      (start : (reached : Int) ≤ edit.start) (later : ∀ other ∈ rest, edit.stop ≤ other.start)
      (ahead : Ahead size edit.stop.toNat rest) : Ahead size reached (edit :: rest)

theorem Laid.ahead {size reached : Nat} (laid : Laid edits) (fits : ∀ edit ∈ edits, edit.Fits size)
    (within : reached ≤ size) (behind : ∀ edit ∈ edits, (reached : Int) ≤ edit.start) :
    Ahead size reached edits := by
  induction edits generalizing reached with
  | nil => exact .done within
  | cons edit rest ih =>
    obtain ⟨later, laid⟩ := List.pairwise_cons.1 laid
    obtain ⟨own, fits⟩ := List.forall_mem_cons.1 fits
    have ⟨nonneg, forward, inside⟩ := own
    refine .next own (behind edit List.mem_cons_self) later (ih laid fits (by omega) ?_)
    intro other member
    have := later other member
    omega

end Cells

section Splices

variable {bytes : ByteArray} {edits : List Edit}

theorem toList_slice {start stop : Int} (nonneg : 0 ≤ start) (forward : start ≤ stop) :
    (Document.slice bytes start stop).data.toList =
      (bytes.data.toList.take stop.toNat).drop start.toNat := by
  obtain ⟨start, rfl⟩ := Int.eq_ofNat_of_zero_le nonneg
  obtain ⟨stop, rfl⟩ := Int.eq_ofNat_of_zero_le (Int.le_trans nonneg forward)
  rw [slice_natCast, ByteArray.data_extract, Array.toList_extract, List.extract_eq_take_drop,
    List.drop_take]
  rfl

/-- Edits that are laid one after the other are applied as cells say. -/
theorem splice_of_ahead {reached : Nat} (ahead : Ahead bytes.size reached edits) :
    ∃ out, Document.splice bytes reached edits = .ok out ∧
      out.data.toList = cells bytes.data.toList edits reached (bytes.size + 1) := by
  induction ahead with
  | done within =>
    refine ⟨_, rfl, ?_⟩
    rw [cells_of_lt (by simp), toList_slice (by omega) (by omega)]
    have size : bytes.data.toList.length = bytes.size := rfl
    simp [List.take_of_length_le, size]
  | @next reached edit rest fits start later _ ih =>
    have ⟨nonneg, forward, inside⟩ := fits
    obtain ⟨tail, spliced, same⟩ := ih
    rw [Int.toNat_of_nonneg (by omega)] at spliced
    refine ⟨_, splice_cons_eq_ok_iff.2 ⟨start, tail, spliced, rfl⟩, ?_⟩
    rw [cells_reached fits later start, ← same, ByteArray.data_append, ByteArray.data_append,
      Array.toList_append, Array.toList_append, toList_slice (by omega) start, List.append_assoc]
    rfl

theorem overlap_of_splice {reached : Int} {failure : EditError}
    (failed : Document.splice bytes reached edits = .error failure) :
    ∃ offset before, failure = .overlap offset before := by
  induction edits generalizing reached with
  | nil => cases failed
  | cons edit rest ih =>
    rcases splice_cons_eq_error_iff.1 failed with ⟨-, rfl⟩ | ⟨-, tail⟩
    · exact ⟨_, _, rfl⟩
    · exact ih tail

/-- Only edits that are laid one after the other are applied. -/
theorem laid_of_splice {reached : Int} {out : ByteArray}
    (rising : edits.Pairwise fun first second => first.start ≤ second.start)
    (made : Document.splice bytes reached edits = .ok out) :
    Laid edits ∧ ∀ edit ∈ edits, reached ≤ edit.start := by
  induction edits generalizing reached out with
  | nil => exact ⟨.nil, by simp⟩
  | cons edit rest ih =>
    obtain ⟨ahead, rising⟩ := List.pairwise_cons.1 rising
    obtain ⟨order, tail, behind, -⟩ := splice_cons_eq_ok_iff.1 made
    obtain ⟨laid, later⟩ := ih rising behind
    refine ⟨.cons later laid, List.forall_mem_cons.2 ⟨order, ?_⟩⟩
    intro other member
    exact Int.le_trans order (ahead other member)

end Splices

end Edit

end ComponentGate
