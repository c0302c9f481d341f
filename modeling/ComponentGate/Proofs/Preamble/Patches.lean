import ComponentGate.Document.Edit
import ComponentGate.Proofs.Preamble.Fences

/-! Patches. Texts that replace others bring no preamble about as long as each of their lines shows
something else than dashes. -/

namespace ComponentGate

open Syntax

namespace Preamble

def dash : UInt8 := 0x2D

/-- Every line of a text shows something else than dashes. -/
inductive Marked : List UInt8 → Prop where
  | last (within : Document.lineFeed ∉ line) (shown : ∃ byte ∈ line, byte ≠ dash) : Marked line
  | more (within : Document.lineFeed ∉ line) (shown : ∃ byte ∈ line, byte ≠ dash)
      (rest : Marked text) : Marked (line ++ Document.lineFeed :: text)

/-- Bytes in which marked texts have taken the place of others. -/
inductive Patched : List UInt8 → List UInt8 → Prop where
  | done : Patched [] []
  | keep (byte : UInt8) (rest : Patched before after) : Patched (byte :: before) (byte :: after)
  | piece (old : List UInt8) (marked : Marked new) (rest : Patched before after) :
      Patched (old ++ before) (new ++ after)

namespace Patched

theorem refl (bytes : List UInt8) : Patched bytes bytes := by
  induction bytes with
  | nil => exact .done
  | cons byte rest ih => exact .keep byte ih

theorem append (front : List UInt8) (rest : Patched before after) :
    Patched (front ++ before) (front ++ after) := by
  induction front with
  | nil => exact rest
  | cons byte front ih => exact .keep byte ih

end Patched

section Fencing

variable {count : Nat} {line text before after tail : List UInt8}

/-- A line that shows something else is no line of dashes. -/
theorem ne_dashes_of_shown (within : Document.lineFeed ∉ line) (shown : ∃ byte ∈ line, byte ≠ dash) :
    line ++ after ≠ List.replicate count dash ++ Document.lineFeed :: tail := by
  intro same
  obtain ⟨byte, member, other⟩ := shown
  rcases List.append_eq_append_iff.1 same with ⟨more, dashes, -⟩ | ⟨more, whole, rest⟩
  · have inside : byte ∈ List.replicate count dash := by
      rw [dashes]
      exact List.mem_append_left _ member
    exact other (List.eq_of_mem_replicate inside)
  · cases more with
    | nil =>
      rw [List.append_nil] at whole
      rw [whole] at member
      exact other (List.eq_of_mem_replicate member)
    | cons head more =>
      rw [List.cons_append, List.cons.injEq] at rest
      rw [whole, ← rest.1] at within
      exact within (by simp)

theorem Marked.ne_dashes (marked : Marked text) :
    text ++ after ≠ List.replicate count dash ++ Document.lineFeed :: tail := by
  cases marked with
  | last within shown => exact ne_dashes_of_shown within shown
  | more within shown rest =>
    rw [List.append_assoc]
    exact ne_dashes_of_shown within shown

/-- A line of dashes at the start stood there before. -/
theorem exists_front_of_patched (patched : Patched before after)
    (dashes : after = List.replicate count dash ++ Document.lineFeed :: tail) :
    ∃ rest, before = List.replicate count dash ++ Document.lineFeed :: rest ∧ Patched rest tail := by
  induction count generalizing before after with
  | zero =>
    cases patched with
    | done => cases dashes
    | keep byte rest =>
      obtain ⟨rfl, rfl⟩ := List.cons.inj dashes
      exact ⟨_, rfl, rest⟩
    | piece old marked rest => exact absurd dashes marked.ne_dashes
  | succ count ih =>
    cases patched with
    | done => cases dashes
    | keep byte rest =>
      rw [List.replicate_succ, List.cons_append] at dashes
      obtain ⟨rfl, later⟩ := List.cons.inj dashes
      obtain ⟨behind, rfl, patched⟩ := ih rest later
      exact ⟨behind, rfl, patched⟩
    | piece old marked rest => exact absurd dashes marked.ne_dashes

/-- Whether a line of dashes stands somewhere behind another line. -/
def Closed (bytes : List UInt8) : Prop :=
  ∃ content rest, bytes = content ++
    Document.lineFeed :: (List.replicate 3 dash ++ Document.lineFeed :: rest)

theorem Closed.append (front : List UInt8) (closed : Closed after) : Closed (front ++ after) := by
  obtain ⟨content, rest, rfl⟩ := closed
  exact ⟨front ++ content, rest, by simp⟩

/-- No line of dashes begins or ends inside a line that shows something else. -/
theorem closed_of_line (within : Document.lineFeed ∉ line) (closed : Closed (line ++ after)) :
    Closed after := by
  induction line with
  | nil => exact closed
  | cons byte line ih =>
    rw [List.mem_cons, not_or] at within
    obtain ⟨content, rest, same⟩ := closed
    cases content with
    | nil =>
      rw [List.cons_append, List.nil_append, List.cons.injEq] at same
      exact absurd same.1.symm within.1
    | cons head content =>
      rw [List.cons_append, List.cons_append, List.cons.injEq] at same
      exact ih within.2 ⟨content, rest, same.2⟩

theorem Marked.closed (marked : Marked text) (closed : Closed (text ++ after)) : Closed after := by
  induction marked with
  | last within _ => exact closed_of_line within closed
  | @more line text within _ rest ih =>
    rw [List.append_assoc] at closed
    obtain ⟨content, behind, same⟩ := closed_of_line within closed
    apply ih
    cases content with
    | nil =>
      rw [List.cons_append, List.nil_append, List.cons.injEq] at same
      exact absurd same.2 rest.ne_dashes
    | cons head content =>
      rw [List.cons_append, List.cons_append, List.cons.injEq] at same
      exact ⟨content, behind, same.2⟩

theorem closed_of_patched (patched : Patched before after) (closed : Closed after) :
    Closed before := by
  induction patched with
  | done => exact closed
  | keep byte rest ih =>
    obtain ⟨content, behind, same⟩ := closed
    cases content with
    | nil =>
      obtain ⟨rfl, dashes⟩ := List.cons.inj same
      obtain ⟨tail, rfl, -⟩ := exists_front_of_patched rest dashes
      exact ⟨[], tail, rfl⟩
    | cons head content =>
      obtain ⟨rfl, later⟩ := List.cons.inj same
      exact (ih ⟨content, behind, later⟩).append [_]
  | piece old marked rest ih => exact (ih (marked.closed closed)).append old

theorem fenced_iff (bytes : List UInt8) :
    Fenced bytes ↔
      ∃ rest, bytes = List.replicate 3 dash ++ Document.lineFeed :: rest ∧ Closed rest := by
  constructor
  · rintro ⟨content, behind, rfl⟩
    exact ⟨_, rfl, content, behind, rfl⟩
  · rintro ⟨-, rfl, content, behind, rfl⟩
    exact ⟨content, behind, rfl⟩

/-- Patches bring no preamble about. -/
theorem fenced_of_patched (patched : Patched before after) (fenced : Fenced after) :
    Fenced before := by
  obtain ⟨tail, opens, closed⟩ := (fenced_iff after).1 fenced
  obtain ⟨rest, begins, patched⟩ := exists_front_of_patched patched opens
  exact (fenced_iff before).2 ⟨rest, begins, closed_of_patched patched closed⟩

end Fencing

section Texts

theorem lineFeed_notMem_encoded {chars : List Char} (within : '\n' ∉ chars) :
    Document.lineFeed ∉ encoded chars := by
  intro member
  obtain ⟨c, present, inside⟩ := List.mem_flatMap.1 member
  rcases bytes_of_char c with ⟨small, single⟩ | large
  · rw [single, List.mem_singleton] at inside
    have code := congrArg UInt8.toNat inside
    rw [UInt8.toNat_ofNat'] at code
    have ten : c.toNat = 10 := by
      have feed : Document.lineFeed.toNat = 10 := rfl
      omega
    have same : c = '\n' := Char.ext (UInt32.toNat_inj.1 ten)
    exact within (same ▸ present)
  · exact absurd (large _ inside) (by decide)

theorem exists_shown_of_char {chars : List Char} {c : Char} (member : c ∈ chars) (other : c ≠ '-') :
    ∃ byte ∈ encoded chars, byte ≠ dash := by
  rcases bytes_of_char c with ⟨small, single⟩ | large
  · refine ⟨UInt8.ofNat c.toNat, List.mem_flatMap.2 ⟨c, member, by simp [single]⟩, ?_⟩
    intro same
    have code := congrArg UInt8.toNat same
    rw [UInt8.toNat_ofNat'] at code
    have number : c.toNat = 45 := by
      have sign : dash.toNat = 45 := rfl
      omega
    exact other (Char.ext (UInt32.toNat_inj.1 number))
  · obtain ⟨byte, inside⟩ := List.exists_mem_of_ne_nil _ (String.utf8EncodeChar_ne_nil (c := c))
    refine ⟨byte, List.mem_flatMap.2 ⟨c, member, inside⟩, ?_⟩
    rintro rfl
    exact absurd (large _ inside) (by decide)

/-- A text on one line that does not consist of dashes is marked. -/
theorem marked_of_line {text : String} {c : Char} (within : '\n' ∉ text.toList)
    (member : c ∈ text.toList) (other : c ≠ '-') : Marked (bytesOf text) := by
  rw [bytesOf_eq_encoded]
  exact .last (lineFeed_notMem_encoded within) (exists_shown_of_char member other)

end Texts

section Rendering

/-- Whether an edit puts a marked text in the place of a range. -/
structure Neat (edit : Edit) : Prop where
  nonneg : 0 ≤ edit.start
  range : edit.start ≤ edit.stop
  marked : Marked (bytesOf edit.text)

theorem mem_putInto_iff {edit other : Edit} {edits : List Edit} :
    other ∈ edit.putInto edits ↔ other = edit ∨ other ∈ edits := by
  induction edits with
  | nil => simp [Edit.putInto]
  | cons first rest ih =>
    rw [Edit.putInto]
    split
    · exact List.mem_cons
    · rw [List.mem_cons, ih, List.mem_cons, or_left_comm]

theorem mem_ordered_iff {edit : Edit} {edits : List Edit} :
    edit ∈ Edit.ordered edits ↔ edit ∈ edits := by
  induction edits with
  | nil => rfl
  | cons first rest ih =>
    have put : Edit.ordered (first :: rest) = first.putInto (Edit.ordered rest) := rfl
    rw [put, mem_putInto_iff, ih, List.mem_cons]

theorem bytes_of_decoded {bytes : ByteArray} {text : String}
    (decoded : String.fromUTF8? bytes = some text) : bytes = text.toUTF8 := by
  rw [String.fromUTF8?] at decoded
  split at decoded
  · obtain rfl := Option.some.inj decoded
    rfl
  · cases decoded

theorem place_of_nonneg {offset : Int} (bytes : ByteArray) (nonneg : 0 ≤ offset) :
    Document.slice.place bytes offset = min offset.toNat bytes.size := by
  rw [Document.slice.place, if_neg (by omega)]

theorem slice_natCast (bytes : ByteArray) (start stop : Nat) :
    Document.slice bytes start stop = bytes.extract start stop := by
  rw [Document.slice, place_of_nonneg bytes (Int.natCast_nonneg start),
    place_of_nonneg bytes (Int.natCast_nonneg stop)]
  apply ByteArray.ext
  apply Array.toList_inj.1
  have size : bytes.data.toList.length = bytes.size := rfl
  simp only [ByteArray.data_extract, Array.toList_extract, Int.toNat_natCast, List.extract_eq_take_drop]
  rcases Nat.le_total start bytes.size with within | beyond
  · rw [Nat.min_eq_left within, List.take_eq_take_iff, List.length_drop, size]
    omega
  · rw [Nat.min_eq_right beyond, List.drop_of_length_le (Nat.le_of_eq size),
      List.drop_of_length_le (size ▸ beyond), List.take_nil, List.take_nil]

theorem slice_append_slice (bytes : ByteArray) {start stop : Int} (nonneg : 0 ≤ start)
    (range : start ≤ stop) :
    Document.slice bytes start stop ++ Document.slice bytes stop bytes.size =
      Document.slice bytes start bytes.size := by
  rw [Document.slice, Document.slice, Document.slice, ByteArray.extract_append_extract,
    place_of_nonneg bytes nonneg, place_of_nonneg bytes (by omega),
    place_of_nonneg bytes (by omega)]
  congr 1 <;> omega

theorem slice_whole (bytes : ByteArray) : Document.slice bytes 0 bytes.size = bytes := by
  rw [Document.slice, place_of_nonneg bytes (by omega), place_of_nonneg bytes (by omega)]
  simp

section Splicing

variable {bytes : ByteArray} {reached : Int} {edit : Edit} {rest : List Edit}

theorem splice_cons_eq_ok_iff {out : ByteArray} :
    Document.splice bytes reached (edit :: rest) = .ok out ↔
      reached ≤ edit.start ∧ ∃ tail, Document.splice bytes edit.stop rest = .ok tail ∧
        out = Document.slice bytes reached edit.start ++ edit.text.toUTF8 ++ tail := by
  rw [Document.splice]
  split
  · rename_i order
    exact iff_of_false nofun fun made => Int.not_lt.2 made.1 order
  · rename_i order
    cases Document.splice bytes edit.stop rest with
    | error failure => exact iff_of_false nofun fun ⟨_, _, made, _⟩ => nomatch made
    | ok tail =>
      constructor
      · intro made
        exact ⟨Int.not_lt.1 order, tail, rfl, (Except.ok.inj made).symm⟩
      · rintro ⟨-, _, ⟨rfl⟩, rfl⟩
        rfl

theorem splice_cons_eq_error_iff {failure : EditError} :
    Document.splice bytes reached (edit :: rest) = .error failure ↔
      (edit.start < reached ∧ failure = .overlap edit.start reached) ∨
        (reached ≤ edit.start ∧ Document.splice bytes edit.stop rest = .error failure) := by
  rw [Document.splice]
  split
  · rename_i order
    constructor
    · intro failed
      exact .inl ⟨order, (Except.error.inj failed).symm⟩
    · rintro (⟨-, rfl⟩ | ⟨behind, -⟩)
      · rfl
      · exact absurd order (Int.not_lt.2 behind)
  · rename_i order
    have behind := Int.not_lt.1 order
    cases Document.splice bytes edit.stop rest with
    | error other => simp [order, behind, bind, Except.bind]
    | ok tail => simp [order, bind, Except.bind, pure, Except.pure]

end Splicing

theorem patched_of_splice {bytes out : ByteArray} {reached : Int} {edits : List Edit}
    (neat : ∀ edit ∈ edits, Neat edit) (nonneg : 0 ≤ reached)
    (made : Document.splice bytes reached edits = .ok out) :
    Patched (Document.slice bytes reached bytes.size).data.toList out.data.toList := by
  induction edits generalizing reached out with
  | nil =>
    obtain rfl := Except.ok.inj made
    exact .refl _
  | cons edit rest ih =>
    obtain ⟨start, range, marked⟩ := neat edit List.mem_cons_self
    obtain ⟨order, tail, behind, rfl⟩ := splice_cons_eq_ok_iff.1 made
    have later := ih (fun edit member => neat edit (List.mem_cons_of_mem _ member)) (by omega) behind
    rw [← slice_append_slice bytes nonneg order, ← slice_append_slice bytes start range]
    simp only [ByteArray.data_append, Array.toList_append, List.append_assoc]
    exact .append _ (.piece _ marked later)

/-- The edited text is the spliced bytes. -/
theorem splice_of_render {document : Document} {edits : List Edit} {after : String}
    (made : document.render edits = .ok after) :
    Document.splice document.bytes 0 (Edit.ordered edits) = .ok after.toUTF8 := by
  rw [Document.render] at made
  cases spliced : Document.splice document.bytes 0 (Edit.ordered edits) with
  | error failure =>
    rw [spliced] at made
    cases made
  | ok bytes =>
    rw [spliced] at made
    cases decoded : String.fromUTF8? bytes with
    | none => simp [bind, Except.bind, decoded] at made
    | some text =>
      obtain rfl : text = after := by simpa [bind, Except.bind, decoded] using made
      rw [bytes_of_decoded decoded]

/-- A text changed by neat edits has a preamble only if it had one. -/
theorem has_of_render {document : Document} {edits : List Edit} {before after : String}
    (read : document.bytes = before.toUTF8) (neat : ∀ edit ∈ edits, Neat edit)
    (made : document.render edits = .ok after) (present : has after = true) : has before = true := by
  rw [has_iff_fenced] at present ⊢
  have patched := patched_of_splice
    (fun edit member => neat edit (mem_ordered_iff.1 member)) (Int.le_refl 0) (splice_of_render made)
  rw [slice_whole, read] at patched
  exact fenced_of_patched patched present

end Rendering

section Spans

variable {document : Document} {node : Tree}

theorem range_of_text (spelled : document.text node ≠ "") : node.start ≤ node.stop := by
  rcases Nat.lt_or_ge node.stop node.start with backwards | forwards
  · exfalso
    have nothing : document.bytes.extract node.start node.stop = ByteArray.empty := by
      rw [← ByteArray.size_eq_zero_iff, ByteArray.size_extract]
      omega
    apply spelled
    rw [Document.text, Document.textBetween, nothing]
    decide +kernel
  · exact forwards

theorem bytes_of_text {node : Tree} (spelled : document.text node ≠ "") :
    (document.bytes.extract node.start node.stop).data.toList = bytesOf (document.text node) := by
  cases decoded : String.fromUTF8? (document.bytes.extract node.start node.stop) with
  | none => simp [Document.text, Document.textBetween, decoded] at spelled
  | some text =>
    have own : document.text node = text := by simp [Document.text, Document.textBetween, decoded]
    rw [own, bytes_of_decoded decoded]
    rfl

theorem neat_insert {offset : Nat} {text : String} (marked : Marked (bytesOf text)) :
    Neat (.insert offset text) := ⟨Int.natCast_nonneg _, Int.le_refl _, marked⟩

theorem neat_replace {text : String} (spelled : document.text node ≠ "")
    (marked : Marked (bytesOf text)) : Neat (.replace node text) :=
  ⟨Int.natCast_nonneg _, Int.ofNat_le.2 (range_of_text spelled), marked⟩

theorem bytes_of_insert {after : String} {offset : Nat} {text : String}
    (made : document.render [.insert offset text] = .ok after) :
    bytesOf after = (document.bytes.extract 0 offset).data.toList ++
      (bytesOf text ++ (document.bytes.extract offset document.bytes.size).data.toList) := by
  have spliced := splice_of_render made
  have order : ¬(offset : Int) < 0 := by omega
  change (if (offset : Int) < 0 then _ else _) = _ at spliced
  rw [if_neg order] at spliced
  have whole := congrArg (·.data.toList) (Except.ok.inj spliced)
  simp only [ByteArray.data_append, Array.toList_append, List.append_assoc] at whole
  change (Document.slice document.bytes (0 : Nat) offset).data.toList ++
    (bytesOf text ++ (Document.slice document.bytes offset document.bytes.size).data.toList) =
      bytesOf after at whole
  rw [slice_natCast, slice_natCast] at whole
  exact whole.symm

theorem extract_append_extract_list (bytes : ByteArray) {first second third : Nat}
    (one : first ≤ second) (two : second ≤ third) :
    (bytes.extract first third).data.toList =
      (bytes.extract first second).data.toList ++ (bytes.extract second third).data.toList := by
  rw [← Array.toList_append, ← ByteArray.data_append, ByteArray.extract_append_extract,
    Nat.min_eq_left one, Nat.max_eq_right two]

end Spans

end Preamble

end ComponentGate
