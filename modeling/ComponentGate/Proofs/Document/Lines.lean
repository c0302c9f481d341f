import ComponentGate.Proofs.Document.Turns

/-! Lines and characters of a document. Removing a statement takes blanks along, up to where lines begin
and end; edits that split no character of the text leave a text behind. -/

namespace ComponentGate

open Syntax Preamble

namespace Document

/-- The bytes of a document. -/
def content (document : Document) : List UInt8 := document.bytes.data.toList

section Lines

variable {document : Document}

theorem byteAt_eq (offset : Nat) : document.byteAt? offset = document.content[offset]? := by
  rw [byteAt?]
  split
  · rename_i inside
    exact (List.getElem?_eq_getElem (l := document.content) inside).symm
  · rename_i outside
    exact (List.getElem?_eq_none (l := document.content) (Nat.le_of_not_lt outside)).symm

theorem bytesFrom_eq (start count : Nat) :
    document.bytesFrom start count = (document.content.drop start).take count := by
  have shifted : document.bytesFrom start count =
      (List.range' start count).filterMap fun offset => document.content[offset]? := by
    rw [List.range'_eq_map_range, List.filterMap_map]
    exact List.filterMap_congr fun step _ => byteAt_eq (start + step)
  rw [shifted, List.filterMap_eq_flatMap_toList, Edit.flatMap_getElem_range']

theorem isBlank_of_isBlankBetween {start stop offset : Nat} {byte : UInt8}
    (blank : document.isBlankBetween start stop = true) (behind : start ≤ offset)
    (before : offset < stop) (here : document.content[offset]? = some byte) :
    isBlankByte byte = true := by
  rw [isBlankBetween, List.all_eq_true, bytesFrom_eq] at blank
  apply blank
  apply List.mem_of_getElem? (i := offset - start)
  rw [List.getElem?_take_of_lt (by omega), List.getElem?_drop, Nat.add_sub_cancel' behind]
  exact here

theorem lineStart_le (offset : Nat) : document.lineStart offset ≤ offset := by
  induction offset with
  | zero => exact Nat.le_refl 0
  | succ offset ih =>
    rw [lineStart]
    split <;> omega

/-- A line begins with the text, or behind a line feed. -/
theorem lineStart_opens (offset : Nat) :
    document.lineStart offset = 0 ∨
      ∃ before, document.lineStart offset = before + 1 ∧
        document.content[before]? = some lineFeed := by
  induction offset with
  | zero => exact .inl rfl
  | succ offset ih =>
    rw [lineStart]
    split
    · rename_i ends
      exact .inr ⟨offset, rfl, by simpa [byteAt_eq] using ends⟩
    · exact ih

theorem lineFeedFrom_eq (offset : Nat) :
    document.lineFeedFrom offset =
      ((document.content.drop offset).findIdx? (· == lineFeed)).map (offset + ·) := by
  have rest : document.bytesFrom offset (document.bytes.size - offset) =
      document.content.drop offset := by
    rw [bytesFrom_eq]
    exact List.take_of_length_le (by rw [List.length_drop]; exact Nat.le_refl _)
  rw [lineFeedFrom, rest]

/-- What ends a line is the first line feed on it. -/
theorem of_lineFeedFrom {offset lineEnd : Nat} (found : document.lineFeedFrom offset = some lineEnd) :
    offset ≤ lineEnd ∧ document.content[lineEnd]? = some lineFeed ∧
      ∀ other, offset ≤ other → document.content[other]? = some lineFeed → lineEnd ≤ other := by
  rw [lineFeedFrom_eq, Option.map_eq_some_iff] at found
  obtain ⟨step, place, rfl⟩ := found
  obtain ⟨inside, here, first⟩ := List.findIdx?_eq_some_iff_getElem.1 place
  refine ⟨Nat.le_add_right _ _, ?_, ?_⟩
  · rw [← List.getElem?_drop, List.getElem?_eq_getElem inside, beq_iff_eq.1 here]
  · intro other behind there
    by_contra! earlier
    apply first (other - offset) (by omega)
    have same : (document.content.drop offset)[other - offset]? = some lineFeed := by
      rw [List.getElem?_drop, Nat.add_sub_cancel' behind, there]
    rw [beq_iff_eq]
    exact Option.some.inj ((List.getElem?_eq_getElem _).symm.trans same)

theorem of_lineFeedFrom_eq_none {offset other : Nat} (none : document.lineFeedFrom offset = none)
    (behind : offset ≤ other) : document.content[other]? ≠ some lineFeed := by
  rw [lineFeedFrom_eq, Option.map_eq_none_iff, List.findIdx?_eq_none_iff] at none
  intro there
  have member : lineFeed ∈ document.content.drop offset := by
    apply List.mem_of_getElem? (i := other - offset)
    rw [List.getElem?_drop, Nat.add_sub_cancel' behind, there]
  simpa using none lineFeed member

/-- Where the removal of a statement begins. -/
def clearedFrom (document : Document) (tree : Tree) : Nat :=
  let lineStart := document.lineStart tree.start
  if document.isBlankBetween lineStart tree.start then lineStart else tree.start

/-- Where the removal of a statement ends. -/
def clearedTo (document : Document) (tree : Tree) : Nat :=
  match document.lineFeedFrom tree.stop with
  | some lineEnd => if document.isBlankBetween tree.stop lineEnd then lineEnd + 1 else tree.stop
  | none =>
    if document.isBlankBetween tree.stop document.bytes.size then document.bytes.size else tree.stop

theorem removeStatement_eq (tree : Tree) :
    document.removeStatement tree =
      .delete (document.clearedFrom tree) (document.clearedTo tree) := by
  rw [removeStatement, clearedFrom, clearedTo]
  cases document.lineFeedFrom tree.stop with
  | none =>
    dsimp only
    split <;> split <;> rfl
  | some lineEnd =>
    dsimp only
    split <;> split <;> rfl

theorem written_removeStatement (tree : Tree) : (document.removeStatement tree).written = [] := by
  rw [removeStatement_eq]
  rfl

section Cleared

variable {tree : Tree}

theorem clearedFrom_le (document : Document) (tree : Tree) :
    document.clearedFrom tree ≤ tree.start := by
  rw [clearedFrom]
  split
  · exact lineStart_le _
  · exact Nat.le_refl _

theorem isBlank_of_clearedFrom {offset : Nat} {byte : UInt8}
    (behind : document.clearedFrom tree ≤ offset) (before : offset < tree.start)
    (here : document.content[offset]? = some byte) : isBlankByte byte = true := by
  rw [clearedFrom] at behind
  split at behind
  · rename_i blank
    exact isBlank_of_isBlankBetween blank behind before here
  · omega

/-- Where no line begins nothing in front of the statement is removed. -/
theorem clearedFrom_opens (document : Document) (tree : Tree) :
    document.clearedFrom tree = tree.start ∨ document.clearedFrom tree = 0 ∨
      ∃ before, document.clearedFrom tree = before + 1 ∧
        document.content[before]? = some lineFeed := by
  rw [clearedFrom]
  split
  · exact .inr (lineStart_opens _)
  · exact .inl rfl

theorem le_clearedTo (within : tree.stop ≤ document.bytes.size) :
    tree.stop ≤ document.clearedTo tree := by
  rw [clearedTo]
  split
  · rename_i found
    have behind := (of_lineFeedFrom found).1
    split <;> omega
  · split <;> omega

theorem clearedTo_le (within : tree.stop ≤ document.bytes.size) :
    document.clearedTo tree ≤ document.bytes.size := by
  rw [clearedTo]
  split
  · rename_i lineEnd found
    have inside : lineEnd < document.bytes.size := by
      by_contra outside
      have here := (of_lineFeedFrom found).2.1
      rw [List.getElem?_eq_none (l := document.content) (Nat.le_of_not_lt outside)] at here
      cases here
    split <;> omega
  · split <;> omega

theorem isBlank_of_clearedTo {offset : Nat} {byte : UInt8} (behind : tree.stop ≤ offset)
    (before : offset < document.clearedTo tree) (here : document.content[offset]? = some byte) :
    isBlankByte byte = true := by
  rw [clearedTo] at before
  split at before
  · rename_i lineEnd found
    split at before
    · rename_i blank
      rcases Nat.lt_or_ge offset lineEnd with inside | last
      · exact isBlank_of_isBlankBetween blank behind inside here
      · obtain rfl : offset = lineEnd := by omega
        rw [(of_lineFeedFrom found).2.1] at here
        obtain rfl := Option.some.inj here
        rfl
    · omega
  · split at before
    · rename_i blank
      exact isBlank_of_isBlankBetween blank behind before here
    · omega

/-- Where no line ends nothing behind the statement is removed. -/
theorem clearedTo_closes (document : Document) (tree : Tree) :
    document.clearedTo tree = tree.stop ∨ document.clearedTo tree = document.bytes.size ∨
      ∃ before, document.clearedTo tree = before + 1 ∧
        document.content[before]? = some lineFeed := by
  rw [clearedTo]
  split
  · rename_i lineEnd found
    split
    · exact .inr (.inr ⟨lineEnd, rfl, (of_lineFeedFrom found).2.1⟩)
    · exact .inl rfl
  · split
    · exact .inr (.inl rfl)
    · exact .inl rfl

/-- A removal goes no further than the line on which the statement ends. -/
theorem clearedTo_le_of_lineFeed {offset : Nat} (behind : tree.stop ≤ offset)
    (here : document.content[offset]? = some lineFeed) : document.clearedTo tree ≤ offset + 1 := by
  rw [clearedTo]
  split
  · rename_i lineEnd found
    have first := (of_lineFeedFrom found).2.2 offset behind here
    split <;> omega
  · rename_i none
    exact absurd here (of_lineFeedFrom_eq_none none behind)

end Cleared

end Lines

section Characters

/-- Whether a text can be cut at an offset without splitting a character. -/
def Cuttable (text : String) (offset : Nat) : Prop := (String.Pos.Raw.mk offset).IsValid text

instance (text : String) (offset : Nat) : Decidable (Cuttable text offset) :=
  inferInstanceAs (Decidable (String.Pos.Raw.IsValid text ⟨offset⟩))

variable {text : String}

theorem cuttable_zero : Cuttable text 0 := String.Pos.Raw.isValid_zero

theorem cuttable_size : Cuttable text text.toUTF8.size := String.Pos.Raw.isValid_rawEndPos

theorem Cuttable.le_size {offset : Nat} (cut : Cuttable text offset) : offset ≤ text.toUTF8.size :=
  String.Pos.Raw.le_iff.1 cut.le_rawEndPos

theorem cuttable_iff {offset : Nat} :
    Cuttable text offset ↔ ∃ count, offset = (encoded (text.toList.take count)).length := by
  rw [Cuttable, String.Pos.Raw.isValid_iff_exists_take_toList]
  simp only [utf8ByteSize_ofList]

/-- Behind a line feed another character begins. -/
theorem cuttable_succ_of_lineFeed {offset : Nat} (here : (bytesOf text)[offset]? = some lineFeed) :
    Cuttable text (offset + 1) := by
  rw [bytesOf_eq_encoded] at here
  rw [cuttable_iff]
  generalize text.toList = chars at here ⊢
  induction chars generalizing offset with
  | nil => simp [encoded] at here
  | cons c rest ih =>
    have parts : encoded (c :: rest) = String.utf8EncodeChar c ++ encoded rest := rfl
    rw [parts] at here
    rcases Nat.lt_or_ge offset (String.utf8EncodeChar c).length with inside | behind
    · rw [List.getElem?_append_left inside] at here
      refine ⟨1, ?_⟩
      rcases bytes_of_char c with ⟨-, single⟩ | large
      · rw [single, List.length_singleton] at inside
        simp [encoded, single, Nat.lt_one_iff.1 inside]
      · have big := large lineFeed (List.mem_of_getElem? here)
        exact absurd big (by decide)
    · rw [List.getElem?_append_right behind] at here
      obtain ⟨count, place⟩ := ih here
      refine ⟨count + 1, ?_⟩
      have whole : encoded ((c :: rest).take (count + 1)) =
          String.utf8EncodeChar c ++ encoded (rest.take count) := rfl
      rw [whole, List.length_append]
      omega

theorem isValid_extract {start stop : Nat} (one : Cuttable text start) (two : Cuttable text stop)
    (forward : start ≤ stop) : (text.toUTF8.extract start stop).IsValidUTF8 :=
  (String.Pos.Raw.isValidUTF8_extract_iff ⟨start⟩ ⟨stop⟩ forward two.le_rawEndPos).2 (.inr ⟨one, two⟩)

/-- The text between two places at which the document can be cut. -/
theorem bytesOf_textBetween_of_cuttable {document : Document} {start stop : Nat}
    (read : document.bytes = text.toUTF8) (one : Cuttable text start) (two : Cuttable text stop)
    (forward : start ≤ stop) :
    bytesOf (document.textBetween start stop) = (document.content.take stop).drop start := by
  have valid := isValid_extract one two forward
  have decoded : String.fromUTF8? (text.toUTF8.extract start stop) =
      some (String.fromUTF8 _ valid) := dif_pos valid
  rw [textBetween, read, decoded, content, read, List.drop_take, ← List.extract_eq_take_drop,
    ← Array.toList_extract, ← ByteArray.data_extract]
  rfl

theorem bytesOf_text {document : Document} {tree : Tree} (read : document.bytes = text.toUTF8)
    (one : Cuttable text tree.start) (two : Cuttable text tree.stop)
    (forward : tree.start ≤ tree.stop) :
    bytesOf (document.text tree) = (document.content.take tree.stop).drop tree.start :=
  bytesOf_textBetween_of_cuttable read one two forward

/-- A text can be cut where its characters begin. -/
theorem textBetween_append {document : Document} {start middle stop : Nat}
    (read : document.bytes = text.toUTF8) (one : Cuttable text start) (two : Cuttable text middle)
    (three : Cuttable text stop) (first : start ≤ middle) (second : middle ≤ stop) :
    document.textBetween start stop =
      document.textBetween start middle ++ document.textBetween middle stop := by
  apply bytesOf_injective
  rw [bytesOf_append, bytesOf_textBetween_of_cuttable read one three (first.trans second),
    bytesOf_textBetween_of_cuttable read one two first,
    bytesOf_textBetween_of_cuttable read two three second]
  have whole := List.take_append_drop middle (document.content.take stop)
  rw [List.take_take, Nat.min_eq_left second] at whole
  have short : start ≤ (document.content.take middle).length := by
    rw [List.length_take, content, Array.length_toList, Nat.le_min, read]
    exact ⟨first, first.trans two.le_size⟩
  calc (document.content.take stop).drop start
    _ = (document.content.take middle ++ (document.content.take stop).drop middle).drop start := by
      rw [whole]
    _ = (document.content.take middle).drop start ++ (document.content.take stop).drop middle :=
      List.drop_append_of_le_length short

/-- Whether an offset, taken as a place in the bytes of a text, lies inside a character. -/
def Halves (text : String) (offset : Int) : Prop := ¬Cuttable text (slice.place text.toUTF8 offset)

theorem not_halves_of_cuttable {offset : Int} (nonneg : 0 ≤ offset) (cut : Cuttable text offset.toNat) :
    ¬Halves text offset := by
  rw [Halves, not_not, place_of_nonneg _ nonneg, Nat.min_eq_left cut.le_size]
  exact cut

theorem not_halves_size (text : String) : ¬Halves text text.toUTF8.size :=
  not_halves_of_cuttable (Int.natCast_nonneg _) cuttable_size

theorem isValid_slice {start stop : Int} (one : ¬Halves text start) (two : ¬Halves text stop) :
    (slice text.toUTF8 start stop).IsValidUTF8 := by
  rw [slice]
  rcases Nat.le_total (slice.place text.toUTF8 start) (slice.place text.toUTF8 stop) with forward | back
  · exact isValid_extract (not_not.1 one) (not_not.1 two) forward
  · rw [ByteArray.extract_eq_empty_iff.2 (by omega)]
    exact ByteArray.isValidUTF8_empty

/-- Edits that split no character put pieces of text together. -/
theorem isValid_splice {reached : Int} {edits : List Edit} {out : ByteArray}
    (whole : ∀ edit ∈ edits, ¬Halves text edit.start ∧ ¬Halves text edit.stop)
    (cut : ¬Halves text reached) (made : splice text.toUTF8 reached edits = .ok out) :
    out.IsValidUTF8 := by
  induction edits generalizing reached out with
  | nil =>
    obtain rfl := Except.ok.inj made
    exact isValid_slice cut (not_halves_size text)
  | cons edit rest ih =>
    obtain ⟨⟨start, stop⟩, others⟩ := List.forall_mem_cons.1 whole
    obtain ⟨-, tail, behind, rfl⟩ := splice_cons_eq_ok_iff.1 made
    exact ((isValid_slice cut start).append edit.text.isValidUTF8).append (ih others stop behind)

/-- Edits that neither clash nor split a character leave a text behind. -/
theorem render_of_cuttable {document : Document} {edits : List Edit}
    (read : document.bytes = text.toUTF8) (fits : ∀ edit ∈ edits, edit.Fits document.bytes.size)
    (clear : ¬Edit.Clashing edits)
    (cuts : ∀ edit ∈ edits, Cuttable text edit.start.toNat ∧ Cuttable text edit.stop.toNat) :
    ∃ after, document.render edits = .ok after ∧
      bytesOf after = Edit.cells document.content edits 0 (document.bytes.size + 1) := by
  obtain ⟨out, made, cells⟩ := Edit.splice_ordered fits clear
  have valid : out.IsValidUTF8 := by
    rw [read] at made
    refine isValid_splice (fun edit member => ?_) (not_halves_of_cuttable (Int.le_refl 0) cuttable_zero) made
    have listed := (Edit.perm_ordered edits).mem_iff.1 member
    obtain ⟨nonneg, forward, -⟩ := fits edit listed
    exact ⟨not_halves_of_cuttable nonneg (cuts edit listed).1,
      not_halves_of_cuttable (by omega) (cuts edit listed).2⟩
  exact ⟨String.fromUTF8 out valid, ((Edit.render_of_splice made).1 _).2 rfl, cells⟩

end Characters

end Document

end ComponentGate
