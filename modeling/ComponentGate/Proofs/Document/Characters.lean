import ComponentGate.Proofs.Document.Lines
import Mathlib.Data.String.Basic

/-! Edits of characters. Where no edit splits a character, replacing ranges of bytes is replacing ranges of
characters; bytes that encode no text come out only where an edit begins or ends inside a character. -/

namespace ComponentGate

open Syntax Preamble Document

section Places

/-- The number of characters in front of an offset. -/
def characterAt (text : String) (offset : Nat) : Nat := String.Pos.Raw.offsetOfPos text ⟨offset⟩

variable {text : String} {offset start stop : Nat}

theorem characterAt_take {count : Nat} (within : count ≤ text.toList.length) :
    characterAt text (encoded (text.toList.take count)).length = count := by
  have place := String.offsetOfPos_of_valid (text.toList.take count) (text.toList.drop count)
  rw [List.take_append_drop, String.ofList_toList, List.length_take, Nat.min_eq_left within,
    ← String.utf8ByteSize_ofList, utf8ByteSize_ofList] at place
  exact place

theorem exists_characterAt (cut : Cuttable text offset) :
    (encoded (text.toList.take (characterAt text offset))).length = offset ∧
      characterAt text offset ≤ text.toList.length := by
  obtain ⟨count, place⟩ := cuttable_iff.1 cut
  have shorter : text.toList.take (min count text.toList.length) = text.toList.take count :=
    List.take_eq_take_min.symm
  rw [← shorter] at place
  have within : min count text.toList.length ≤ text.toList.length := Nat.min_le_right ..
  rw [place, characterAt_take within]
  exact ⟨rfl, within⟩

theorem characterAt_zero (text : String) : characterAt text 0 = 0 :=
  characterAt_take (Nat.zero_le text.toList.length)

theorem characterAt_size (text : String) : characterAt text text.toUTF8.size = text.toList.length := by
  have place := characterAt_take (Nat.le_refl text.toList.length)
  rw [List.take_length, ← bytesOf_eq_encoded] at place
  exact place

/-- What stands in front of an offset are the characters in front of it. -/
theorem take_bytesOf (cut : Cuttable text offset) :
    (bytesOf text).take offset = encoded (text.toList.take (characterAt text offset)) := by
  obtain ⟨place, -⟩ := exists_characterAt cut
  have parts : bytesOf text = encoded (text.toList.take (characterAt text offset)) ++
      encoded (text.toList.drop (characterAt text offset)) := by
    rw [← encoded_append, List.take_append_drop, bytesOf_eq_encoded]
  rw [parts, List.take_left' place]

theorem length_encoded_take_lt {chars : List Char} {count more : Nat} (fewer : count < more)
    (within : more ≤ chars.length) :
    (encoded (chars.take count)).length < (encoded (chars.take more)).length := by
  obtain ⟨extra, rfl⟩ := Nat.exists_eq_add_of_lt fewer
  have next : chars[count] :: chars.drop (count + 1) = chars.drop count := List.getElem_cons_drop (by omega)
  rw [Nat.add_assoc, List.take_add, ← next, List.take_succ_cons, encoded_append, List.length_append,
    length_encoded_cons]
  have size := Char.utf8Size_pos chars[count]
  omega

/-- Characters stand in the order of the offsets at which they begin. -/
theorem characterAt_le_iff (one : Cuttable text start) (two : Cuttable text stop) :
    characterAt text start ≤ characterAt text stop ↔ start ≤ stop := by
  obtain ⟨place, within⟩ := exists_characterAt one
  obtain ⟨place', within'⟩ := exists_characterAt two
  constructor
  · intro order
    rcases Nat.lt_or_eq_of_le order with before | same
    · have fewer := length_encoded_take_lt before within'
      omega
    · rw [same, place'] at place
      omega
  · intro order
    by_contra! back
    have fewer := length_encoded_take_lt back within
    omega

/-- What stands between two offsets are the characters between them. -/
theorem drop_take_bytesOf (one : Cuttable text start) (two : Cuttable text stop) (forward : start ≤ stop) :
    ((bytesOf text).take stop).drop start =
      encoded ((text.toList.take (characterAt text stop)).drop (characterAt text start)) := by
  have order := (characterAt_le_iff one two).2 forward
  have front : (encoded (text.toList.take (characterAt text start))).length = start :=
    (exists_characterAt one).1
  have parts := List.take_append_drop (characterAt text start)
    (text.toList.take (characterAt text stop))
  rw [List.take_take, Nat.min_eq_left order] at parts
  rw [take_bytesOf two, ← parts, encoded_append, List.drop_left' front, parts]

end Places

namespace Edit

/-- Whether an edit begins and ends at places where a text can be cut. -/
structure Seamless (text : String) (edit : Edit) : Prop where
  start_nonneg : 0 ≤ edit.start
  stop_nonneg : 0 ≤ edit.stop
  start : Cuttable text edit.start.toNat
  stop : Cuttable text edit.stop.toNat

instance (text : String) (edit : Edit) : Decidable (edit.Seamless text) :=
  decidable_of_iff (0 ≤ edit.start ∧ 0 ≤ edit.stop ∧
      Cuttable text edit.start.toNat ∧ Cuttable text edit.stop.toNat)
    ⟨fun seamless => ⟨seamless.1, seamless.2.1, seamless.2.2.1, seamless.2.2.2⟩,
      fun seamless => ⟨seamless.start_nonneg, seamless.stop_nonneg, seamless.start, seamless.stop⟩⟩

/-- The same replacement, its range counted in characters of a text. -/
def amongCharacters (text : String) (edit : Edit) : Edit :=
  ⟨characterAt text edit.start.toNat, characterAt text edit.stop.toNat, edit.text⟩

/-- Some characters with a range of them replaced. -/
def spliced (edit : Edit) (chars : List Char) : List Char :=
  chars.take edit.start.toNat ++ (edit.text.toList ++ chars.drop edit.stop.toNat)

section Characters

variable {text : String} {edit : Edit} {edits : List Edit} {chars : List Char}

/-- Edits behind some characters leave these as they are. -/
theorem take_foldr_spliced {count : Nat} (within : count ≤ chars.length)
    (behind : ∀ edit ∈ edits, (count : Int) ≤ edit.start) :
    (edits.foldr spliced chars).take count = chars.take count := by
  induction edits with
  | nil => rfl
  | cons edit rest ih =>
    obtain ⟨own, others⟩ := List.forall_mem_cons.1 behind
    have kept := ih others
    have long : count ≤ (rest.foldr spliced chars).length := by
      have lengths := congrArg List.length kept
      rw [List.length_take, List.length_take] at lengths
      omega
    rw [List.foldr_cons, spliced, List.take_append_of_le_length (by rw [List.length_take]; omega),
      List.take_take, Nat.min_eq_left (by omega), kept]

/-- Edits of a text are applied in the order of the characters that they replace. -/
theorem ordered_amongCharacters (seamless : ∀ edit ∈ edits, edit.Seamless text) :
    ordered (edits.map (amongCharacters text)) = (ordered edits).map (amongCharacters text) := by
  rw [ordered_eq, ordered_eq]
  refine (List.map_insertionSort _ _ _ edits fun one first two second => ?_).symm
  obtain ⟨nonneg, nonneg', start, stop⟩ := seamless one first
  obtain ⟨nonneg₂, nonneg₂', start₂, stop₂⟩ := seamless two second
  have starts := characterAt_le_iff start start₂
  have starts' := characterAt_le_iff start₂ start
  have stops := characterAt_le_iff stop stop₂
  rw [precedes_iff, precedes_iff]
  simp only [amongCharacters]
  omega

/-- Applied from `reached` on, edits that split no character leave what splicing characters leaves. -/
theorem splice_seamless {reached : Nat} (seamless : ∀ edit ∈ edits, edit.Seamless text)
    (rising : edits.Pairwise fun first second => first.start ≤ second.start) (laid : Laid edits)
    (cut : Cuttable text reached) (behind : ∀ edit ∈ edits, (reached : Int) ≤ edit.start) :
    ∃ out, Document.splice text.toUTF8 reached edits = .ok out ∧
      out.data.toList = encoded (((edits.map (amongCharacters text)).foldr spliced text.toList).drop
        (characterAt text reached)) := by
  induction edits generalizing reached with
  | nil =>
    refine ⟨_, rfl, ?_⟩
    rw [toList_slice (by omega) (Int.ofNat_le.2 cut.le_size)]
    have whole := drop_take_bytesOf cut cuttable_size cut.le_size
    rw [characterAt_size, List.take_length] at whole
    exact whole
  | cons edit rest ih =>
    obtain ⟨⟨nonneg, nonneg', start, stop⟩, others⟩ := List.forall_mem_cons.1 seamless
    obtain ⟨ahead, rising⟩ := List.pairwise_cons.1 rising
    obtain ⟨later, laid⟩ := List.pairwise_cons.1 laid
    have order := behind edit List.mem_cons_self
    have place : (edit.stop.toNat : Int) = edit.stop := by omega
    obtain ⟨tail, made, same⟩ := ih others rising laid stop fun other member => place.symm ▸ later other member
    rw [place] at made
    refine ⟨_, splice_cons_eq_ok_iff.2 ⟨order, tail, made, rfl⟩, ?_⟩
    have front : ((rest.map (amongCharacters text)).foldr spliced text.toList).take
          (characterAt text edit.start.toNat) =
        text.toList.take (characterAt text edit.start.toNat) := by
      refine take_foldr_spliced (exists_characterAt start).2 fun placed member => ?_
      obtain ⟨other, listed, rfl⟩ := List.mem_map.1 member
      have lower := ahead other listed
      exact Int.ofNat_le.2 ((characterAt_le_iff start (others other listed).start).2 (by omega))
    have before : characterAt text reached ≤
        (text.toList.take (characterAt text edit.start.toNat)).length := by
      rw [List.length_take, Nat.min_eq_left (exists_characterAt start).2]
      exact (characterAt_le_iff cut start).2 (by omega)
    have first : (amongCharacters text edit).start.toNat = characterAt text edit.start.toNat := rfl
    have last : (amongCharacters text edit).stop.toNat = characterAt text edit.stop.toNat := rfl
    rw [List.map_cons, List.foldr_cons, spliced, first, last, front,
      List.drop_append_of_le_length before, encoded_append, encoded_append,
      ← drop_take_bytesOf cut start (by omega), ← same, ByteArray.data_append, ByteArray.data_append,
      Array.toList_append, Array.toList_append, toList_slice (by omega) order, List.append_assoc,
      ← bytesOf_eq_encoded]
    rfl

/-- The edited text of edits that split no character. -/
theorem exists_render_of_seamless {root : Tree} {out : ByteArray}
    (seamless : ∀ edit ∈ edits, edit.Seamless text)
    (made : Document.splice text.toUTF8 0 (ordered edits) = .ok out) :
    ∃ after, Document.render ⟨text.toUTF8, root⟩ edits = .ok after ∧
      after.toList = (ordered (edits.map (amongCharacters text))).foldr spliced text.toList := by
  have rising := rising_ordered edits
  have kept : ∀ edit ∈ ordered edits, edit.Seamless text :=
    fun edit member => seamless edit (mem_ordered_iff.1 member)
  obtain ⟨laid, behind⟩ := laid_of_splice rising made
  obtain ⟨out', made', bytes⟩ := splice_seamless kept rising laid cuttable_zero behind
  rw [characterAt_zero, List.drop_zero, ← ordered_amongCharacters seamless] at bytes
  generalize (ordered (edits.map (amongCharacters text))).foldr spliced text.toList = chars at bytes ⊢
  refine ⟨String.ofList chars, ?_, String.toList_ofList⟩
  refine ((render_of_splice made').1 _).2 (ByteArray.ext (Array.toList_inj.1 ?_))
  rw [bytes]
  have spelled := bytesOf_eq_encoded (String.ofList chars)
  rwa [String.toList_ofList] at spelled

/-- Bytes that encode no text have a split character in them. -/
theorem exists_halves_of_undecodable {root : Tree}
    (undecodable : Document.render ⟨text.toUTF8, root⟩ edits = .error .undecodable) :
    ∃ edit ∈ edits, Halves text edit.start ∨ Halves text edit.stop := by
  by_contra! whole
  cases made : Document.splice text.toUTF8 0 (ordered edits) with
  | error failure =>
    obtain ⟨offset, reached, rfl⟩ := overlap_of_splice made
    rw [render_of_splice_error made] at undecodable
    cases undecodable
  | ok out =>
    have valid : out.IsValidUTF8 :=
      isValid_splice (fun edit member => whole edit (mem_ordered_iff.1 member))
        (not_halves_of_cuttable (Int.le_refl 0) cuttable_zero) made
    exact (render_of_splice made).2.1.1 undecodable (String.fromUTF8 out valid) rfl

end Characters

/-- Where no edit begins or ends inside a character, and none is refused because it overlaps with another one,
a text comes out, and it is the one with the same replacements at the same places among its characters. Bytes
that encode no text come out only where an edit begins or ends inside a character. -/
theorem render_splices_characters (text : String) (root : Tree) (edits : List Edit) :
    ((∀ edit ∈ edits, edit.Seamless text) →
      (∀ offset reached,
        Document.render ⟨text.toUTF8, root⟩ edits ≠ .error (.overlap offset reached)) →
      ∃ after, Document.render ⟨text.toUTF8, root⟩ edits = .ok after ∧
        after.toList = (ordered (edits.map (amongCharacters text))).foldr spliced text.toList) ∧
    ((∀ edit ∈ edits, edit.Fits text.toUTF8.size) →
      ((∃ offset reached,
        Document.render ⟨text.toUTF8, root⟩ edits = .error (.overlap offset reached)) ↔
          Clashing edits)) ∧
    (Document.render ⟨text.toUTF8, root⟩ edits = .error .undecodable →
      ∃ edit ∈ edits, Halves text edit.start ∨ Halves text edit.stop) := by
  refine ⟨fun seamless clear => ?_, fun fits => overlap_iff_clashing fits, exists_halves_of_undecodable⟩
  cases made : Document.splice text.toUTF8 0 (ordered edits) with
  | error failure =>
    obtain ⟨offset, reached, rfl⟩ := overlap_of_splice made
    exact absurd (render_of_splice_error made) (clear offset reached)
  | ok out => exact exists_render_of_seamless seamless made

/-- Edits between characters of one to four bytes, not recorded in their order. -/
def mixedEdits : List Edit := [insert 11 "!", ⟨6, 10, "日本"⟩, insert 3 "ü", ⟨1, 3, "x"⟩]

theorem mixedEdits_splice_characters :
    (∀ edit ∈ mixedEdits, edit.Seamless "aé€😀b" ∧ edit.Fits "aé€😀b".toUTF8.size) ∧
      ¬Clashing mixedEdits ∧
      Document.render ⟨"aé€😀b".toUTF8, default⟩ mixedEdits = .ok "axü€日本b!" ∧
      (ordered (mixedEdits.map (amongCharacters "aé€😀b"))).foldr spliced "aé€😀b".toList =
        "axü€日本b!".toList ∧
      Document.render ⟨"é".toUTF8, default⟩ [delete 0 1] = .error .undecodable ∧ Halves "é" 1 := by
  have suited : ∀ edit ∈ mixedEdits, edit.Seamless "aé€😀b" ∧ edit.Fits "aé€😀b".toUTF8.size := by
    decide +kernel
  have rendered : Document.render ⟨"aé€😀b".toUTF8, default⟩ mixedEdits = .ok "axü€日本b!" := by
    decide +kernel
  have undecodable : Document.render ⟨"é".toUTF8, default⟩ [delete 0 1] = .error .undecodable := by
    decide +kernel
  have clear (offset reached : Int) :
      Document.render ⟨"aé€😀b".toUTF8, default⟩ mixedEdits ≠ .error (.overlap offset reached) := by
    rw [rendered]
    nofun
  obtain ⟨characters, clashes, -⟩ := render_splices_characters "aé€😀b" default mixedEdits
  obtain ⟨after, made, same⟩ := characters (fun edit member => (suited edit member).1) clear
  obtain ⟨-, -, halved⟩ := render_splices_characters "é" default [delete 0 1]
  obtain rfl : "axü€日本b!" = after := Except.ok.inj (rendered.symm.trans made)
  refine ⟨suited, fun clash => ?_, rendered, same.symm, undecodable, ?_⟩
  · obtain ⟨offset, reached, refused⟩ := (clashes fun edit member => (suited edit member).2).2 clash
    exact clear offset reached refused
  · obtain ⟨edit, member, inside⟩ := halved undecodable
    obtain rfl := List.mem_singleton.1 member
    exact inside.resolve_left (not_halves_of_cuttable (Int.le_refl 0) cuttable_zero)

end Edit

end ComponentGate
