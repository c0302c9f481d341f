import ComponentGate.Proofs.Preamble.Splitting

/-! Preambles in bytes. Whether a text begins with a preamble shows in its bytes already, since no byte of
a longer character looks like a dash or like a line feed. -/

namespace ComponentGate.Preamble

theorem isSome_untilClosing (content body : List Char) :
    (untilClosing (content ++ closing ++ body)).isSome = true := by
  induction content with
  | nil =>
    rw [List.nil_append, untilClosing_closing_append]
    rfl
  | cons c rest ih =>
    rw [List.cons_append, List.cons_append, untilClosing]
    split
    · rfl
    · rw [Option.isSome_map]
      exact ih

/-- A text has a preamble if and only if one line of dashes opens it and a later one closes it. -/
theorem has_iff (text : String) :
    has text = true ↔
      ∃ content body, text.toList = opening ++ content ++ closing ++ body := by
  constructor
  · intro present
    obtain ⟨⟨content, body⟩, found⟩ := Option.isSome_iff_exists.1 present
    exact ⟨content, body, eq_of_find found⟩
  · rintro ⟨content, body, whole⟩
    have parts : opening ++ content ++ closing ++ body = opening ++ (content ++ closing ++ body) := by
      simp only [List.append_assoc]
    rw [has, whole, parts, find?_opening_append]
    exact isSome_untilClosing content body

section Bytes

/-- The bytes of some characters. -/
def encoded (chars : List Char) : List UInt8 := chars.flatMap String.utf8EncodeChar

def bytesOf (text : String) : List UInt8 := text.toUTF8.data.toList

theorem bytesOf_eq_encoded (text : String) : bytesOf text = encoded text.toList := by
  rw [bytesOf, String.toUTF8_eq_toByteArray]
  conv =>
    lhs
    rw [← String.ofList_toList (s := text)]
  rw [String.toByteArray_ofList, List.utf8Encode, List.toList_data_toByteArray, encoded]

theorem encoded_append (first second : List Char) :
    encoded (first ++ second) = encoded first ++ encoded second :=
  List.flatMap_append

theorem utf8ByteSize_ofList (chars : List Char) :
    (String.ofList chars).utf8ByteSize = (encoded chars).length := by
  have bytes := congrArg List.length (bytesOf_eq_encoded (String.ofList chars))
  rw [String.toList_ofList] at bytes
  exact bytes

theorem length_encoded_cons (c : Char) (rest : List Char) :
    (encoded (c :: rest)).length = c.utf8Size + (encoded rest).length := by
  rw [encoded, List.flatMap_cons, List.length_append, String.length_utf8EncodeChar]
  rfl

theorem bytesOf_append (first second : String) :
    bytesOf (first ++ second) = bytesOf first ++ bytesOf second := by
  rw [bytesOf_eq_encoded, bytesOf_eq_encoded, bytesOf_eq_encoded, String.toList_append,
    encoded_append]

theorem bytesOf_injective : Function.Injective bytesOf := by
  intro first second same
  rw [bytesOf, bytesOf, Array.toList_inj] at same
  exact String.toByteArray_inj.1 (ByteArray.ext same)

theorem bytes_of_small {c : Char} (small : c.toNat ≤ 127) :
    String.utf8EncodeChar c = [UInt8.ofNat c.toNat] := by
  rw [String.utf8EncodeChar]
  exact if_pos small

/-- A character is one small byte, or all its bytes are large. -/
theorem bytes_of_char (c : Char) :
    (c.toNat ≤ 127 ∧ String.utf8EncodeChar c = [UInt8.ofNat c.toNat]) ∨
      ∀ byte ∈ String.utf8EncodeChar c, 128 ≤ byte.toNat := by
  by_cases small : c.toNat ≤ 127
  · left
    exact ⟨small, bytes_of_small small⟩
  · right
    have long : ¬c.val.toNat ≤ 127 := small
    intro byte member
    rw [String.utf8EncodeChar, if_neg long] at member
    split at member
    · simp only [List.mem_cons, List.not_mem_nil, or_false] at member
      rcases member with rfl | rfl <;> rw [UInt8.toNat_ofNat'] <;> omega
    split at member
    · simp only [List.mem_cons, List.not_mem_nil, or_false] at member
      rcases member with rfl | rfl | rfl <;> rw [UInt8.toNat_ofNat'] <;> omega
    · simp only [List.mem_cons, List.not_mem_nil, or_false] at member
      rcases member with rfl | rfl | rfl | rfl <;> rw [UInt8.toNat_ofNat'] <;> omega

variable {pattern chars : List Char} {content rest : List UInt8}

/-- Small characters in front of the bytes are in front of the text. -/
theorem exists_of_encoded_prefix (plain : ∀ c ∈ pattern, c.toNat ≤ 127)
    (begins : encoded chars = encoded pattern ++ rest) : ∃ behind, chars = pattern ++ behind := by
  induction pattern generalizing chars with
  | nil => exact ⟨chars, rfl⟩
  | cons c pattern ih =>
    have small := plain c List.mem_cons_self
    have own := bytes_of_small small
    cases chars with
    | nil => simp [encoded, own] at begins
    | cons d chars =>
      simp only [encoded, List.flatMap_cons, own, List.cons_append] at begins
      rcases bytes_of_char d with ⟨alike, single⟩ | large
      · rw [single, List.singleton_append, List.cons.injEq] at begins
        have codes : d.toNat = c.toNat := by
          have bytes := congrArg UInt8.toNat begins.1
          simp only [UInt8.toNat_ofNat'] at bytes
          omega
        obtain rfl : d = c := Char.ext (UInt32.toNat_inj.1 codes)
        obtain ⟨behind, rfl⟩ := ih (fun c member => plain c (List.mem_cons_of_mem _ member)) begins.2
        exact ⟨behind, rfl⟩
      · cases spelled : String.utf8EncodeChar d with
        | nil => exact absurd spelled String.utf8EncodeChar_ne_nil
        | cons byte more =>
          rw [spelled, List.cons_append, List.cons.injEq] at begins
          have big := large byte (by simp [spelled])
          rw [begins.1, UInt8.toNat_ofNat'] at big
          omega

/-- Small characters among the bytes are in the text. -/
theorem exists_of_encoded_infix {first : Char} (plain : ∀ c ∈ first :: pattern, c.toNat ≤ 127)
    (inside : encoded chars = content ++ (encoded (first :: pattern) ++ rest)) :
    ∃ before behind, chars = before ++ first :: pattern ++ behind := by
  induction chars generalizing content with
  | nil =>
    have own := String.utf8EncodeChar_ne_nil (c := first)
    simp [encoded, own] at inside
  | cons d chars ih =>
    have continues {content : List UInt8}
        (later : encoded chars = content ++ (encoded (first :: pattern) ++ rest)) :
        ∃ before behind, d :: chars = before ++ first :: pattern ++ behind := by
      obtain ⟨before, behind, rfl⟩ := ih later
      exact ⟨d :: before, behind, rfl⟩
    cases content with
    | nil =>
      obtain ⟨behind, whole⟩ := exists_of_encoded_prefix plain inside
      exact ⟨[], behind, whole⟩
    | cons byte content =>
      have own : String.utf8EncodeChar d ++ encoded chars =
          (byte :: content) ++ (encoded (first :: pattern) ++ rest) := inside
      rcases List.append_eq_append_iff.1 own with ⟨more, -, later⟩ | ⟨more, spelled, later⟩
      · exact continues later
      · cases more with
        | nil =>
          have whole : encoded chars = [] ++ (encoded (first :: pattern) ++ rest) := later.symm
          exact continues whole
        | cons head more =>
          -- The pattern would begin inside the character, whose bytes are all large.
          exfalso
          have small := plain first List.mem_cons_self
          have code := bytes_of_small small
          simp only [encoded, List.flatMap_cons, code, List.cons_append,
            List.cons.injEq] at later
          rcases bytes_of_char d with ⟨-, single⟩ | large
          · simp [single] at spelled
          · have big := large head (by simp [spelled])
            rw [← later.1, UInt8.toNat_ofNat'] at big
            omega

/-- Whether bytes begin like a preamble. -/
def Fenced (bytes : List UInt8) : Prop :=
  ∃ content rest, bytes = encoded opening ++ (content ++ (encoded closing ++ rest))

theorem has_iff_fenced (text : String) : has text = true ↔ Fenced (bytesOf text) := by
  have plainOpening : ∀ c ∈ opening, c.toNat ≤ 127 := by simp [opening]
  have plainClosing : ∀ c ∈ closing, c.toNat ≤ 127 := by simp [closing]
  rw [has_iff, bytesOf_eq_encoded]
  constructor
  · rintro ⟨content, body, whole⟩
    refine ⟨encoded content, encoded body, ?_⟩
    rw [whole]
    simp only [encoded_append, List.append_assoc]
  · rintro ⟨content, rest, bytes⟩
    obtain ⟨behind, whole⟩ := exists_of_encoded_prefix plainOpening bytes
    rw [whole, encoded_append, List.append_cancel_left_eq] at bytes
    obtain ⟨before, body, inside⟩ := exists_of_encoded_infix plainClosing bytes
    refine ⟨before, body, ?_⟩
    rw [whole, inside]
    simp only [List.append_assoc]
    rfl

end Bytes

end ComponentGate.Preamble
