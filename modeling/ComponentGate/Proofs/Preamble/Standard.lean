import Mathlib.Data.List.Chain
import Mathlib.Tactic.SplitIfs
import ComponentGate.Preamble.Standard
import ComponentGate.Proofs.Preamble.Splitting
import ComponentGate.Proofs.Text.Removal
import ComponentGate.Proofs.Text.Spacing

/-! The preamble of a source that came without one. It is read back as it was written, whatever the title:
the title is made evenly spaced and short, and then it is one already. -/

namespace ComponentGate

open Text

section Lines

variable {line last rest : List Char} {front : List (List Char)}

theorem Text.isBlank_of_isLineEnd {c : Char} (ends : isLineEnd c = true) : isBlank c = true := by
  simp only [isLineEnd, isBlank, Bool.or_eq_true, Bool.and_eq_true, decide_eq_true_eq,
    beq_iff_eq] at ends ⊢
  omega

/-- Lines without any end of a line in them. -/
def Text.IsLine (line : List Char) : Prop := ∀ c ∈ line, isLineEnd c = false

theorem Text.lines_cons {c : Char} (inside : isLineEnd c = false) (lines : List (List Char))
    (behind : Text.lines rest = line :: lines) : Text.lines (c :: rest) = (c :: line) :: lines := by
  rw [Text.lines, if_neg (by simp [inside]), behind]
  rintro _ rfl -
  exact absurd inside (by decide)

theorem Text.lines_append (isLine : IsLine line) (rest : List Char) :
    Text.lines (line ++ '\n' :: rest) = line :: Text.lines rest := by
  induction line with
  | nil => simp [Text.lines, isLineEnd]
  | cons c line ih =>
    obtain ⟨inside, below⟩ := List.forall_mem_cons.1 isLine
    exact lines_cons inside _ (ih below)

theorem Text.lines_last (isLine : IsLine last) (filled : last ≠ []) : Text.lines last = [last] := by
  induction last with
  | nil => exact absurd rfl filled
  | cons c last ih =>
    obtain ⟨inside, below⟩ := List.forall_mem_cons.1 isLine
    cases last with
    | nil => simp [Text.lines, inside]
    | cons next last => exact lines_cons inside _ (ih below (List.cons_ne_nil next last))

/-- A text of lines is read as these lines. -/
theorem Text.lines_flatMap (areLines : ∀ line ∈ front, IsLine line) (isLine : IsLine last)
    (filled : last ≠ []) :
    Text.lines (front.flatMap (· ++ ['\n']) ++ last) = front ++ [last] := by
  induction front with
  | nil => exact lines_last isLine filled
  | cons line front ih =>
    obtain ⟨first, others⟩ := List.forall_mem_cons.1 areLines
    rw [List.flatMap_cons, List.append_assoc, List.append_assoc, List.singleton_append,
      lines_append first, ih others, List.cons_append]

end Lines

namespace Date

/-- A number in decimal digits of a fixed count. -/
structure IsNumeral (width number : Nat) (digits : List Char) : Prop where
  length_eq : digits.length = width
  areDigits : ∀ c ∈ digits, c.isDigit = true
  value : Nat.ofDigitChars 10 digits 0 = number

/-- Four digits for the year, two for the month and two for the day, with dashes between. -/
def IsIso (date : Date) (text : List Char) : Prop :=
  ∃ year month day, text = year ++ '-' :: (month ++ '-' :: day) ∧ IsNumeral 4 date.year year ∧
    IsNumeral 2 date.month month ∧ IsNumeral 2 date.day day

theorem isNumeral_padded (fits : (Nat.toDigits 10 number).length ≤ width) :
    IsNumeral width number (padded width number).toList := by
  rw [padded, String.toList_ofList]
  constructor
  case length_eq =>
    rw [List.length_append, List.length_replicate]
    omega
  case areDigits =>
    intro c member
    rcases List.mem_append.1 member with zero | digit
    · rw [List.eq_of_mem_replicate zero]
      decide
    · exact Nat.isDigit_of_mem_toDigits (by decide) (by decide) digit
  case value =>
    rw [Nat.ofDigitChars_append, Nat.ofDigitChars_replicate_zero, Nat.mul_zero]
    exact Nat.ofDigitChars_toDigits (by decide) (by decide)

theorem daysInMonth_le (year month : Nat) : daysInMonth year month ≤ 31 := by
  unfold daysInMonth
  split
  · split_ifs <;> decide
  all_goals decide

theorem isIso_toText (date : Date) : date.IsIso date.toText.toList := by
  have days := date.day_range.2.trans (daysInMonth_le date.year date.month)
  have ofYear : (Nat.toDigits 10 date.year).length ≤ 4 :=
    (Nat.length_toDigits_le_iff (by decide) (by decide)).2 (Nat.lt_succ_of_le date.year_range.2)
  have ofMonth : (Nat.toDigits 10 date.month).length ≤ 2 :=
    (Nat.length_toDigits_le_iff (by decide) (by decide)).2 (date.month_range.2.trans_lt (by decide))
  have ofDay : (Nat.toDigits 10 date.day).length ≤ 2 :=
    (Nat.length_toDigits_le_iff (by decide) (by decide)).2 (days.trans_lt (by decide))
  refine ⟨_, _, _, ?_, isNumeral_padded ofYear, isNumeral_padded ofMonth, isNumeral_padded ofDay⟩
  simp [toText, toString]

theorem isLine_digits (areDigits : ∀ c ∈ digits, c.isDigit = true) : IsLine digits := by
  intro c member
  have bounds : 48 ≤ c.toNat ∧ c.toNat ≤ 57 := by
    simpa [Char.isDigit, UInt32.le_iff_toNat_le] using areDigits c member
  rw [← Bool.not_eq_true]
  simp only [isLineEnd, Bool.or_eq_true, Bool.and_eq_true, decide_eq_true_eq, beq_iff_eq]
  omega

theorem IsIso.isLine {date : Date} (isIso : date.IsIso text) : IsLine text := by
  obtain ⟨year, month, day, rfl, years, months, days⟩ := isIso
  have dash : isLineEnd '-' = false := by decide
  have parts : ∀ c ∈ year ++ '-' :: (month ++ '-' :: day),
      c ∈ year ∨ c = '-' ∨ c ∈ month ∨ c = '-' ∨ c ∈ day := by simp
  intro c member
  rcases parts c member with inYear | rfl | inMonth | rfl | inDay
  · exact isLine_digits years.areDigits c inYear
  · exact dash
  · exact isLine_digits months.areDigits c inMonth
  · exact dash
  · exact isLine_digits days.areDigits c inDay

end Date

namespace Preamble

variable {text content body key value : List Char}

section Titles

/-- What a title in a preamble is like: evenly spaced, not too long, and without double quotes. -/
structure IsTitle (title : List Char) : Prop where
  spaced : Spaced title
  short : title.length ≤ titleLimit
  unquoted : '"' ∉ title

/-- A character of a title: single quotes stand for double ones. -/
def titleCharacter (c : Char) : Char := if c = '"' then '\'' else c

theorem isBlank_titleCharacter (c : Char) : isBlank (titleCharacter c) = isBlank c := by
  unfold titleCharacter
  split_ifs with quote
  · rw [quote]
    decide
  · rfl

theorem map_titleCharacter (unquoted : '"' ∉ text) : text.map titleCharacter = text := by
  refine (List.map_congr_left fun c member => if_neg ?_).trans text.map_id
  rintro rfl
  exact unquoted member

/-- What is left of a title; nothing may be. -/
def cleaned (title : List Char) : List Char :=
  trim (((spread (words title)).take titleLimit).map titleCharacter)

theorem cleanTitle_eq (title : String) :
    cleanTitle title =
      if cleaned title.toList = [] then standardTitle else String.ofList (cleaned title.toList) := by
  simp only [← List.isEmpty_iff]
  rfl

theorem cleaned_cases (title : List Char) : cleaned title = [] ∨ IsTitle (cleaned title) := by
  have short : (cleaned title).length ≤ titleLimit := by
    refine (trim_sublist _).length_le.trans ?_
    rw [List.length_map]
    exact List.length_take_le _ _
  have unquoted : '"' ∉ cleaned title := by
    intro member
    obtain ⟨c, -, same⟩ := List.mem_map.1 ((trim_sublist _).subset member)
    unfold titleCharacter at same
    split_ifs at same with quote
    · cases same
    · exact quote same
  rw [cleaned, List.map_take] at short unquoted ⊢
  rcases spaced_spread_words title with none | spaced
  · left
    rw [none]
    rfl
  · have plain : Spaced ((spread (words title)).map titleCharacter) :=
      spaced.map isBlank_titleCharacter rfl
    exact (plain.trim_take titleLimit).imp_right fun spaced => ⟨spaced, short, unquoted⟩

theorem isTitle_standardTitle : IsTitle standardTitle.toList := by
  have words_eq : words standardTitle.toList = ["Generated".toList, "Component".toList] := by decide
  have spaced := (spaced_spread_words standardTitle.toList).resolve_left (by rw [words_eq]; simp)
  rw [words_eq] at spaced
  exact ⟨spaced, by decide, by decide⟩

theorem isTitle_cleanTitle (title : String) : IsTitle (cleanTitle title).toList := by
  rw [cleanTitle_eq]
  split_ifs with none
  · exact isTitle_standardTitle
  · rw [String.toList_ofList]
    exact (cleaned_cases title.toList).resolve_left none

theorem IsTitle.cleaned_eq (isTitle : IsTitle text) : cleaned text = text := by
  rw [cleaned, isTitle.spaced.spread_words, List.take_of_length_le isTitle.short,
    map_titleCharacter isTitle.unquoted, isTitle.spaced.trim_eq_self]

/-- Titles stay as they are. -/
theorem cleanTitle_cleanTitle (title : String) : cleanTitle (cleanTitle title) = cleanTitle title := by
  have isTitle := isTitle_cleanTitle title
  rw [cleanTitle_eq (cleanTitle title), isTitle.cleaned_eq, if_neg isTitle.spaced.ne_nil,
    String.ofList_toList]

end Titles

section Reading

/-- No line after the first begins with a dash. -/
abbrev Undashed (content : List Char) : Prop := content.IsChain fun c next => c = '\n' → next ≠ '-'

theorem closing_eq : closing = ['\n', '-', '-', '-', '\n'] := rfl

theorem untilClosing_of_undashed (undashed : Undashed content) (body : List Char) :
    untilClosing (content ++ closing ++ body) = some (content, body) := by
  induction content with
  | nil => rfl
  | cons c content ih =>
    have early : ¬closing.isPrefixOf (c :: (content ++ closing ++ body)) = true := by
      rw [closing_eq]
      intro closes
      cases content with
      | nil => simp at closes
      | cons next content =>
        obtain ⟨rfl, rfl, -⟩ : '\n' = c ∧ '-' = next ∧ _ := by simpa using closes
        exact undashed.rel rfl rfl
    rw [List.cons_append, List.cons_append, untilClosing_cons early, ih undashed.of_cons]
    rfl

theorem undashed_line (inside : '\n' ∉ text) : Undashed text := by
  induction text with
  | nil => exact .nil
  | cons c text ih =>
    rw [List.mem_cons, not_or] at inside
    refine (ih inside.2).cons ?_
    rintro next - rfl
    exact absurd rfl inside.1

/-- A text of lines, none of which begins with a dash. -/
theorem undashed_flatMap {front : List (List Char)} {last : List Char}
    (areLines : ∀ line ∈ front, '\n' ∉ line ∧ line.head? ≠ some '-')
    (isLine : '\n' ∉ last ∧ last.head? ≠ some '-') :
    Undashed (front.flatMap (· ++ ['\n']) ++ last) ∧
      (front.flatMap (· ++ ['\n']) ++ last).head? ≠ some '-' := by
  induction front with
  | nil => exact ⟨undashed_line isLine.1, isLine.2⟩
  | cons line front ih =>
    obtain ⟨⟨inside, begins⟩, others⟩ := List.forall_mem_cons.1 areLines
    obtain ⟨undashed, next⟩ := ih others
    rw [List.flatMap_cons, List.append_assoc, List.append_assoc, List.singleton_append]
    constructor
    · refine List.isChain_append.2 ⟨undashed_line inside, undashed.cons ?_, ?_⟩
      · rintro c first - rfl
        exact next first
      · rintro c ends _ - rfl
        exact absurd (List.mem_of_getLast? ends) inside
    · cases line with
      | nil => simp
      | cons c line => exact begins

/-- The line for a value in quotes. -/
def quotedLine (key value : List Char) : List Char := key ++ ':' :: ' ' :: '"' :: (value ++ ['"'])

theorem entry?_quotedLine (filled : key ≠ [])
    (letters : ∀ c ∈ key, isBlank c = false ∧ c ≠ ':' ∧ c ≠ '-') (value : List Char) :
    entry? (quotedLine key value) = some (String.ofList key, String.ofList value) := by
  obtain ⟨first, rest, rfl⟩ := List.exists_cons_of_ne_nil filled
  have keyLetters : ∀ c ∈ first :: rest, decide (c ≠ ':') = true := by
    simpa using fun c member => (letters c member).2.1
  have beforeColon : (quotedLine (first :: rest) value).takeWhile (· ≠ ':') = first :: rest :=
    takeWhile_run keyLetters (by simp)
  have behindColon : (quotedLine (first :: rest) value).dropWhile (· ≠ ':') =
      ':' :: ' ' :: '"' :: (value ++ ['"']) := by
    rw [quotedLine, List.dropWhile_append_of_pos keyLetters, List.dropWhile_cons_of_neg (by simp)]
  have keyKept : trim (first :: rest) = first :: rest := by
    rw [trim, trimStart_eq_self_iff.2, trimEnd_eq_self_iff.2]
    · exact fun c ends => (letters c (List.mem_of_getLast? ends)).1
    · exact fun c begins => (letters c (List.mem_of_head? begins)).1
  have valueKept : trim (' ' :: '"' :: (value ++ ['"'])) = '"' :: (value ++ ['"']) := by
    have ends : ∀ c ∈ ('"' :: (value ++ ['"'])).getLast?, isBlank c = false := by
      rw [← List.cons_append, List.getLast?_concat]
      simp [isBlank]
    have quotes : trim ([' '] ++ ('"' :: (value ++ ['"']) ++ [])) =
        trimStart [' '] ++ ('"' :: (value ++ ['"']) ++ trimEnd []) :=
      trim_around (List.cons_ne_nil _ _) (by simp [isBlank]) ends
    simpa [trimStart, trimEnd, isBlank] using quotes
  have unquotedValue : unquoted ('"' :: (value ++ ['"'])) = value := by simp [unquoted]
  have flat : ¬(isBlank first || first == '-' || !(quotedLine (first :: rest) value).contains ':') =
      true := by
    obtain ⟨shown, -, undashed⟩ := letters first List.mem_cons_self
    simp [shown, undashed, quotedLine]
  have read : entry? (quotedLine (first :: rest) value) =
      some (String.ofList (trim ((quotedLine (first :: rest) value).takeWhile (· ≠ ':'))),
        String.ofList (unquoted (trim
          (((quotedLine (first :: rest) value).dropWhile (· ≠ ':')).drop 1)))) :=
    if_neg flat
  rw [read, beforeColon, behindColon, keyKept, List.drop_one, List.tail_cons, valueKept, unquotedValue]

end Reading

section Ensuring

/-- The lines of the standard preamble between the title and the date. -/
def constantLines : List (List Char) :=
  [quotedLine "description".toList "AI-generated React component".toList,
    quotedLine "category".toList "ui".toList,
    "tags: [\"ai-generated\", \"component\"]".toList,
    quotedLine "version".toList "1.0.0".toList]

/-- The lines of the standard preamble before the one with the date. -/
def standardLines (title : String) : List (List Char) :=
  quotedLine "title".toList (cleanTitle title).toList :: constantLines

def dateLine (today : Date) : List Char := quotedLine "createdAt".toList today.toText.toList

/-- What stands between the dashes of the standard preamble. -/
def standardContent (title : String) (today : Date) : List Char :=
  (standardLines title).flatMap (· ++ ['\n']) ++ dateLine today

theorem toList_standard (title : String) (today : Date) :
    (standard title today).toList =
      opening ++ standardContent title today ++ closing ++ ['\n'] := by
  simp [standard, standardContent, standardLines, constantLines, dateLine, quotedLine, opening, closing,
    toString]

theorem isLine_quotedLine (keyLine : IsLine key) (valueLine : IsLine value) :
    IsLine (quotedLine key value) := by
  intro c member
  simp only [quotedLine, List.mem_append, List.mem_cons, List.not_mem_nil, or_false] at member
  rcases member with inKey | rfl | rfl | rfl | inValue | rfl
  · exact keyLine c inKey
  · decide
  · decide
  · decide
  · exact valueLine c inValue
  · decide

theorem IsTitle.isLine (isTitle : IsTitle text) : IsLine text := by
  intro c member
  rcases isTitle.spaced.shown_or_space c member with shown | rfl
  · rw [← Bool.not_eq_true] at shown ⊢
    exact fun ends => shown (isBlank_of_isLineEnd ends)
  · decide

theorem isLine_standardLines (title : String) : ∀ line ∈ standardLines title, IsLine line := by
  have checked : constantLines.all (fun line => line.all fun c => !isLineEnd c) = true := by
    simp only [constantLines, quotedLine, String.reduceToList, List.cons_append, List.nil_append]
    decide
  have constant : ∀ line ∈ constantLines, IsLine line := by simpa [IsLine] using checked
  refine List.forall_mem_cons.2 ⟨?_, constant⟩
  exact isLine_quotedLine (by simp [IsLine, isLineEnd]) (isTitle_cleanTitle title).isLine

theorem isLine_dateLine (today : Date) : IsLine (dateLine today) :=
  isLine_quotedLine (by simp [IsLine, isLineEnd]) today.isIso_toText.isLine

theorem lines_standardContent (title : String) (today : Date) :
    Text.lines (standardContent title today) = standardLines title ++ [dateLine today] :=
  lines_flatMap (isLine_standardLines title) (isLine_dateLine today) (List.cons_ne_nil _ _)

theorem lineFeed_notMem (isLine : IsLine text) : '\n' ∉ text := fun member =>
  absurd (isLine '\n' member) (by decide)

theorem undashed_standardContent (title : String) (today : Date) :
    Undashed (standardContent title today) := by
  refine (undashed_flatMap (fun line member => ⟨?_, ?_⟩) ⟨?_, ?_⟩).1
  · exact lineFeed_notMem (isLine_standardLines title line member)
  · have constant : ∀ line ∈ constantLines, line.head? ≠ some '-' := by
      simp [constantLines, quotedLine]
    rcases List.mem_cons.1 member with rfl | member
    · simp [quotedLine]
    · exact constant line member
  · exact lineFeed_notMem (isLine_dateLine today)
  · simp [dateLine, quotedLine]

theorem find?_standard (title : String) (today : Date) (body : List Char) :
    find? ((standard title today).toList ++ body) =
      some (standardContent title today, '\n' :: body) := by
  have parts : (standard title today).toList ++ body =
      opening ++ (standardContent title today ++ closing ++ '\n' :: body) := by
    rw [toList_standard]
    simp only [List.append_assoc, List.singleton_append]
  rw [parts, find?_opening_append]
  exact untilClosing_of_undashed (undashed_standardContent title today) _

theorem fields_standard (title body : String) (today : Date) :
    fields (standard title today ++ body) =
      [("title", cleanTitle title), ("description", "AI-generated React component"),
        ("category", "ui"), ("tags", "[\"ai-generated\", \"component\"]"), ("version", "1.0.0"),
        ("createdAt", today.toText)] := by
  have tags : entry? "tags: [\"ai-generated\", \"component\"]".toList =
      some ("tags", "[\"ai-generated\", \"component\"]") := by
    decide
  have quoted : ∀ name ∈ ["title", "description", "category", "version", "createdAt"],
      ∀ value, entry? (quotedLine name.toList value) = some (name, String.ofList value) := by
    intro name member value
    rw [entry?_quotedLine, String.ofList_toList] <;> revert name <;> simp [isBlank]
  rw [fields, String.toList_append, find?_standard]
  dsimp only
  rw [lines_standardContent]
  simp only [standardLines, constantLines, dateLine, List.cons_append, List.nil_append, List.filterMap_cons,
    List.filterMap_nil, tags, quoted "title" (by simp), quoted "description" (by simp),
    quoted "category" (by simp), quoted "version" (by simp), quoted "createdAt" (by simp),
    String.ofList_toList]
  simp [Entries.ofPairs, Entries.put, Entries.contains]

theorem ensure_of_has {source : String} (titled : has source = true) (title : String) (today : Date) :
    ensure source title today = source := if_pos titled

theorem ensure_of_not_has {source : String} (bare : has source = false) (title : String)
    (today : Date) :
    ensure source title today =
      standard title today ++ String.ofList (source.toList.dropWhile (· = '\n')) := by
  rw [ensure, if_neg (by simp [bare])]

theorem has_standard (title body : String) (today : Date) :
    has (standard title today ++ body) = true := by
  rw [has, String.toList_append, find?_standard]
  rfl

theorem has_ensure (source title : String) (today : Date) :
    has (ensure source title today) = true := by
  cases titled : has source with
  | true => rwa [ensure_of_has titled]
  | false =>
    rw [ensure_of_not_has titled]
    exact has_standard title _ today

theorem body_standard (title body : String) (today : Date) :
    (split (standard title today ++ body)).body.toList = '\n' :: body.toList := by
  rw [split, String.toList_append, find?_standard]
  exact String.toList_ofList

/-- The line feeds at the beginning of a text, and what they stand in front of. -/
theorem exists_lineFeeds (text : List Char) :
    ∃ count, text = List.replicate count '\n' ++ text.dropWhile (· = '\n') ∧
      (text.dropWhile (· = '\n')).head? ≠ some '\n' := by
  refine ⟨(text.takeWhile (· = '\n')).length, ?_, ?_⟩
  · have feeds : text.takeWhile (· = '\n') =
        List.replicate (text.takeWhile (· = '\n')).length '\n' :=
      List.eq_replicate_of_mem fun c member => by simpa using List.mem_takeWhile_imp member
    rw [← feeds, List.takeWhile_append_dropWhile]
  · intro begins
    have stops := List.head?_dropWhile_not (· = '\n') text
    rw [begins] at stops
    simp at stops

/-- A source always ends up with one preamble, to which nothing is added later. A source that has none gets
the standard one and a blank line in front of its text; its fields are read back with the title that was
cleaned, which is a title of one line with no more than fifty characters and stays as it is. -/
theorem ensure_adds_standard (source title later : String) (today day : Date) :
    has (ensure source title today) = true ∧
      ensure (ensure source title today) later day = ensure source title today ∧
      (has source = false →
        (∃ count rest, source.toList = List.replicate count '\n' ++ rest ∧
          rest.head? ≠ some '\n' ∧
          (split (ensure source title today)).body.toList = '\n' :: rest) ∧
        fields (ensure source title today) =
          [("title", cleanTitle title), ("description", "AI-generated React component"),
            ("category", "ui"), ("tags", "[\"ai-generated\", \"component\"]"), ("version", "1.0.0"),
            ("createdAt", today.toText)] ∧
        today.IsIso today.toText.toList ∧
        cleanTitle title ≠ "" ∧ (cleanTitle title).length ≤ 50 ∧
        (∀ c ∈ (cleanTitle title).toList, isLineEnd c = false ∧ c ≠ '"') ∧
        standard (cleanTitle title) today = standard title today) := by
  have isTitle := isTitle_cleanTitle title
  refine ⟨has_ensure source title today, ensure_of_has (has_ensure source title today) later day, ?_⟩
  intro bare
  rw [ensure_of_not_has bare]
  obtain ⟨count, parts, text⟩ := exists_lineFeeds source.toList
  refine ⟨⟨count, _, parts, text, ?_⟩, fields_standard title _ today, today.isIso_toText, ?_, ?_, ?_, ?_⟩
  · rw [body_standard, String.toList_ofList]
  · intro empty
    exact isTitle.spaced.ne_nil (by rw [empty]; rfl)
  · exact isTitle.short
  · rintro c member
    refine ⟨isTitle.isLine c member, ?_⟩
    rintro rfl
    exact isTitle.unquoted member
  · rw [standard, standard, cleanTitle_cleanTitle]

/-- Behind line feeds a text that begins like a preamble which nothing closes. -/
def unclosedSource : String := "\n\n---\ntitle: x\n"

/-- A title with quotes and separators of lines, the fiftieth character of which is a blank. -/
def loudTitle : String := "\t\"Plans\"\u2028for \x1cthose who like a card with many words on it"

def lastOfNovember : Date := ⟨2023, 11, 30, by decide, by decide, by decide⟩

def leapDay : Date := ⟨2024, 2, 29, by decide, by decide, by decide⟩

theorem unclosedSource_given_preamble :
    has unclosedSource = false ∧
      cleanTitle loudTitle = "'Plans' for those who like a card with many words" ∧
      '\'' ∈ (cleanTitle loudTitle).toList ∧
      has (ensure unclosedSource loudTitle leapDay) = true ∧
      ensure (ensure unclosedSource loudTitle leapDay) "" lastOfNovember =
        ensure unclosedSource loudTitle leapDay ∧
      (∃ count rest, unclosedSource.toList = List.replicate count '\n' ++ rest ∧
        rest.head? ≠ some '\n' ∧
        (split (ensure unclosedSource loudTitle leapDay)).body.toList = '\n' :: rest) ∧
      fields (ensure unclosedSource loudTitle leapDay) =
        [("title", cleanTitle loudTitle), ("description", "AI-generated React component"),
          ("category", "ui"), ("tags", "[\"ai-generated\", \"component\"]"), ("version", "1.0.0"),
          ("createdAt", leapDay.toText)] ∧
      isLineEnd '\'' = false ∧
      standard (cleanTitle loudTitle) leapDay = standard loudTitle leapDay := by
  have bare : has unclosedSource = false := by decide +kernel
  have clean : cleanTitle loudTitle = "'Plans' for those who like a card with many words" := by
    decide +kernel
  have quote : '\'' ∈ (cleanTitle loudTitle).toList := by
    rw [clean]
    decide
  obtain ⟨titled, again, added⟩ :=
    ensure_adds_standard unclosedSource loudTitle "" leapDay lastOfNovember
  obtain ⟨body, read, -, -, -, plain, stable⟩ := added bare
  exact ⟨bare, clean, quote, titled, again, body, read, (plain '\'' quote).1, stable⟩

end Ensuring

end Preamble

end ComponentGate
