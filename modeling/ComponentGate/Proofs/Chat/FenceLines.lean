import Mathlib
import ComponentGate.Chat.Fences
import ComponentGate.Proofs.Text.Removal
import ComponentGate.Proofs.Text.Trimming

/-! Fences as lines. Taking the fences out of a reply drops lines: first all that open code, but for the
last line, and then, of the lines that are left, all that close code, but for the first. -/

namespace ComponentGate.Chat

open Text

/-- A fence and letters, which may name a language. -/
def isOpening (line : List Char) : Bool :=
  fence.isPrefixOf line && (line.drop fence.length).all Char.isAlpha

/-- A fence and blanks. -/
def isClosing (line : List Char) : Bool :=
  fence.isPrefixOf line && (line.drop fence.length).all isFenceBlank

/-- The lines with a property, and the last line. -/
def filterInit (property : List Char → Bool) (lines : List (List Char)) : List (List Char) :=
  lines.dropLast.filter property ++ lines.getLast?.toList

/-- The first line, and the others with a property. -/
def filterTail (property : List Char → Bool) (lines : List (List Char)) : List (List Char) :=
  lines.head?.toList ++ lines.tail.filter property

/-- The lines of a text without its fences. -/
def unfenced (text : List Char) : List (List Char) :=
  filterTail (!isClosing ·) (filterInit (!isOpening ·) (text.splitOn '\n'))

/-- Lines in one text, with a line feed between each two. -/
def joined (lines : List (List Char)) : List Char := ['\n'].intercalate lines

variable {line text rest : List Char} {lines : List (List Char)}

section Lines

theorem filterInit_cons_cons (property : List Char → Bool) (line next : List Char)
    (lines : List (List Char)) :
    filterInit property (line :: next :: lines) =
      if property line then line :: filterInit property (next :: lines)
      else filterInit property (next :: lines) := by
  rw [filterInit, List.dropLast_cons_of_ne_nil (List.cons_ne_nil next lines), List.filter_cons,
    List.getLast?_cons_cons]
  split_ifs <;> rfl

theorem filterInit_concat (property : List Char → Bool) (front : List (List Char)) (last : List Char) :
    filterInit property (front ++ [last]) = front.filter property ++ [last] := by
  rw [filterInit, List.dropLast_concat, List.getLast?_concat]
  rfl

theorem filterInit_ne_nil (property : List Char → Bool) (filled : lines ≠ []) :
    filterInit property lines ≠ [] := by
  obtain ⟨front, last, rfl⟩ := lines.eq_nil_or_concat'.resolve_left filled
  rw [filterInit_concat]
  exact List.append_ne_nil_of_right_ne_nil _ (List.cons_ne_nil last [])

theorem filterInit_sublist (property : List Char → Bool) (lines : List (List Char)) :
    (filterInit property lines).Sublist lines := by
  rcases lines.eq_nil_or_concat' with rfl | ⟨front, last, rfl⟩
  · exact .refl _
  · rw [filterInit_concat]
    exact List.filter_sublist.append (.refl _)

theorem filterTail_sublist (property : List Char → Bool) (lines : List (List Char)) :
    (filterTail property lines).Sublist lines := by
  cases lines with
  | nil => exact .refl _
  | cons first lines => exact List.filter_sublist.cons_cons first

theorem joined_singleton (line : List Char) : joined [line] = line := List.intercalate_singleton

theorem joined_cons (line : List Char) (lines : List (List Char)) :
    joined (line :: lines) = line ++ lines.flatMap ('\n' :: ·) := by
  induction lines generalizing line with
  | nil => rw [joined_singleton, List.flatMap_nil, List.append_nil]
  | cons next lines ih =>
    have below := ih next
    rw [joined] at below ⊢
    rw [List.intercalate_cons_cons, below, List.append_assoc]
    rfl

theorem joined_splitOn (text : List Char) : joined (text.splitOn '\n') = text :=
  List.intercalate_splitOn '\n'

theorem lineFeed_notMem_splitOn (text : List Char) : ∀ line ∈ text.splitOn '\n', '\n' ∉ line := by
  induction text with
  | nil => simp
  | cons c text ih =>
    obtain ⟨first, others, lines⟩ := List.exists_cons_of_ne_nil (List.splitOn_ne_nil '\n' text)
    rw [lines] at ih
    obtain ⟨clear, below⟩ := List.forall_mem_cons.1 ih
    rw [List.splitOn_cons_eq_if_modifyHead, lines]
    split_ifs with ends
    · exact List.forall_mem_cons.2 ⟨List.not_mem_nil, ih⟩
    · rw [List.modifyHead_cons]
      refine List.forall_mem_cons.2 ⟨?_, below⟩
      rw [List.mem_cons, not_or]
      exact ⟨fun same => ends (beq_iff_eq.2 same.symm), clear⟩

end Lines

section Patterns

variable {p : Char → Bool}

/-- A text that ends here, or goes on with a line feed. -/
def EndsLine (rest : List Char) : Prop := ∀ c ∈ rest.head?, c = '\n'

theorem prefix_append_iff_of_endsLine {word : List Char} (kept : '\n' ∉ word) (ends : EndsLine rest) :
    word <+: line ++ rest ↔ word <+: line := by
  constructor
  · intro begins
    rcases List.prefix_or_prefix_of_prefix begins (List.prefix_append line rest) with short | long
    · exact short
    · obtain ⟨more, rfl⟩ := long
      have further : more <+: rest := (List.prefix_append_right_inj line).1 begins
      cases more with
      | nil => rw [List.append_nil]
      | cons c more =>
        obtain ⟨behind, rfl⟩ := further
        obtain rfl := ends c rfl
        exact absurd (List.mem_append_right line (List.mem_cons_self ..)) kept
  · exact fun begins => begins.trans (List.prefix_append line rest)

/-- A run of characters goes to the end of its line, or another character of the line ends it. -/
theorem run_cases (stops : p '\n' = false) (kept : '\n' ∉ line) (ends : EndsLine rest) :
    (line.all p = true ∧ (line ++ rest).takeWhile p = line) ∨
      line.all p = false ∧ ∃ c more, c ≠ '\n' ∧
        (line ++ rest).drop ((line ++ rest).takeWhile p).length = c :: more := by
  induction line with
  | nil =>
    refine .inl ⟨rfl, ?_⟩
    cases rest with
    | nil => rfl
    | cons c rest =>
      obtain rfl := ends c rfl
      exact List.takeWhile_cons_of_neg (by simp [stops])
  | cons c line ih =>
    obtain ⟨other, clear⟩ := not_or.1 (List.mem_cons.not.1 kept)
    by_cases member : p c = true
    · rw [List.cons_append, List.takeWhile_cons_of_pos member, List.all_cons, member, Bool.true_and]
      rcases ih clear with ⟨all, run⟩ | ⟨some, d, more, differs, behind⟩
      · exact .inl ⟨all, congrArg (c :: ·) run⟩
      · exact .inr ⟨some, d, more, differs, behind⟩
    · rw [List.cons_append, List.takeWhile_cons_of_neg member, List.all_cons]
      exact .inr ⟨by simp [member], c, line ++ rest, Ne.symm other, rfl⟩

theorem isPrefixOf_fence_append (ends : EndsLine rest) :
    fence.isPrefixOf (line ++ rest) = fence.isPrefixOf line := by
  rw [Bool.eq_iff_iff, List.isPrefixOf_iff_prefix, List.isPrefixOf_iff_prefix]
  exact prefix_append_iff_of_endsLine (by decide) ends

/-- The run behind the fence of a line is the rest of the line, or less. -/
theorem run_behind_fence {run : List Char} (stops : p '\n' = false) (kept : '\n' ∉ line)
    (ends : EndsLine rest) (starts : fence.isPrefixOf line = true)
    (found : ((line ++ rest).drop fence.length).takeWhile p = run) :
    ((line.drop fence.length).all p = true ∧ fence.length + run.length = line.length) ∨
      (line.drop fence.length).all p = false ∧ ∃ c more, c ≠ '\n' ∧
        (line ++ rest).drop (fence.length + run.length) = c :: more := by
  obtain ⟨body, rfl⟩ := List.isPrefixOf_iff_prefix.1 starts
  have clear : '\n' ∉ body := fun member => kept (List.mem_append_right fence member)
  rw [List.append_assoc, List.drop_left] at found
  rw [← List.drop_drop, List.append_assoc, List.drop_left, List.drop_left, List.length_append, ← found]
  rcases run_cases stops clear ends with ⟨all, whole⟩ | other
  · exact .inl ⟨all, by rw [whole]⟩
  · exact .inr other

theorem openingFence_line (kept : '\n' ∉ line) (text : List Char) :
    openingFence (line ++ '\n' :: text) = if isOpening line then some (line.length + 1) else none := by
  have ends : EndsLine ('\n' :: text) := fun c same => (Option.some.inj same).symm
  rw [openingFence, isOpening, isPrefixOf_fence_append ends]
  cases starts : fence.isPrefixOf line with
  | false => rfl
  | true =>
    rcases run_behind_fence (p := Char.isAlpha) rfl kept ends starts rfl with
      ⟨all, whole⟩ | ⟨some, c, more, differs, behind⟩
    · simp only [whole, List.drop_left, all]
      rfl
    · simp [some, behind, differs]

theorem openingFence_last (kept : '\n' ∉ line) : openingFence line = none := by
  have open_line (length : Nat) : (line.drop length).head? ≠ some '\n' := fun ends =>
    kept (List.mem_of_mem_drop (List.mem_of_head? ends))
  rw [openingFence]
  split
  · rfl
  · exact if_neg fun ends => open_line _ (beq_iff_eq.1 ends)

theorem closingFence_line (kept : '\n' ∉ line) (ends : EndsLine rest) :
    closingFence ('\n' :: (line ++ rest)) = if isClosing line then some (line.length + 1) else none := by
  rw [closingFence, isClosing, isPrefixOf_fence_append ends]
  cases starts : fence.isPrefixOf line with
  | false => rfl
  | true =>
    rcases run_behind_fence (p := isFenceBlank) rfl kept ends starts rfl with
      ⟨all, whole⟩ | ⟨some, c, more, differs, behind⟩
    · simp only [whole, List.drop_left, all]
      cases rest with
      | nil => rfl
      | cons c rest =>
        obtain rfl := ends c rfl
        rfl
    · simp only [behind, some]
      simp [differs]

end Patterns

section Opening

variable {pattern : Pattern}

theorem joined_cons_of_ne_nil (filled : lines ≠ []) :
    joined (line :: lines) = line ++ '\n' :: joined lines := by
  rw [joined, List.intercalate_cons_of_ne_nil filled, List.append_assoc]
  rfl

theorem removeAtLineStarts_inside (kept : '\n' ∉ line) :
    removeAtLineStarts pattern false (line ++ rest) = line ++ removeAtLineStarts pattern false rest := by
  induction line with
  | nil => rfl
  | cons c line ih =>
    obtain ⟨other, clear⟩ := not_or.1 (List.mem_cons.not.1 kept)
    have inside : (c == '\n') = false := beq_false_of_ne (Ne.symm other)
    rw [List.cons_append, removeAtLineStarts]
    simp [inside, ih clear]

theorem removeAtLineStarts_line (kept : '\n' ∉ line) (clear : pattern (line ++ '\n' :: text) = none) :
    removeAtLineStarts pattern true (line ++ '\n' :: text) =
      line ++ '\n' :: removeAtLineStarts pattern true text := by
  cases line with
  | nil =>
    rw [List.nil_append] at clear
    rw [List.nil_append, removeAtLineStarts, if_pos rfl, clear]
    rfl
  | cons c line =>
    obtain ⟨other, below⟩ := not_or.1 (List.mem_cons.not.1 kept)
    have inside : (c == '\n') = false := beq_false_of_ne (Ne.symm other)
    rw [List.cons_append] at clear
    rw [List.cons_append, removeAtLineStarts, if_pos rfl, clear]
    simp only [inside]
    rw [removeAtLineStarts_inside below, removeAtLineStarts]
    rfl

theorem removeAtLineStarts_last (kept : '\n' ∉ line) (clear : pattern line = none) :
    removeAtLineStarts pattern true line = line := by
  cases line with
  | nil => rw [removeAtLineStarts]
  | cons c line =>
    obtain ⟨other, below⟩ := not_or.1 (List.mem_cons.not.1 kept)
    have inside : (c == '\n') = false := beq_false_of_ne (Ne.symm other)
    have rest : removeAtLineStarts pattern false (line ++ []) =
        line ++ removeAtLineStarts pattern false [] := removeAtLineStarts_inside below
    rw [List.append_nil, removeAtLineStarts, List.append_nil] at rest
    rw [removeAtLineStarts, if_pos rfl, clear]
    simp only [inside, rest]

theorem removeAtLineStarts_found (found : pattern (line ++ '\n' :: text) = some (line.length + 1)) :
    removeAtLineStarts pattern true (line ++ '\n' :: text) = removeAtLineStarts pattern true text := by
  have length : (line ++ ['\n']).length = line.length + 1 := List.length_append
  have front : (line ++ '\n' :: text).take (line.length + 1) = line ++ ['\n'] := by
    rw [List.append_cons, List.take_left' length]
  have behind : (line ++ '\n' :: text).drop (line.length + 1) = text := by
    rw [List.append_cons, List.drop_left' length]
  cases line with
  | nil =>
    rw [List.nil_append] at found
    rw [List.nil_append, removeAtLineStarts, if_pos rfl, found]
    rfl
  | cons c line =>
    rw [List.cons_append] at found front
    rw [List.cons_append, removeAtLineStarts, if_pos rfl, found]
    simp only [front, List.getLast?_concat]
    exact congrArg (removeAtLineStarts pattern true) behind

/-- Taking out what opens code drops lines, but not the last one. -/
theorem removeAtLineStarts_joined (kept : ∀ line ∈ lines, '\n' ∉ line) :
    removeAtLineStarts openingFence true (joined lines) =
      joined (filterInit (!isOpening ·) lines) := by
  induction lines with
  | nil => rw [joined, List.intercalate_nil, removeAtLineStarts]; rfl
  | cons line lines ih =>
    obtain ⟨clear, below⟩ := List.forall_mem_cons.1 kept
    cases lines with
    | nil =>
      have alone : filterInit (!isOpening ·) [line] = [line] := rfl
      rw [alone, joined_singleton, removeAtLineStarts_last clear (openingFence_last clear)]
    | cons next lines =>
      have found := openingFence_line clear (joined (next :: lines))
      have left := filterInit_ne_nil (!isOpening ·) (List.cons_ne_nil next lines)
      rw [joined_cons_of_ne_nil (List.cons_ne_nil next lines), filterInit_cons_cons]
      cases opening : isOpening line with
      | true =>
        rw [opening, if_pos rfl] at found
        rw [removeAtLineStarts_found found, ih below]
        rfl
      | false =>
        rw [opening, if_neg Bool.false_ne_true] at found
        rw [removeAtLineStarts_line clear found, ih below, Bool.not_false, if_pos rfl,
          joined_cons_of_ne_nil left]

end Opening

section Closing

theorem closingFence_other {c : Char} (other : c ≠ '\n') : closingFence (c :: rest) = none := by
  rw [closingFence]
  exact fun _ same => other (List.cons.inj same).1

theorem removeMatches_inside (kept : '\n' ∉ line) :
    removeMatches closingFence (line ++ rest) = line ++ removeMatches closingFence rest := by
  induction line with
  | nil => rfl
  | cons c line ih =>
    obtain ⟨other, clear⟩ := not_or.1 (List.mem_cons.not.1 kept)
    rw [List.cons_append, removeMatches, closingFence_other (Ne.symm other), ih clear]
    rfl

theorem endsLine_flatMap (lines : List (List Char)) : EndsLine (lines.flatMap ('\n' :: ·)) := by
  cases lines with
  | nil => exact fun c member => by cases member
  | cons line lines => exact fun c same => (Option.some.inj same).symm

theorem removeMatches_flatMap (kept : ∀ line ∈ lines, '\n' ∉ line) :
    removeMatches closingFence (lines.flatMap ('\n' :: ·)) =
      (lines.filter (!isClosing ·)).flatMap ('\n' :: ·) := by
  induction lines with
  | nil => rw [List.flatMap_nil, removeMatches]; rfl
  | cons line lines ih =>
    obtain ⟨clear, below⟩ := List.forall_mem_cons.1 kept
    have found := closingFence_line clear (endsLine_flatMap lines)
    rw [List.flatMap_cons, List.cons_append, removeMatches, found, List.filter_cons]
    cases closing : isClosing line with
    | true =>
      have behind : (line ++ lines.flatMap ('\n' :: ·)).drop line.length = lines.flatMap ('\n' :: ·) :=
        List.drop_left
      exact (congrArg (removeMatches closingFence) behind).trans (ih below)
    | false =>
      simp only [Bool.false_eq_true, if_false, Bool.not_false, if_true]
      rw [removeMatches_inside clear, ih below]
      rfl

/-- Taking out what closes code drops lines, but not the first one. -/
theorem removeMatches_joined (kept : ∀ line ∈ lines, '\n' ∉ line) :
    removeMatches closingFence (joined lines) = joined (filterTail (!isClosing ·) lines) := by
  cases lines with
  | nil => rw [joined, List.intercalate_nil, removeMatches]; rfl
  | cons first lines =>
    obtain ⟨clear, below⟩ := List.forall_mem_cons.1 kept
    have others : filterTail (!isClosing ·) (first :: lines) = first :: lines.filter (!isClosing ·) := rfl
    rw [others, joined_cons, joined_cons, removeMatches_inside clear, removeMatches_flatMap below]

end Closing

/-- A reply without its fences is the trimmed text of the lines that are left. -/
theorem withoutFences_eq (reply : String) :
    withoutFences reply = String.ofList (trim (joined (unfenced reply.toList))) := by
  have kept := lineFeed_notMem_splitOn reply.toList
  have keptBelow : ∀ line ∈ filterInit (!isOpening ·) (reply.toList.splitOn '\n'), '\n' ∉ line :=
    fun line member => kept line ((filterInit_sublist _ _).subset member)
  have opened := removeAtLineStarts_joined kept
  rw [joined_splitOn] at opened
  rw [withoutFences, opened, removeMatches_joined keptBelow]
  rfl

section Wrapped

variable {language code blanks : List Char}

/-- A line is a fence with characters of one sort behind it. -/
theorem fenced_iff {p : Char → Bool} :
    (fence.isPrefixOf line && (line.drop fence.length).all p) = true ↔
      ∃ rest, line = fence ++ rest ∧ ∀ c ∈ rest, p c = true := by
  rw [Bool.and_eq_true, List.isPrefixOf_iff_prefix, List.all_eq_true]
  constructor
  · rintro ⟨⟨rest, rfl⟩, all⟩
    rw [List.drop_left] at all
    exact ⟨rest, rfl, all⟩
  · rintro ⟨rest, rfl, all⟩
    rw [List.drop_left]
    exact ⟨List.prefix_append fence rest, all⟩

theorem isOpening_iff : isOpening line = true ↔
    ∃ language, line = fence ++ language ∧ ∀ c ∈ language, c.isAlpha = true :=
  fenced_iff

theorem isClosing_iff : isClosing line = true ↔
    ∃ blanks, line = fence ++ blanks ∧ ∀ c ∈ blanks, isFenceBlank c = true :=
  fenced_iff

theorem lineFeed_notMem_fence_append {p : Char → Bool} (stops : p '\n' = false)
    (all : ∀ c ∈ rest, p c = true) : '\n' ∉ fence ++ rest := by
  rw [List.mem_append, not_or]
  exact ⟨by decide, fun member => by simpa [stops] using all _ member⟩

theorem not_isOpening_of_plain (plain : ¬fence <+: line) : isOpening line = false := by
  rw [isOpening, Bool.eq_false_iff.2 (List.isPrefixOf_iff_prefix.not.2 plain), Bool.false_and]

theorem not_isClosing_of_plain (plain : ¬fence <+: line) : isClosing line = false := by
  rw [isClosing, Bool.eq_false_iff.2 (List.isPrefixOf_iff_prefix.not.2 plain), Bool.false_and]

theorem filter_isOpening_of_plain (plain : ∀ line ∈ lines, ¬fence <+: line) :
    lines.filter (!isOpening ·) = lines :=
  List.filter_eq_self.2 fun line member => by simp [not_isOpening_of_plain (plain line member)]

/-- Only what follows lines without fences can lose lines that close code. -/
theorem filterTail_append_of_plain (filled : lines ≠ []) (plain : ∀ line ∈ lines, ¬fence <+: line)
    (more : List (List Char)) :
    filterTail (!isClosing ·) (lines ++ more) = lines ++ more.filter (!isClosing ·) := by
  obtain ⟨first, others, rfl⟩ := List.exists_cons_of_ne_nil filled
  have kept : others.filter (!isClosing ·) = others :=
    List.filter_eq_self.2 fun line member => by
      simp [not_isClosing_of_plain (plain line (List.mem_cons_of_mem first member))]
  rw [filterTail, List.cons_append, List.head?_cons, List.tail_cons, List.filter_append, kept]
  rfl

theorem joined_concat_nil (filled : lines ≠ []) : joined (lines ++ [[]]) = joined lines ++ ['\n'] := by
  obtain ⟨first, others, rfl⟩ := List.exists_cons_of_ne_nil filled
  rw [List.cons_append, joined_cons, joined_cons, List.flatMap_append, List.append_assoc]
  rfl

/-- Of code between two fences the code is left, and what stands behind the closing one. -/
theorem joined_unfenced_wrapped (letters : ∀ c ∈ language, c.isAlpha = true)
    (areBlanks : ∀ c ∈ blanks, isFenceBlank c = true)
    (plain : ∀ line ∈ code.splitOn '\n', ¬fence <+: line) :
    joined (unfenced (fence ++ language ++ '\n' :: (code ++ '\n' :: (fence ++ blanks)))) = code ∧
      joined (unfenced (fence ++ language ++ '\n' :: (code ++ '\n' :: (fence ++ blanks ++ ['\n'])))) =
        code ++ ['\n'] := by
  have openingKept : '\n' ∉ fence ++ language := lineFeed_notMem_fence_append rfl letters
  have closingKept : '\n' ∉ fence ++ blanks := lineFeed_notMem_fence_append rfl areBlanks
  have opening : isOpening (fence ++ language) = true := isOpening_iff.2 ⟨language, rfl, letters⟩
  have closing : isClosing (fence ++ blanks) = true := isClosing_iff.2 ⟨blanks, rfl, areBlanks⟩
  have filled : code.splitOn '\n' ≠ [] := List.splitOn_ne_nil '\n' code
  rw [unfenced, unfenced, List.splitOn_append_cons_self_of_not_mem openingKept,
    List.splitOn_append_cons_self_of_not_mem openingKept, List.splitOn_append_cons_self,
    List.splitOn_append_cons_self, List.splitOn_append_cons_self_of_not_mem closingKept,
    List.splitOn_eq_singleton closingKept, List.splitOn_nil]
  constructor
  · rw [← List.cons_append, filterInit_concat, List.filter_cons_of_neg (by simp [opening]),
      filter_isOpening_of_plain plain, filterTail_append_of_plain filled plain,
      List.filter_cons_of_neg (by simp [closing]), List.filter_nil, List.append_nil, joined_splitOn]
  · -- Behind the closing fence stands one more line, which is empty.
    have parts : (fence ++ language) :: (code.splitOn '\n' ++ [fence ++ blanks, []]) =
        (fence ++ language) :: (code.splitOn '\n' ++ [fence ++ blanks]) ++ [[]] := by simp
    have closed : ([fence ++ blanks].filter (!isOpening ·)).filter (!isClosing ·) = [] :=
      List.filter_eq_nil_iff.2 fun line member => by
        rw [List.mem_singleton.1 (List.mem_filter.1 member).1, closing]
        exact Bool.false_ne_true
    have last : ([[]] : List (List Char)).filter (!isClosing ·) = [[]] := rfl
    rw [parts, filterInit_concat, List.filter_cons_of_neg (by simp [opening]), List.filter_append,
      filter_isOpening_of_plain plain, List.append_assoc, filterTail_append_of_plain filled plain,
      List.filter_append, closed, last, List.nil_append, joined_concat_nil filled, joined_splitOn]

end Wrapped

/-- Taking out fences is a filter of the lines of a reply: of all lines but the last those that open code
are dropped, and of what is left all but the first that close code; the rest is trimmed. Code in which no
line begins with a fence comes back trimmed from between a fence that names a language and a closing one. -/
theorem withoutFences_filters_lines (reply : String) :
    withoutFences reply = String.ofList (trim (joined
        (filterTail (!isClosing ·) (filterInit (!isOpening ·) (reply.toList.splitOn '\n'))))) ∧
      ∀ language code blanks ending : String,
        (∀ c ∈ language.toList, c.isAlpha = true) → (∀ c ∈ blanks.toList, c = ' ' ∨ c = '\t') →
        (∀ line ∈ code.toList.splitOn '\n', ¬"```".toList <+: line) → ending = "" ∨ ending = "\n" →
        withoutFences ("```" ++ language ++ "\n" ++ code ++ "\n```" ++ blanks ++ ending) =
          trimmed code := by
  refine ⟨withoutFences_eq reply, ?_⟩
  intro language code blanks ending letters spaces plain ends
  have areBlanks : ∀ c ∈ blanks.toList, isFenceBlank c = true := fun c member => by
    simpa [isFenceBlank] using spaces c member
  obtain ⟨left, leftBefore⟩ := joined_unfenced_wrapped letters areBlanks plain
  have text (ending : String) :
      ("```" ++ language ++ "\n" ++ code ++ "\n```" ++ blanks ++ ending).toList =
        fence ++ language.toList ++
          '\n' :: (code.toList ++ '\n' :: (fence ++ blanks.toList ++ ending.toList)) := by
    simp [fence, String.toList_append]
  rw [withoutFences_eq, trimmed, text]
  rcases ends with rfl | rfl
  · rw [String.toList_empty, List.append_nil, left]
  · have blank : IsBlankText ['\n'] := by simp [IsBlankText, isBlank]
    have around : trim ([] ++ (code.toList ++ ['\n'])) = trim code.toList :=
      trim_blanks (fun _ => List.not_mem_nil.elim) blank
    exact (congrArg (fun text => String.ofList (trim text)) leftBefore).trans (congrArg String.ofList around)

/-- Code with a blank line, and one that begins with fewer backticks than a fence. -/
def tickedCode : String := "const a = 1;\n\n``\n  b "

theorem tickedCode_between_fences :
    (∀ c ∈ "tsx".toList, c.isAlpha = true) ∧ (∀ c ∈ " \t".toList, c = ' ' ∨ c = '\t') ∧
      (∀ line ∈ tickedCode.toList.splitOn '\n', ¬"```".toList <+: line) ∧
      withoutFences ("```" ++ "tsx" ++ "\n" ++ tickedCode ++ "\n```" ++ " \t" ++ "\n") =
        trimmed tickedCode ∧
      trimmed tickedCode = "const a = 1;\n\n``\n  b" := by
  have letters : ∀ c ∈ "tsx".toList, c.isAlpha = true := by simp
  have spaces : ∀ c ∈ " \t".toList, c = ' ' ∨ c = '\t' := by simp
  have plain : ∀ line ∈ tickedCode.toList.splitOn '\n', ¬"```".toList <+: line := by
    decide
  exact ⟨letters, spaces, plain,
    (withoutFences_filters_lines "").2 "tsx" tickedCode " \t" "\n" letters spaces plain (.inr rfl),
    by decide +kernel⟩

end ComponentGate.Chat
