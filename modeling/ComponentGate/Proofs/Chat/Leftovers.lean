import ComponentGate.Proofs.Chat.FenceLines

/-! Fences that are left. The lines of a reply are filtered before it is trimmed, and trimming can bring a
fence to the beginning of the text, out of its indentation, or to the end, off the blanks behind it. Only
then does a second pass change anything. -/

namespace ComponentGate.Chat

open Text

/-- Lines from which trimming brings a fence to an end of the text: one that opens code behind blanks, on
the first line that shows something, or one in front of blanks that no closing fence has, on the last such
line. The first and the last line that show something are different ones. -/
inductive Exposes : List (List Char) → Prop where
  | opening (blank : ∀ line ∈ before, IsBlankText line) (lead_blank : IsBlankText lead)
      (indented : lead ≠ []) (opens : isOpening line = true) (more : ∃ line ∈ behind, ¬IsBlankText line) :
      Exposes (before ++ (lead ++ line) :: behind)
  | closing (more : ∃ line ∈ before, ¬IsBlankText line) (trail_blank : IsBlankText trail)
      (other : trail.all isFenceBlank = false) (blank : ∀ line ∈ behind, IsBlankText line) :
      Exposes (before ++ (fence ++ trail) :: behind)

/-- Lines of which fences are taken out already. -/
structure Cleared (lines : List (List Char)) : Prop where
  opening : ∀ line ∈ lines.dropLast, ¬isOpening line
  closing : ∀ line ∈ lines.tail, ¬isClosing line

variable {line text lead trail rest : List Char} {lines kept front behind : List (List Char)}

section Joining

theorem splitOn_joined (kept : ∀ line ∈ lines, '\n' ∉ line) (filled : lines ≠ []) :
    (joined lines).splitOn '\n' = lines := List.splitOn_intercalate '\n' kept filled

theorem lineFeed_joined (filled : lines ≠ []) : '\n' :: joined lines = lines.flatMap ('\n' :: ·) := by
  obtain ⟨line, others, rfl⟩ := List.exists_cons_of_ne_nil filled
  rw [joined_cons]
  rfl

theorem joined_append (first : front ≠ []) (last : behind ≠ []) :
    joined (front ++ behind) = joined front ++ '\n' :: joined behind := by
  have both : front ++ behind ≠ [] := List.append_ne_nil_of_left_ne_nil first behind
  refine List.cons_injective (a := '\n') ?_
  rw [lineFeed_joined both, List.flatMap_append, ← lineFeed_joined first, ← lineFeed_joined last]
  rfl

/-- Texts one behind the other share a line. -/
theorem joined_glue (front : List (List Char)) (last first : List Char) (behind : List (List Char)) :
    joined (front ++ [last]) ++ joined (first :: behind) =
      joined (front ++ (last ++ first) :: behind) := by
  have glued : last ++ joined (first :: behind) = joined ((last ++ first) :: behind) := by
    rw [joined_cons, joined_cons, List.append_assoc]
  by_cases empty : front = []
  · subst empty
    rw [List.nil_append, List.nil_append, ← glued, joined_singleton]
  · rw [joined_append empty (List.cons_ne_nil _ _), joined_append empty (List.cons_ne_nil _ _), ← glued,
      joined_singleton, List.append_assoc]
    rfl

/-- Lines that are left of others, and make as long a text, are all of them. -/
theorem eq_of_sublist_of_length (sublist : kept.Sublist lines) (filled : kept ≠ [])
    (clear : ∀ line ∈ lines, '\n' ∉ line) (long : (joined lines).length ≤ (joined kept).length) :
    kept = lines := by
  -- With a line feed in front of each, no line is too short to be missed.
  have others : lines ≠ [] := fun empty => filled (List.sublist_nil.1 (empty ▸ sublist))
  have texts : ('\n' :: joined kept).Sublist ('\n' :: joined lines) := by
    rw [lineFeed_joined filled, lineFeed_joined others]
    exact sublist.flatMap _
  have same : joined kept = joined lines :=
    (List.cons_sublist_cons.1 texts).eq_of_length_le long
  rw [← splitOn_joined (fun line member => clear line (sublist.subset member)) filled, same,
    splitOn_joined clear others]

end Joining

section Filters

theorem filterInit_eq_self_iff {property : List Char → Bool} :
    filterInit property lines = lines ↔ ∀ line ∈ lines.dropLast, property line = true := by
  rcases lines.eq_nil_or_concat' with rfl | ⟨front, last, rfl⟩
  · simp [filterInit]
  · rw [filterInit_concat, List.dropLast_concat, List.append_left_inj, List.filter_eq_self]

theorem filterTail_eq_self_iff {property : List Char → Bool} :
    filterTail property lines = lines ↔ ∀ line ∈ lines.tail, property line = true := by
  cases lines with
  | nil => simp [filterTail]
  | cons first lines =>
    have kept : filterTail property (first :: lines) = first :: lines.filter property := rfl
    rw [kept, List.cons_inj_right, List.filter_eq_self, List.tail_cons]

/-- The filters drop nothing just where there is nothing to drop. -/
theorem unfenced_eq_self_iff : unfenced text = text.splitOn '\n' ↔ Cleared (text.splitOn '\n') := by
  have opened := filterInit_sublist (!isOpening ·) (text.splitOn '\n')
  have closed := filterTail_sublist (!isClosing ·) (filterInit (!isOpening ·) (text.splitOn '\n'))
  constructor
  · intro same
    have between : (text.splitOn '\n').Sublist (filterInit (!isOpening ·) (text.splitOn '\n')) := by
      rw [unfenced] at same
      rwa [same] at closed
    have noneOpens := opened.antisymm between
    rw [unfenced, noneOpens] at same
    refine ⟨fun line member => ?_, fun line member => ?_⟩
    · simpa using filterInit_eq_self_iff.1 noneOpens line member
    · simpa using filterTail_eq_self_iff.1 same line member
  · rintro ⟨noneOpens, noneCloses⟩
    have initial : filterInit (!isOpening ·) (text.splitOn '\n') = text.splitOn '\n' :=
      filterInit_eq_self_iff.2 fun line member => by simpa using noneOpens line member
    rw [unfenced, initial]
    exact filterTail_eq_self_iff.2 fun line member => by simpa using noneCloses line member

theorem unfenced_sublist (text : List Char) : (unfenced text).Sublist (text.splitOn '\n') :=
  (filterTail_sublist _ _).trans (filterInit_sublist _ _)

theorem lineFeed_notMem_unfenced (text : List Char) : ∀ line ∈ unfenced text, '\n' ∉ line :=
  fun line member => lineFeed_notMem_splitOn text line ((unfenced_sublist text).subset member)

theorem unfenced_ne_nil (text : List Char) : unfenced text ≠ [] := by
  obtain ⟨first, others, lines⟩ := List.exists_cons_of_ne_nil
    (filterInit_ne_nil (!isOpening ·) (List.splitOn_ne_nil '\n' text))
  rw [unfenced, lines]
  exact List.cons_ne_nil first _

theorem mem_dropLast_append (member : line ∈ front) (more : behind ≠ []) :
    line ∈ (front ++ behind).dropLast := by
  rw [List.dropLast_append_of_ne_nil more]
  exact List.mem_append_left _ member

theorem mem_tail_append (more : front ≠ []) (member : line ∈ behind) : line ∈ (front ++ behind).tail := by
  rw [List.tail_append_of_ne_nil more]
  exact List.mem_append_right _ member

theorem sublist_dropLast (sublist : kept.Sublist lines) : kept.dropLast.Sublist lines.dropLast := by
  rw [← List.reverse_sublist, ← List.tail_reverse, ← List.tail_reverse]
  exact sublist.reverse.tail

/-- The lines that are left have no fence. -/
theorem cleared_unfenced (text : List Char) : Cleared (unfenced text) := by
  constructor
  · intro line member
    have opened : line ∈ (filterInit (!isOpening ·) (text.splitOn '\n')).dropLast :=
      (sublist_dropLast (filterTail_sublist _ _)).subset member
    obtain ⟨front, last, parts⟩ :=
      (text.splitOn '\n').eq_nil_or_concat'.resolve_left (List.splitOn_ne_nil '\n' text)
    rw [parts, filterInit_concat, List.dropLast_concat] at opened
    simpa using (List.mem_filter.1 opened).2
  · intro line member
    rw [unfenced, filterTail] at member
    cases lines : filterInit (!isOpening ·) (text.splitOn '\n') with
    | nil => simp [lines] at member
    | cons first others =>
      rw [lines] at member
      simpa using (List.mem_filter.1 member).2

end Filters

/-- A trimmed text stays as it is just where its lines have no fence. -/
theorem trim_joined_unfenced_iff (trimmed : trim text = text) :
    trim (joined (unfenced text)) = text ↔ Cleared (text.splitOn '\n') := by
  rw [← unfenced_eq_self_iff]
  constructor
  · intro same
    have shorter := (trim_sublist (joined (unfenced text))).length_le
    rw [same] at shorter
    refine eq_of_sublist_of_length (unfenced_sublist text) (unfenced_ne_nil text)
      (lineFeed_notMem_splitOn text) ?_
    rwa [joined_splitOn]
  · intro same
    rw [same, joined_splitOn, trimmed]

section Exposing

theorem isBlankText_joined_iff : IsBlankText (joined lines) ↔ ∀ line ∈ lines, IsBlankText line := by
  by_cases empty : lines = []
  · subst empty
    simp [IsBlankText, joined, List.intercalate_nil]
  · have lineFeed : IsBlankText ('\n' :: joined lines) ↔ IsBlankText (joined lines) :=
      List.forall_mem_cons.trans (and_iff_right rfl)
    have ahead (line : List Char) : IsBlankText ('\n' :: line) ↔ IsBlankText line :=
      List.forall_mem_cons.trans (and_iff_right rfl)
    rw [← lineFeed, lineFeed_joined empty, IsBlankText, List.forall_mem_flatMap]
    exact forall₂_congr fun line _ => ahead line

theorem exists_shown_of_joined (more : ∃ line ∈ lines, ¬IsBlankText line) :
    ¬IsBlankText (joined lines) ∧ lines ≠ [] := by
  obtain ⟨line, member, shown⟩ := more
  exact ⟨fun blank => shown (isBlankText_joined_iff.1 blank line member), List.ne_nil_of_mem member⟩

/-- A fence on the first line that shows something comes to the beginning of the text. -/
theorem trim_joined_from (blank : ∀ line ∈ front, IsBlankText line) (lead_blank : IsBlankText lead)
    (more : ∃ line ∈ behind, ¬IsBlankText line) :
    trim (joined (front ++ (lead ++ (fence ++ rest)) :: behind)) =
      fence ++ rest ++ '\n' :: trimEnd (joined behind) := by
  obtain ⟨shown, filled⟩ := exists_shown_of_joined more
  have ahead : IsBlankText (joined (front ++ [lead])) :=
    isBlankText_joined_iff.2 (List.forall_mem_append.2 ⟨blank, List.forall_mem_singleton.2 lead_blank⟩)
  have begins : trimStart (fence ++ rest ++ '\n' :: joined behind) =
      fence ++ rest ++ '\n' :: joined behind := rfl
  rw [← joined_glue, trim, trimStart_blanks ahead, joined_cons_of_ne_nil filled, begins, List.append_cons,
    trimEnd_append shown, ← List.append_cons]

/-- A fence on the last line that shows something comes to the end of the text. -/
theorem trim_joined_to (more : ∃ line ∈ front, ¬IsBlankText line) (trail_blank : IsBlankText trail)
    (blank : ∀ line ∈ behind, IsBlankText line) :
    trim (joined (front ++ (fence ++ trail) :: behind)) =
      trimStart (joined front) ++ '\n' :: fence := by
  obtain ⟨shown, filled⟩ := exists_shown_of_joined more
  have after : IsBlankText (joined (trail :: behind)) :=
    isBlankText_joined_iff.2 (List.forall_mem_cons.2 ⟨trail_blank, blank⟩)
  have fenced : ¬IsBlankText ('\n' :: fence) := by simp [IsBlankText, fence, isBlank]
  have ends : trimEnd (trimStart (joined front) ++ '\n' :: fence) =
      trimStart (joined front) ++ '\n' :: fence := trimEnd_append fenced
  rw [← joined_glue, joined_append filled (List.cons_ne_nil fence []), joined_singleton, trim,
    List.append_assoc, trimStart_append shown, ← List.append_assoc, trimEnd_blanks after, ends]

/-- What trimming brings to the ends of the text is a fence that it has. -/
theorem Exposes.not_cleared (exposes : Exposes lines) (clear : ∀ line ∈ lines, '\n' ∉ line) :
    ¬Cleared ((trim (joined lines)).splitOn '\n') := by
  intro cleared
  cases exposes with
  | @opening before lead line behind blank lead_blank indented opens more =>
    have clearLine : '\n' ∉ line := fun member =>
      clear _ (List.mem_append_right before (List.mem_cons_self ..)) (List.mem_append_right lead member)
    obtain ⟨language, rfl, letters⟩ := isOpening_iff.1 opens
    rw [trim_joined_from blank lead_blank more,
      List.splitOn_append_cons_self_of_not_mem clearLine] at cleared
    have first := mem_dropLast_append (List.mem_singleton_self (fence ++ language))
      (List.splitOn_ne_nil '\n' (trimEnd (joined behind)))
    exact cleared.opening _ first opens
  | @closing before trail behind more trail_blank other blank =>
    have alone : fence.splitOn '\n' = [fence] := by decide
    rw [trim_joined_to more trail_blank blank, List.splitOn_append_cons_self, alone] at cleared
    have last := mem_tail_append (List.splitOn_ne_nil '\n' (trimStart (joined before)))
      (List.mem_singleton_self fence)
    exact cleared.closing fence last (by decide)

/-- The lines of two texts one behind the other: the last and the first make one. -/
theorem splitOn_append {before rest last first : List Char} (ahead : before.splitOn '\n' = front ++ [last])
    (after : rest.splitOn '\n' = first :: behind) :
    (before ++ rest).splitOn '\n' = front ++ (last ++ first) :: behind := by
  have clear := lineFeed_notMem_splitOn before
  have clearRest := lineFeed_notMem_splitOn rest
  rw [ahead, List.forall_mem_append, List.forall_mem_singleton] at clear
  rw [after, List.forall_mem_cons] at clearRest
  rw [← joined_splitOn before, ← joined_splitOn rest, ahead, after, joined_glue]
  refine splitOn_joined ?_ (List.append_ne_nil_of_right_ne_nil _ (List.cons_ne_nil _ _))
  rw [List.forall_mem_append, List.forall_mem_cons, List.mem_append, not_or]
  exact ⟨clear.1, ⟨clear.2, clearRest.1⟩, clearRest.2⟩

/-- Of lines that are trimmed, the first and the last can be parts. -/
theorem exists_trimmed_lines {first last : List Char} {between : List (List Char)}
    (clear : ∀ line ∈ lines, '\n' ∉ line) (filled : lines ≠ [])
    (parts : (trim (joined lines)).splitOn '\n' = first :: (between ++ [last])) :
    ∃ before lead trail behind, (∀ line ∈ before, IsBlankText line) ∧ IsBlankText lead ∧
      IsBlankText trail ∧ (∀ line ∈ behind, IsBlankText line) ∧
      lines = before ++ (lead ++ first) :: (between ++ (last ++ trail) :: behind) := by
  obtain ⟨lead, trail, leadBlank, trailBlank, whole⟩ := exists_trim (joined lines)
  obtain ⟨before, l, ahead⟩ := (lead.splitOn '\n').eq_nil_or_concat'.resolve_left (List.splitOn_ne_nil _ _)
  obtain ⟨t, behind, after⟩ := List.exists_cons_of_ne_nil (List.splitOn_ne_nil '\n' trail)
  rw [← joined_splitOn lead, ahead, isBlankText_joined_iff, List.forall_mem_append,
    List.forall_mem_singleton] at leadBlank
  rw [← joined_splitOn trail, after, isBlankText_joined_iff, List.forall_mem_cons] at trailBlank
  refine ⟨before, l, t, behind, leadBlank.1, leadBlank.2, trailBlank.1, trailBlank.2, ?_⟩
  rw [← splitOn_joined clear filled, whole]
  have inner : (trim (joined lines) ++ trail).splitOn '\n' =
      first :: between ++ (last ++ t) :: behind := splitOn_append parts after
  exact splitOn_append ahead inner

/-- The first and the last line of a trimmed text show something, up to their ends. -/
theorem shown_ends {first last : List Char} {between : List (List Char)}
    (parts : (trim text).splitOn '\n' = first :: (between ++ [last])) :
    ¬IsBlankText first ∧ ¬IsBlankText last ∧
      ∀ front trail, last = front ++ trail → IsBlankText trail → trail = [] := by
  have begins : trim text = first ++ ['\n'] ++ joined (between ++ [last]) := by
    rw [← joined_splitOn (trim text), parts, joined_cons_of_ne_nil (by simp), List.append_cons]
  have ends : trim text = joined (first :: between) ++ '\n' :: last := by
    rw [← joined_splitOn (trim text), parts, ← List.cons_append,
      joined_append (List.cons_ne_nil _ _) (List.cons_ne_nil _ _), joined_singleton]
  refine ⟨fun blank => ?_, fun blank => ?_, ?_⟩
  · have blanks : IsBlankText (first ++ ['\n']) :=
      List.forall_mem_append.2 ⟨blank, List.forall_mem_singleton.2 rfl⟩
    exact List.append_ne_nil_of_right_ne_nil first (List.cons_ne_nil _ _)
      (lead_eq_nil_of_trim begins blanks)
  · have blanks : IsBlankText ('\n' :: last) := List.forall_mem_cons.2 ⟨rfl, blank⟩
    exact List.cons_ne_nil _ _ (trail_eq_nil_of_trim ends blanks)
  · rintro front trail rfl blank
    rw [← List.cons_append, ← List.append_assoc] at ends
    exact trail_eq_nil_of_trim ends blank

theorem isBlank_of_isFenceBlank {c : Char} (blank : isFenceBlank c = true) : isBlank c = true := by
  rw [isFenceBlank, Bool.or_eq_true, beq_iff_eq, beq_iff_eq] at blank
  rcases blank with rfl | rfl <;> rfl

/-- Of lines without a fence, one that opens code behind blanks does so only where it is indented. -/
theorem Exposes.of_opening (cleared : Cleared (front ++ (lead ++ line) :: behind))
    (blank : ∀ line ∈ front, IsBlankText line) (lead_blank : IsBlankText lead)
    (opens : isOpening line = true) (more : ∃ line ∈ behind, ¬IsBlankText line) :
    Exposes (front ++ (lead ++ line) :: behind) := by
  refine .opening blank lead_blank ?_ opens more
  rintro rfl
  have filled : behind ≠ [] := (exists_shown_of_joined more).2
  rw [List.append_cons] at cleared
  have early := mem_dropLast_append (List.mem_append_right front (List.mem_singleton_self line)) filled
  exact cleared.opening line early opens

/-- Of lines without a fence, one with a fence and blanks has others behind it than a closing fence. -/
theorem Exposes.of_closing (cleared : Cleared (front ++ (fence ++ trail) :: behind))
    (more : ∃ line ∈ front, ¬IsBlankText line) (trail_blank : IsBlankText trail)
    (blank : ∀ line ∈ behind, IsBlankText line) : Exposes (front ++ (fence ++ trail) :: behind) := by
  refine .closing more trail_blank ?_ blank
  rw [← Bool.not_eq_true]
  intro fenceBlanks
  have closes : isClosing (fence ++ trail) = true :=
    isClosing_iff.2 ⟨trail, rfl, List.all_eq_true.1 fenceBlanks⟩
  have late : fence ++ trail ∈ (front ++ (fence ++ trail) :: behind).tail :=
    mem_tail_append (exists_shown_of_joined more).2 (List.mem_cons_self ..)
  exact cleared.closing _ late closes

/-- Lines without a fence of which trimming exposes none have none when they are trimmed. -/
theorem cleared_trim (cleared : Cleared lines) (clear : ∀ line ∈ lines, '\n' ∉ line) (filled : lines ≠ [])
    (hidden : ¬Exposes lines) : Cleared ((trim (joined lines)).splitOn '\n') := by
  obtain ⟨first, others, parts⟩ := List.exists_cons_of_ne_nil
    (List.splitOn_ne_nil '\n' (trim (joined lines)))
  rcases others.eq_nil_or_concat' with rfl | ⟨between, last, rfl⟩
  · rw [parts]
    exact ⟨by simp, by simp⟩
  obtain ⟨shownFirst, shownLast, whole⟩ := shown_ends parts
  obtain ⟨before, lead, trail, behind, blank, leadBlank, trailBlank, blankBehind, rfl⟩ :=
    exists_trimmed_lines clear filled parts
  have toLast : before ++ (lead ++ first) :: (between ++ (last ++ trail) :: behind) =
      (before ++ (lead ++ first) :: between) ++ (last ++ trail) :: behind := by
    rw [List.append_assoc, List.cons_append]
  rw [parts]
  constructor
  · intro line member
    rw [← List.cons_append, List.dropLast_concat] at member
    rcases List.mem_cons.1 member with rfl | inside
    · intro opens
      have more : ∃ line ∈ between ++ (last ++ trail) :: behind, ¬IsBlankText line :=
        ⟨last ++ trail, by simp, fun blank => shownLast (List.forall_mem_append.1 blank).1⟩
      exact hidden (.of_opening cleared blank leadBlank opens more)
    · -- The lines between are whole ones, which the filters have seen.
      rw [toLast] at cleared
      refine cleared.opening line (mem_dropLast_append ?_ (List.cons_ne_nil _ _))
      exact List.mem_append_right before (List.mem_cons_of_mem _ inside)
  · intro line member
    rcases List.mem_append.1 member with inside | isLast
    · rw [List.append_cons] at cleared
      exact cleared.closing line (mem_tail_append (by simp) (List.mem_append_left _ inside))
    · obtain rfl := List.mem_singleton.1 isLast
      intro closes
      obtain ⟨blanks, rfl, areBlanks⟩ := isClosing_iff.1 closes
      -- The text ends here, and so without the blanks that a closing fence may have.
      obtain rfl := whole fence blanks rfl fun c member => isBlank_of_isFenceBlank (areBlanks c member)
      have more : ∃ line ∈ before ++ (lead ++ first) :: between, ¬IsBlankText line :=
        ⟨lead ++ first, by simp, fun blank => shownFirst (List.forall_mem_append.1 blank).2⟩
      rw [toLast, List.append_nil] at cleared hidden
      exact hidden (.of_closing cleared more trailBlank blankBehind)

end Exposing

/-- A second pass over a reply leaves it as it is, and no fence is left on a line where one would be taken
out, except where trimming has exposed one. -/
theorem withoutFences_again_iff (reply : String) :
    (withoutFences (withoutFences reply) = withoutFences reply ↔ ¬Exposes (unfenced reply.toList)) ∧
      (Cleared ((withoutFences reply).toList.splitOn '\n') ↔ ¬Exposes (unfenced reply.toList)) := by
  have clear := lineFeed_notMem_unfenced reply.toList
  have filled := unfenced_ne_nil reply.toList
  have text : (withoutFences reply).toList = trim (joined (unfenced reply.toList)) := by
    rw [withoutFences_eq, String.toList_ofList]
  have kept : Cleared ((withoutFences reply).toList.splitOn '\n') ↔ ¬Exposes (unfenced reply.toList) := by
    rw [text]
    exact ⟨fun cleared exposes => exposes.not_cleared clear cleared,
      cleared_trim (cleared_unfenced reply.toList) clear filled⟩
  refine ⟨?_, kept⟩
  have trimmed : trim (withoutFences reply).toList = (withoutFences reply).toList := by
    rw [text, trim_trim]
  rw [← kept, ← trim_joined_unfenced_iff trimmed, withoutFences_eq (withoutFences reply),
    ← String.toList_inj, String.toList_ofList]

/-- Trimming takes a fence out of its indentation, or a carriage return from behind it. -/
theorem indented_fence_left :
    withoutFences " ```tsx\ncode" = "```tsx\ncode" ∧
      withoutFences (withoutFences " ```tsx\ncode") = "code" ∧
      withoutFences "code\n```\r\n" = "code\n```" ∧
      withoutFences (withoutFences "code\n```\r\n") = "code" := by
  decide +kernel

end ComponentGate.Chat
