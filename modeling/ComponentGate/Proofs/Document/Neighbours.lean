import ComponentGate.Proofs.Document.Layout
import ComponentGate.Syntax.Parse

/-! What stands beside a statement when it is removed. Its removal takes blanks along on either side, up to
where its line begins and ends, and each side for itself: the line feed behind the statement goes although
something stands in front of it. -/

namespace ComponentGate

open Syntax Preamble

/-- Where what stands at an offset comes to stand when the range of an edit is taken away. -/
def Edit.moved (edit : Edit) (offset : Nat) : Nat :=
  if offset < edit.start then offset else offset - (edit.stop - edit.start).toNat

namespace Document

/-- Whether a byte shows at an offset. -/
def Shows (document : Document) (offset : Nat) : Prop :=
  (document.content[offset]?.any fun byte => !isBlankByte byte) = true

/-- Whether no line feed stands between two places. -/
def OnOneLine (bytes : List UInt8) (first second : Nat) : Prop :=
  ∀ offset < second, first ≤ offset → bytes[offset]? ≠ some lineFeed

/-- Whether nothing that shows stands in front of an offset on its line. -/
def LeadsLine (document : Document) (offset : Nat) : Prop :=
  ∀ place < offset, document.Shows place → ¬OnOneLine document.content place offset

/-- Whether nothing that shows stands from an offset on to the end of its line. -/
def EndsLine (document : Document) (offset : Nat) : Prop :=
  ∀ place, offset ≤ place → document.Shows place → ¬OnOneLine document.content offset place

/-- Whether an offset lies outside a node. -/
def Beside (statement : Tree) (offset : Nat) : Prop := offset < statement.start ∨ statement.stop ≤ offset

/-- Whether a byte belongs to other code than a statement's. -/
def Other (document : Document) (statement : Tree) (offset : Nat) : Prop :=
  document.Shows offset ∧ Beside statement offset

instance (statement : Tree) (offset : Nat) : Decidable (Beside statement offset) :=
  inferInstanceAs (Decidable (_ ∨ _))

/-- Whether the removal of a statement, which leaves the bytes `after`, takes a line only from under a
statement that is alone on it: a line feed beside the statement goes only where nothing else stands on the
statement's lines, and what stood beside it on different lines still does. -/
structure KeepsLines (document : Document) (statement : Tree) (after : List UInt8) : Prop where
  alone : ∀ feed : Nat, (document.removeStatement statement).covers feed = true → Beside statement feed →
    document.content[feed]? = some lineFeed →
    document.LeadsLine statement.start ∧ document.EndsLine statement.stop
  apart : ∀ first second, first ≤ second → document.Other statement first →
    document.Other statement second → ¬OnOneLine document.content first second →
    ¬OnOneLine after ((document.removeStatement statement).moved first)
      ((document.removeStatement statement).moved second)

section Lines

variable {bytes : List UInt8} {document : Document} {first second offset : Nat}

theorem Shows.lt (shown : document.Shows offset) : offset < document.content.length := by
  by_contra outside
  rw [Shows, List.getElem?_eq_none (Nat.le_of_not_lt outside)] at shown
  cases shown

theorem not_shows_of_lineFeed (feed : document.content[offset]? = some lineFeed) :
    ¬document.Shows offset := by
  rw [Shows, feed]
  decide

theorem not_leadsLine_iff : ¬document.LeadsLine offset ↔
    ∃ place < offset, document.Shows place ∧ OnOneLine document.content place offset := by
  simp only [LeadsLine]
  push Not
  rfl

theorem not_endsLine_iff : ¬document.EndsLine offset ↔
    ∃ place, offset ≤ place ∧ document.Shows place ∧ OnOneLine document.content offset place := by
  simp only [EndsLine]
  push Not
  rfl

theorem OnOneLine.mono {one two : Nat} (line : OnOneLine bytes first second) (front : first ≤ one)
    (back : two ≤ second) : OnOneLine bytes one two :=
  fun offset before behind => line offset (before.trans_le back) (front.trans behind)

theorem OnOneLine.trans {middle : Nat} (one : OnOneLine bytes first middle)
    (two : OnOneLine bytes middle second) : OnOneLine bytes first second := by
  intro offset before behind
  rcases Nat.lt_or_ge offset middle with front | back
  · exact one offset front behind
  · exact two offset before back

theorem isBlankBetween_iff {start stop : Nat} : document.isBlankBetween start stop = true ↔
    ∀ offset, start ≤ offset → offset < stop → ¬document.Shows offset := by
  constructor
  · intro blank offset behind before shown
    obtain ⟨byte, here, solid⟩ := (Option.any_eq_true _ _).1 shown
    have nothing := isBlank_of_isBlankBetween blank behind before here
    simp [nothing] at solid
  · intro hidden
    rw [isBlankBetween, List.all_eq_true, bytesFrom_eq]
    intro byte member
    obtain ⟨step, here⟩ := List.mem_iff_getElem?.1 member
    have before : step < stop - start := by
      by_contra outside
      rw [List.getElem?_take_eq_none (by omega)] at here
      cases here
    rw [List.getElem?_take_of_lt before, List.getElem?_drop] at here
    have nothing := hidden (start + step) (by omega) (by omega)
    rw [Shows, here] at nothing
    simpa using nothing

/-- No line feed stands between where a line begins and an offset on it. -/
theorem onOneLine_lineStart (offset : Nat) :
    OnOneLine document.content (document.lineStart offset) offset := by
  induction offset with
  | zero => exact fun other before => absurd before (Nat.not_lt_zero _)
  | succ offset ih =>
    rw [lineStart]
    split
    · exact fun other before behind => by omega
    · rename_i plain
      rw [byteAt_eq, beq_iff_eq] at plain
      intro other before behind
      rcases Nat.lt_succ_iff_lt_or_eq.1 before with front | rfl
      · exact ih other front behind
      · exact plain

theorem lineStart_le_of_onOneLine (line : OnOneLine document.content first offset) :
    document.lineStart offset ≤ first := by
  rcases @lineStart_opens document offset with zero | ⟨before, next, feed⟩
  · omega
  · by_contra! later
    have within := @lineStart_le document offset
    exact line before (by omega) (by omega) feed

/-- The blanks between where a line begins and an offset on it are all that stands there. -/
theorem leadsLine_iff :
    document.LeadsLine offset ↔ document.isBlankBetween (document.lineStart offset) offset = true := by
  rw [isBlankBetween_iff]
  constructor
  · intro leads place behind before shown
    exact leads place before shown ((onOneLine_lineStart offset).mono behind (Nat.le_refl _))
  · intro hidden place before shown line
    exact hidden place (lineStart_le_of_onOneLine line) before shown

instance (document : Document) (offset : Nat) : Decidable (document.LeadsLine offset) :=
  decidable_of_iff _ leadsLine_iff.symm

theorem onOneLine_of_lineFeedFrom {lineEnd : Nat} (found : document.lineFeedFrom offset = some lineEnd) :
    OnOneLine document.content offset lineEnd := by
  intro other before behind feed
  have first := (of_lineFeedFrom found).2.2 other behind feed
  omega

theorem endsLine_iff_of_some {lineEnd : Nat} (found : document.lineFeedFrom offset = some lineEnd) :
    document.EndsLine offset ↔ document.isBlankBetween offset lineEnd = true := by
  obtain ⟨behind, feed, -⟩ := of_lineFeedFrom found
  rw [isBlankBetween_iff]
  constructor
  · intro ends place back before shown
    exact ends place back shown
      ((onOneLine_of_lineFeedFrom found).mono (Nat.le_refl _) (Nat.le_of_lt before))
  · intro hidden place back shown line
    rcases Nat.lt_or_ge lineEnd place with further | near
    · exact line lineEnd further behind feed
    · rcases Nat.lt_or_eq_of_le near with before | rfl
      · exact hidden place back before shown
      · exact not_shows_of_lineFeed feed shown

theorem endsLine_iff_of_none (none : document.lineFeedFrom offset = none) :
    document.EndsLine offset ↔ document.isBlankBetween offset document.bytes.size = true := by
  rw [isBlankBetween_iff]
  constructor
  · intro ends place back _ shown
    exact ends place back shown
      fun other _ behind => of_lineFeedFrom_eq_none none behind
  · intro hidden place back shown _
    exact hidden place back shown.lt shown

end Lines

section Beside

variable {document : Document} {statement : Tree}

/-- The removal begins at the statement unless that leads its line, then where the line begins. -/
theorem clearedFrom_eq (document : Document) (statement : Tree) :
    document.clearedFrom statement =
      if document.LeadsLine statement.start then document.lineStart statement.start
      else statement.start := by
  rw [clearedFrom]
  simp only [leadsLine_iff]

/-- No line feed in front of a statement is removed. -/
theorem onOneLine_clearedFrom (document : Document) (statement : Tree) :
    OnOneLine document.content (document.clearedFrom statement) statement.start := by
  rw [clearedFrom_eq]
  split
  · exact onOneLine_lineStart _
  · exact fun offset before behind => by omega

/-- Where a statement ends its line, its removal ends with that. -/
theorem clearedTo_of_endsLine (ends : document.EndsLine statement.stop) :
    (∃ feed, statement.stop ≤ feed ∧ document.content[feed]? = some lineFeed ∧
        OnOneLine document.content statement.stop feed ∧ document.clearedTo statement = feed + 1) ∨
      (∀ offset, statement.stop ≤ offset → document.content[offset]? ≠ some lineFeed) ∧
        document.clearedTo statement = document.bytes.size := by
  rw [clearedTo]
  split
  · rename_i lineEnd found
    rw [if_pos ((endsLine_iff_of_some found).1 ends)]
    obtain ⟨behind, feed, -⟩ := of_lineFeedFrom found
    exact .inl ⟨lineEnd, behind, feed, onOneLine_of_lineFeedFrom found, rfl⟩
  · rename_i none
    rw [if_pos ((endsLine_iff_of_none none).1 ends)]
    exact .inr ⟨fun offset => of_lineFeedFrom_eq_none none, rfl⟩

/-- A statement that something follows on its line is removed up to where it ends. -/
theorem clearedTo_eq_stop (followed : ¬document.EndsLine statement.stop) :
    document.clearedTo statement = statement.stop := by
  rw [clearedTo]
  split
  · rename_i found
    rw [if_neg fun blank => followed ((endsLine_iff_of_some found).2 blank)]
  · rename_i none
    rw [if_neg fun blank => followed ((endsLine_iff_of_none none).2 blank)]

end Beside

section Removal

variable {text : String} {bytes : List UInt8} {document : Document} {statement : Tree}
  {start stop first second offset : Nat}

theorem moved_delete (start stop offset : Nat) : (Edit.delete start stop).moved offset =
    if offset < start then offset else offset - (stop - start) := by
  simp only [Edit.moved, Edit.delete, Int.ofNat_lt, Int.toNat_sub]

/-- What is not removed stands at its new place. -/
theorem getElem?_moved (within : start ≤ bytes.length) (forward : start ≤ stop)
    (outside : offset < start ∨ stop ≤ offset) :
    (bytes.take start ++ bytes.drop stop)[(Edit.delete start stop).moved offset]? = bytes[offset]? := by
  have front : (bytes.take start).length = start := List.length_take_of_le within
  rw [moved_delete]
  rcases outside with before | behind
  · rw [if_pos before, List.getElem?_append_left (by omega), List.getElem?_take_of_lt before]
  · rw [if_neg (by omega), List.getElem?_append_right (by omega), List.getElem?_drop, front]
    congr 1
    omega

/-- Two places come together on a line where every line feed between them is removed. -/
theorem onOneLine_moved_iff (within : start ≤ bytes.length) (forward : start ≤ stop)
    (order : first ≤ second) (one : first < start ∨ stop ≤ first) (two : second < start ∨ stop ≤ second) :
    OnOneLine (bytes.take start ++ bytes.drop stop) ((Edit.delete start stop).moved first)
        ((Edit.delete start stop).moved second) ↔
      ∀ feed, first ≤ feed → feed < second → bytes[feed]? = some lineFeed →
        start ≤ feed ∧ feed < stop := by
  constructor
  · intro line feed behind before here
    by_contra kept
    have outside : feed < start ∨ stop ≤ feed := by omega
    have there := line ((Edit.delete start stop).moved feed)
    rw [getElem?_moved within forward outside, moved_delete, moved_delete, moved_delete] at there
    refine there ?_ ?_ here
    · split <;> split <;> omega
    · split <;> split <;> omega
  · intro removed place before behind here
    -- A line feed that is left stood somewhere outside the removed range.
    obtain ⟨feed, outside, there⟩ : ∃ feed, (feed < start ∨ stop ≤ feed) ∧
        (Edit.delete start stop).moved feed = place := by
      rcases Nat.lt_or_ge place start with front | back
      · exact ⟨place, .inl front, by rw [moved_delete, if_pos front]⟩
      · exact ⟨place + (stop - start), .inr (by omega), by rw [moved_delete, if_neg (by omega)]; omega⟩
    rw [← there, getElem?_moved within forward outside] at here
    have reached : first ≤ feed ∧ feed < second := by
      rw [← there] at before behind
      simp only [moved_delete] at before behind
      constructor
      · split at behind <;> split at behind <;> omega
      · split at before <;> split at before <;> omega
    have gone := removed feed reached.1 reached.2 here
    omega

theorem exists_render_removeStatement (ranged : Ranged text document)
    (visited : statement ∈ document.root.preorder) :
    ∃ after, document.render [document.removeStatement statement] = .ok after ∧
      bytesOf after = document.content.take (document.clearedFrom statement) ++
        document.content.drop (document.clearedTo statement) := by
  obtain ⟨fits, cuts⟩ := ranged.fits_removeStatement visited
  have clear : ¬Edit.Clashing [document.removeStatement statement] :=
    Edit.not_clashing_cons fits.forward (List.forall_mem_nil _) .nil (List.forall_mem_nil _)
  obtain ⟨after, rendered, bytes⟩ := render_of_cuttable ranged.read
    (List.forall_mem_singleton.2 fits) clear (List.forall_mem_singleton.2 cuts)
  have whole : document.content.take (document.bytes.size + 1) = document.content :=
    List.take_of_length_le (Nat.le_succ _)
  refine ⟨after, rendered, ?_⟩
  rw [bytes, Edit.cells_cons_of_apart fits (List.forall_mem_nil _) (List.forall_mem_nil _),
    written_removeStatement, List.nil_append, Edit.cells_of_lt (List.forall_mem_nil _),
    Edit.cells_of_lt (List.forall_mem_nil _), removeStatement_eq, List.drop_zero, whole]
  rfl

end Removal

section Apart

variable {text : String} {document : Document} {statement : Tree} {first second : Nat}
  {after : List UInt8}

/-- Whether some bytes are what the removal of a statement leaves. -/
structure Leaves (document : Document) (statement : Tree) (after : List UInt8) : Prop where
  front : document.clearedFrom statement ≤ statement.start
  forward : statement.start ≤ statement.stop
  back : statement.stop ≤ document.clearedTo statement
  within : document.clearedTo statement ≤ document.content.length
  bytes : after = document.content.take (document.clearedFrom statement) ++
    document.content.drop (document.clearedTo statement)

/-- Two places outside a statement come to stand on one line where its removal takes every line feed
between them. -/
theorem Leaves.onOneLine_iff (leaves : document.Leaves statement after) (order : first ≤ second)
    (one : document.Other statement first) (two : document.Other statement second) :
    OnOneLine after ((document.removeStatement statement).moved first)
        ((document.removeStatement statement).moved second) ↔
      ∀ feed, first ≤ feed → feed < second → document.content[feed]? = some lineFeed →
        document.clearedFrom statement ≤ feed ∧ feed < document.clearedTo statement := by
  obtain ⟨front, forward, back, within, bytes⟩ := leaves
  rw [removeStatement_eq, bytes]
  exact onOneLine_moved_iff (by omega) (by omega) order (not_cleared statement one.1 one.2)
    (not_cleared statement two.1 two.2)

/-- On either side of a statement lines stay as they are. -/
theorem Leaves.onOneLine_iff_of_same_side (leaves : document.Leaves statement after)
    (order : first ≤ second) (one : document.Shows first) (two : document.Shows second)
    (side : second < statement.start ∨ statement.stop ≤ first) :
    OnOneLine after ((document.removeStatement statement).moved first)
        ((document.removeStatement statement).moved second) ↔
      OnOneLine document.content first second := by
  have ⟨front, forward, back, _, _⟩ := leaves
  have before : Beside statement first := side.imp_left order.trans_lt
  have behind : Beside statement second := side.imp_right (le_trans · order)
  have kept : second < document.clearedFrom statement ∨ document.clearedTo statement ≤ first := by
    have one' := not_cleared statement one before
    have two' := not_cleared statement two behind
    omega
  rw [leaves.onOneLine_iff order ⟨one, before⟩ ⟨two, behind⟩]
  constructor
  · intro removed feed last start here
    have gone := removed feed start last here
    omega
  · intro line feed start last here
    exact absurd here (line feed last start)

/-- What stands in front of a statement and what stands behind it come to stand on one line where the
one stands on the line on which the statement begins and the other on that on which the removal ends. -/
theorem Leaves.onOneLine_iff_of_across (leaves : document.Leaves statement after)
    (one : document.Shows first) (two : document.Shows second) (before : first < statement.start)
    (behind : statement.stop ≤ second) :
    OnOneLine after ((document.removeStatement statement).moved first)
        ((document.removeStatement statement).moved second) ↔
      OnOneLine document.content first statement.start ∧
        OnOneLine document.content (document.clearedTo statement) second := by
  have ⟨front, forward, back, _, _⟩ := leaves
  rw [leaves.onOneLine_iff (by omega) ⟨one, .inl before⟩ ⟨two, .inr behind⟩]
  constructor
  · intro removed
    constructor
    · intro feed last start here
      have gone := removed feed start (by omega) here
      exact onOneLine_clearedFrom document statement feed last gone.1 here
    · intro feed last start here
      have gone := removed feed (by omega) last here
      omega
  · rintro ⟨lead, follow⟩ feed start last here
    have behind' : statement.start ≤ feed := by
      by_contra! early
      exact lead feed early start here
    have before' : feed < document.clearedTo statement := by
      by_contra! late
      exact follow feed last late here
    exact ⟨front.trans behind', before'⟩

/-- The line on which a removal ends is that of the statement's end, and the next one where the statement
ends its line. -/
theorem onOneLine_clearedTo_iff (two : document.Shows second) (behind : statement.stop ≤ second) :
    OnOneLine document.content (document.clearedTo statement) second ↔
      OnOneLine document.content statement.stop second ∨
        document.EndsLine statement.stop ∧
          ∃ feed, statement.stop ≤ feed ∧ document.content[feed]? = some lineFeed ∧
            OnOneLine document.content statement.stop feed ∧
            OnOneLine document.content (feed + 1) second := by
  by_cases ends : document.EndsLine statement.stop
  · have other := ends second behind two
    rcases clearedTo_of_endsLine ends with ⟨feed, past, here, line, last⟩ | ⟨none, -⟩
    · rw [last]
      constructor
      · exact fun follow => .inr ⟨ends, feed, past, here, line, follow⟩
      · rintro (same | ⟨-, feed', past', here', line', follow⟩)
        · exact absurd same other
        · obtain rfl : feed' = feed := by
            rcases Nat.lt_trichotomy feed' feed with less | same | more
            · exact absurd here' (line feed' less past')
            · exact same
            · exact absurd here (line' feed more past)
          exact follow
    · exact absurd (fun feed _ start => none feed start) other
  · rw [clearedTo_eq_stop ends]
    exact ⟨.inl, fun either => either.resolve_right fun next => ends next.1⟩

/-- A line feed beside a statement goes only where the statement is alone on its lines, exactly when it
leads its line wherever it ends one. -/
theorem Leaves.alone_iff (leaves : document.Leaves statement after) :
    (∀ feed : Nat, (document.removeStatement statement).covers feed = true → Beside statement feed →
        document.content[feed]? = some lineFeed →
        document.LeadsLine statement.start ∧ document.EndsLine statement.stop) ↔
      (document.EndsLine statement.stop →
        (∃ feed, statement.stop ≤ feed ∧ document.content[feed]? = some lineFeed) →
        document.LeadsLine statement.start) := by
  have ⟨front, forward, back, within, _⟩ := leaves
  have covers (feed : Nat) : (document.removeStatement statement).covers feed = true ↔
      document.clearedFrom statement ≤ feed ∧ feed < document.clearedTo statement := by
    rw [removeStatement_eq, Edit.covers_iff]
    exact and_congr Int.ofNat_le Int.ofNat_lt
  constructor
  · rintro alone ends ⟨other, past, here⟩
    rcases clearedTo_of_endsLine ends with ⟨feed, behind, there, -, last⟩ | ⟨none, -⟩
    · exact (alone feed ((covers feed).2 ⟨by omega, by omega⟩) (.inr behind) there).1
    · exact absurd here (none other past)
  · intro leads feed covered beside here
    obtain ⟨start, last⟩ := (covers feed).1 covered
    rcases beside with before | behind
    · exact absurd here (onOneLine_clearedFrom document statement feed before start)
    · have ends : document.EndsLine statement.stop := by
        by_contra followed
        rw [clearedTo_eq_stop followed] at last
        omega
      exact ⟨leads ends ⟨feed, behind, here⟩, ends⟩

/-- A removal keeps lines apart exactly when a statement that ends its line leads it too, and one that
goes over several lines leads the first or ends the last of them. -/
theorem Leaves.keepsLines_iff (leaves : document.Leaves statement after) :
    document.KeepsLines statement after ↔
      (document.EndsLine statement.stop →
        (∃ feed, statement.stop ≤ feed ∧ document.content[feed]? = some lineFeed) →
        document.LeadsLine statement.start) ∧
      (¬OnOneLine document.content statement.start statement.stop →
        document.LeadsLine statement.start ∨ document.EndsLine statement.stop) := by
  have ⟨_, forward, _, _, _⟩ := leaves
  constructor
  · rintro ⟨alone, apart⟩
    refine ⟨leaves.alone_iff.1 alone, fun long => ?_⟩
    by_contra! shared
    obtain ⟨first, before, one, lead⟩ := not_leadsLine_iff.1 shared.1
    obtain ⟨second, behind, two, follow⟩ := not_endsLine_iff.1 shared.2
    refine apart first second (by omega) ⟨one, .inl before⟩ ⟨two, .inr behind⟩ ?_ ?_
    · exact fun line => long (line.mono (Nat.le_of_lt before) behind)
    · rw [leaves.onOneLine_iff_of_across one two before behind, clearedTo_eq_stop shared.2]
      exact ⟨lead, follow⟩
  · rintro ⟨closes, long⟩
    refine ⟨leaves.alone_iff.2 closes, ?_⟩
    rintro first second order ⟨one, front⟩ ⟨two, back⟩ lines joined
    by_cases side : second < statement.start ∨ statement.stop ≤ first
    · exact lines ((leaves.onOneLine_iff_of_same_side order one two side).1 joined)
    · have before : first < statement.start := by
        rcases front with before | behind <;> omega
      have behind : statement.stop ≤ second := by
        rcases back with before | behind <;> omega
      rw [leaves.onOneLine_iff_of_across one two before behind,
        onOneLine_clearedTo_iff two behind] at joined
      have crowded : ¬document.LeadsLine statement.start := fun leads => leads first before one joined.1
      rcases joined.2 with follow | ⟨ends, feed, past, here, -⟩
      · have followed : ¬document.EndsLine statement.stop := fun ends => ends second behind two follow
        have short : OnOneLine document.content statement.start statement.stop := by
          by_contra several
          exact (long several).elim crowded followed
        exact lines ((joined.1.trans short).trans follow)
      · exact crowded (closes ends ⟨feed, past, here⟩)

theorem Ranged.exists_leaves (ranged : Ranged text document) (visited : statement ∈ document.root.preorder) :
    ∃ after, document.render [document.removeStatement statement] = .ok after ∧
      document.Leaves statement (bytesOf after) := by
  have within := ranged.stop_le visited
  obtain ⟨after, rendered, bytes⟩ := exists_render_removeStatement ranged visited
  exact ⟨after, rendered, clearedFrom_le document statement, ranged.forward statement visited,
    le_clearedTo within, clearedTo_le within, bytes⟩

/-- Removing a statement takes its own range and blanks next to it. That keeps lines apart exactly when the
statement leads its line wherever it ends one in front of another, and does not share both its first and its
last line where these are different ones. What stands on either side of it comes to stand on one line where
the one stood on the statement's first line, and the other on its last line or, where the statement ended
that, on the next one. -/
theorem removal_keeps_lines_iff (ranged : Ranged text document)
    (visited : statement ∈ document.root.preorder) :
    (∃ start stop : Nat, document.removeStatement statement = .delete start stop ∧
      start ≤ statement.start ∧ statement.stop ≤ stop ∧ stop ≤ document.content.length ∧
      ∀ offset, start ≤ offset → offset < stop → Beside statement offset → ¬document.Shows offset) ∧
    ∃ after, document.render [document.removeStatement statement] = .ok after ∧
      (document.KeepsLines statement (bytesOf after) ↔
        (document.EndsLine statement.stop →
          (∃ feed, statement.stop ≤ feed ∧ document.content[feed]? = some lineFeed) →
          document.LeadsLine statement.start) ∧
        (¬OnOneLine document.content statement.start statement.stop →
          document.LeadsLine statement.start ∨ document.EndsLine statement.stop)) ∧
      (∀ first second, document.Shows first → document.Shows second → first < statement.start →
        statement.stop ≤ second →
        (OnOneLine (bytesOf after) ((document.removeStatement statement).moved first)
            ((document.removeStatement statement).moved second) ↔
          OnOneLine document.content first statement.start ∧
            (OnOneLine document.content statement.stop second ∨
              document.EndsLine statement.stop ∧
                ∃ feed, statement.stop ≤ feed ∧ document.content[feed]? = some lineFeed ∧
                  OnOneLine document.content statement.stop feed ∧
                  OnOneLine document.content (feed + 1) second))) ∧
      ∀ first second, first ≤ second → document.Shows first → document.Shows second →
        second < statement.start ∨ statement.stop ≤ first →
        (OnOneLine (bytesOf after) ((document.removeStatement statement).moved first)
            ((document.removeStatement statement).moved second) ↔
          OnOneLine document.content first second) := by
  obtain ⟨after, rendered, leaves⟩ := ranged.exists_leaves visited
  refine ⟨⟨_, _, removeStatement_eq statement, leaves.front, leaves.back, leaves.within, ?_⟩,
    after, rendered, leaves.keepsLines_iff, ?_, ?_⟩
  · intro offset start last beside shown
    have kept := not_cleared statement shown beside
    omega
  · intro first second one two before behind
    rw [leaves.onOneLine_iff_of_across one two before behind, onOneLine_clearedTo_iff two behind]
  · exact fun first second order one two => leaves.onOneLine_iff_of_same_side order one two

/-- A declaration that is alone on its line. -/
def aloneDeclaration : String := "a();\n  const b = 1; \nc();\n"

theorem aloneDeclaration_keeps_lines :
    ∃ statement ∈ (read Syntax.parse aloneDeclaration).root.children,
      (read Syntax.parse aloneDeclaration).text statement = "const b = 1;" ∧
      ∃ after, (read Syntax.parse aloneDeclaration).render
          [(read Syntax.parse aloneDeclaration).removeStatement statement] = .ok after ∧
        (read Syntax.parse aloneDeclaration).KeepsLines statement (bytesOf after) := by
  have ranged : Ranged aloneDeclaration (read Syntax.parse aloneDeclaration) := by decide +kernel
  obtain ⟨statement, child, visited, spelled, leads⟩ :
      ∃ statement ∈ (read Syntax.parse aloneDeclaration).root.children,
        statement ∈ (read Syntax.parse aloneDeclaration).root.preorder ∧
        (read Syntax.parse aloneDeclaration).text statement = "const b = 1;" ∧
        (read Syntax.parse aloneDeclaration).LeadsLine statement.start := by
    decide +kernel
  obtain ⟨-, after, rendered, keeps, -⟩ := removal_keeps_lines_iff ranged visited
  exact ⟨statement, child, spelled, after, rendered, keeps.2 ⟨fun _ _ => leads, fun _ => .inl leads⟩⟩

/-- A declaration that ends the line on which another statement stands. -/
def ledDeclaration : String := "a(); const b = 1;\nc();\n"

/-- The next line is joined to the statement in front. -/
theorem ledDeclaration_joined :
    ∃ statement ∈ (read Syntax.parse ledDeclaration).root.children,
      (read Syntax.parse ledDeclaration).text statement = "const b = 1;" ∧
      ((read Syntax.parse ledDeclaration).render
          [(read Syntax.parse ledDeclaration).removeStatement statement]).toOption = some "a(); c();\n" ∧
      ¬(read Syntax.parse ledDeclaration).KeepsLines statement (bytesOf "a(); c();\n") := by
  obtain ⟨statement, child, spelled, rendered, covered, beside, crowded⟩ :
      ∃ statement ∈ (read Syntax.parse ledDeclaration).root.children,
        (read Syntax.parse ledDeclaration).text statement = "const b = 1;" ∧
        ((read Syntax.parse ledDeclaration).render
            [(read Syntax.parse ledDeclaration).removeStatement statement]).toOption =
          some "a(); c();\n" ∧
        ((read Syntax.parse ledDeclaration).removeStatement statement).covers 17 = true ∧
        Beside statement 17 ∧ ¬(read Syntax.parse ledDeclaration).LeadsLine statement.start := by
    decide +kernel
  have feed : (read Syntax.parse ledDeclaration).content[17]? = some lineFeed := by decide +kernel
  exact ⟨statement, child, spelled, rendered, fun keeps =>
    crowded (keeps.alone 17 covered beside feed).1⟩

end Apart

end Document

end ComponentGate
