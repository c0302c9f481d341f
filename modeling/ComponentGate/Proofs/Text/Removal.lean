import Mathlib.Data.List.Infix
import ComponentGate.Text.Removal

/-! Removing parts of a text in one reading. What is left is a sublist. A word of what is left stood in the
text with removed parts between its characters, and a word that stands there in this way is left, unless a
part reaches into it. -/

namespace ComponentGate.Text

section Runs

variable {p : Char → Bool} {run rest text : List Char} {c : Char}

theorem takeWhile_run (all : ∀ c ∈ run, p c = true) (ends : p c = false) :
    (run ++ c :: rest).takeWhile p = run := by
  rw [List.takeWhile_append_of_pos all, List.takeWhile_cons_of_neg (by simp [ends]), List.append_nil]

theorem exists_behind_run (ends : (text.drop (text.takeWhile p).length).head? = some c) :
    ∃ more, text = text.takeWhile p ++ c :: more := by
  obtain ⟨more, behind⟩ := List.head?_eq_some_iff.1 ends
  have parts := List.prefix_iff_eq_append.1 (List.takeWhile_prefix (p := p) (l := text))
  rw [behind] at parts
  exact ⟨more, parts.symm⟩

end Runs

theorem removeMatches_sublist (pattern : Pattern) (text : List Char) :
    (removeMatches pattern text).Sublist text := by
  fun_induction removeMatches pattern text with
  | case1 => exact .slnil
  | case2 c rest count found ih => exact .cons c (ih.trans (List.drop_sublist _ _))
  | case3 c rest clear ih => exact ih.cons_cons c

/-- Parts that are not empty and have no character behind their own beginning that begins one. -/
structure Separate (part : List Char → Prop) : Prop where
  filled : ∀ {found}, part found → found ≠ []
  apart : ∀ {found first more}, part found → part (first :: more) → first ∉ found.tail

/-- A pattern that matches where a text begins with one of these parts, and there matches this part. -/
structure Recognizes (pattern : Pattern) (part : List Char → Prop) : Prop extends Separate part where
  matches_of : ∀ {found} rest, part found → pattern (found ++ rest) = some found.length
  of_matches : ∀ {text count}, pattern text = some count →
    ∃ found rest, text = found ++ rest ∧ part found ∧ count = found.length

/-- One reading of a text: a part that stands next is removed, else one character is kept. -/
inductive Removes (part : List Char → Prop) : (text kept : List Char) → Prop where
  | done : Removes part [] []
  | removed (found : part between) (below : Removes part rest kept) :
      Removes part (between ++ rest) kept
  | kept (clear : ∀ found, part found → ¬found <+: c :: rest) (below : Removes part rest kept) :
      Removes part (c :: rest) (c :: kept)

/-- A word with parts between its characters. -/
inductive Laced (part : List Char → Prop) : (word text : List Char) → Prop where
  | last (c : Char) : Laced part [c] [c]
  | next (c : Char) {founds : List (List Char)} (between : ∀ found ∈ founds, part found)
      (below : Laced part word text) :
      Laced part (c :: word) (c :: (founds.flatten ++ text))

variable {pattern : Pattern} {part : List Char → Prop} {text rest kept word : List Char}

theorem Recognizes.removes (recognizes : Recognizes pattern part) (text : List Char) :
    Removes part text (removeMatches pattern text) := by
  fun_induction removeMatches pattern text with
  | case1 => exact .done
  | case2 c rest count found ih =>
    obtain ⟨between, behind, parts, isPart, rfl⟩ := recognizes.of_matches found
    obtain ⟨first, more, rfl⟩ := List.exists_cons_of_ne_nil (recognizes.filled isPart)
    obtain ⟨rfl, same⟩ := List.cons.inj parts
    obtain rfl : rest = more ++ behind := same
    have left : (more ++ behind).drop ((c :: more).length - 1) = behind := List.drop_left
    rw [left] at ih ⊢
    exact .removed isPart ih
  | case3 c rest clear ih =>
    refine .kept (fun found isPart begins => ?_) ih
    obtain ⟨behind, parts⟩ := begins
    rw [← parts, recognizes.matches_of behind isPart] at clear
    cases clear

theorem Recognizes.removeMatches_eq (recognizes : Recognizes pattern part)
    (removes : Removes part text kept) : removeMatches pattern text = kept := by
  induction removes with
  | done => rw [removeMatches]
  | @removed between rest kept isPart below ih =>
    obtain ⟨first, more, rfl⟩ := List.exists_cons_of_ne_nil (recognizes.filled isPart)
    have found := recognizes.matches_of rest isPart
    have left : (more ++ rest).drop ((first :: more).length - 1) = rest := List.drop_left
    rw [List.cons_append] at found ⊢
    rw [removeMatches, found]
    exact (congrArg (removeMatches pattern) left).trans ih
  | @kept c rest kept clear below ih =>
    rw [removeMatches]
    cases found : pattern (c :: rest) with
    | none => rw [ih]
    | some count =>
      obtain ⟨between, behind, parts, isPart, _⟩ := recognizes.of_matches found
      exact absurd ⟨behind, parts.symm⟩ (clear between isPart)

theorem Removes.exists_founds (removes : Removes part text []) :
    ∃ founds : List (List Char), (∀ found ∈ founds, part found) ∧ text = founds.flatten := by
  generalize nothing : [] = kept at removes
  induction removes with
  | done => exact ⟨[], by simp, rfl⟩
  | @removed between rest kept isPart below ih =>
    obtain ⟨founds, areParts, rfl⟩ := ih nothing
    exact ⟨between :: founds, List.forall_mem_cons.2 ⟨isPart, areParts⟩, rfl⟩
  | kept clear below ih => cases nothing

/-- A word of what is left stood in the text with removed parts between its characters. -/
theorem Removes.exists_laced {before behind : List Char} (removes : Removes part text kept)
    (parts : kept = before ++ (word ++ behind)) (filled : word ≠ []) :
    ∃ front middle rest, text = front ++ (middle ++ rest) ∧ Laced part word middle ∧
      Removes part front before ∧ Removes part rest behind := by
  induction removes generalizing before word with
  | done =>
    obtain ⟨_, nothing⟩ := List.append_eq_nil_iff.1 parts.symm
    exact absurd (List.append_eq_nil_iff.1 nothing).1 filled
  | @removed between rest kept isPart below ih =>
    obtain ⟨front, middle, last, rfl, laced, first, behind⟩ := ih parts filled
    exact ⟨between ++ front, middle, last, by rw [List.append_assoc], laced, .removed isPart first, behind⟩
  | @kept c rest kept clear below ih =>
    cases before with
    | cons d before =>
      obtain ⟨rfl, same⟩ := List.cons.inj parts
      obtain ⟨front, middle, last, rfl, laced, first, behind⟩ := ih same filled
      refine ⟨c :: front, middle, last, rfl, laced, .kept (fun found isPart begins => ?_) first, behind⟩
      exact clear found isPart (begins.trans (List.prefix_append (c :: front) _))
    | nil =>
      obtain ⟨d, word, rfl⟩ := List.exists_cons_of_ne_nil filled
      obtain ⟨rfl, same⟩ := List.cons.inj parts
      cases word with
      | nil =>
        obtain rfl : kept = behind := same
        exact ⟨[], [c], rest, rfl, .last c, .done, below⟩
      | cons e word =>
        have parts : kept = [] ++ (e :: word ++ behind) := same
        obtain ⟨front, middle, last, rfl, laced, first, behind⟩ := ih parts (List.cons_ne_nil e word)
        obtain ⟨founds, areParts, rfl⟩ := first.exists_founds
        refine ⟨[], c :: (founds.flatten ++ middle), last, ?_, .next c areParts laced, .done, behind⟩
        rw [List.nil_append, List.cons_append, List.append_assoc]

section Sheltered

variable {front reach before behind : List Char}

/-- A word in which no part ends before its end, and beyond whose end none goes on. -/
structure Bounding (part : List Char → Prop) (word : List Char) : Prop where
  last : ∀ {one c}, part one → c ∈ one.dropLast → c ∉ word.getLast?
  inner : ∀ {one c}, part one → c ∈ one.getLast? → c ∉ word.dropLast

/-- A word that no part reaches into, unless one is the word itself. -/
structure Sheltered (part : List Char → Prop) (word : List Char) : Prop extends Bounding part word where
  ending : ∀ {front behind}, word = front ++ behind → part behind → front = []
  beginning : ∀ {front}, part (front ++ word) → front = []

theorem Laced.ne_nil (laced : Laced part word text) : word ≠ [] := by
  cases laced <;> exact List.cons_ne_nil _ _

theorem Bounding.tail {c d : Char} (bounding : Bounding part (c :: d :: word)) :
    Bounding part (d :: word) where
  last isPart inside := bounding.last isPart inside
  inner isPart ends inside := bounding.inner isPart ends (List.mem_cons_of_mem c inside)

theorem Laced.sublist (laced : Laced part word text) : word.Sublist text := by
  induction laced with
  | last c => exact .refl _
  | next c _ _ ih => exact (ih.trans (List.sublist_append_right _ _)).cons_cons c

/-- A part that reaches into a laced word from its beginning ends where the word does, and nothing stands
between the characters. -/
theorem Laced.reached (laced : Laced part word text) (separate : Separate part)
    (bounding : Bounding part word) (isPart : part (front ++ reach))
    (reaches : reach ≠ []) (stands : reach <+: text ++ behind) :
    reach = word ∧ text = word := by
  induction laced generalizing front reach with
  | last c =>
    obtain ⟨d, more, rfl⟩ := List.exists_cons_of_ne_nil reaches
    obtain ⟨rfl, _⟩ := List.cons_prefix_cons.1 stands
    cases more with
    | nil => exact ⟨rfl, rfl⟩
    | cons e more =>
      have inside : d ∈ (front ++ d :: e :: more).dropLast := by simp
      exact absurd rfl (bounding.last isPart inside)
  | @next word text c founds areParts below ih =>
    obtain ⟨d, more, rfl⟩ := List.exists_cons_of_ne_nil reaches
    obtain ⟨rfl, further⟩ := List.cons_prefix_cons.1 stands
    obtain ⟨e, word, rfl⟩ := List.exists_cons_of_ne_nil below.ne_nil
    cases more with
    | nil =>
      have ends : d ∈ (front ++ [d]).getLast? := by simp
      exact absurd (List.mem_cons_self ..) (bounding.inner isPart ends)
    | cons g more =>
      cases founds with
      | nil =>
        have longer : part (front ++ [d] ++ g :: more) := by simpa using isPart
        obtain ⟨same, plain⟩ := ih bounding.tail longer (List.cons_ne_nil g more) further
        exact ⟨congrArg (d :: ·) same, congrArg (d :: ·) plain⟩
      | cons found founds =>
        have isFound := areParts found (List.mem_cons_self ..)
        obtain ⟨first, rest, rfl⟩ := List.exists_cons_of_ne_nil (separate.filled isFound)
        obtain ⟨rfl, _⟩ := List.cons_prefix_cons.1 further
        have inside : g ∈ (front ++ d :: g :: more).tail := by cases front <;> simp
        exact absurd inside (separate.apart isPart isFound)

theorem Removes.append_removed {founds : List (List Char)} (areParts : ∀ found ∈ founds, part found)
    (below : Removes part rest kept) : Removes part (founds.flatten ++ rest) kept := by
  induction founds with
  | nil => exact below
  | cons found founds ih =>
    obtain ⟨isPart, others⟩ := List.forall_mem_cons.1 areParts
    rw [List.flatten_cons, List.append_assoc]
    exact .removed isPart (ih others)

/-- What two neighbouring texts leave, where no part lies across their border. -/
theorem Removes.append (first : Removes part text kept) (second : Removes part rest behind)
    (apart : ∀ {front reach}, part (front ++ reach) → front ≠ [] → reach ≠ [] → ¬reach <+: rest) :
    Removes part (text ++ rest) (kept ++ behind) := by
  induction first with
  | done => exact second
  | @removed between text kept isPart below ih =>
    rw [List.append_assoc]
    exact .removed isPart ih
  | @kept c text kept clear below ih =>
    refine .kept (fun found isPart begins => ?_) ih
    rcases List.prefix_or_prefix_of_prefix begins (List.prefix_append (c :: text) rest) with short | long
    · exact clear found isPart short
    · obtain ⟨reach, rfl⟩ := long
      have stands : reach <+: rest := (List.prefix_append_right_inj (c :: text)).1 begins
      by_cases reaches : reach = []
      · subst reaches
        exact clear _ isPart (by rw [List.append_nil])
      · exact apart isPart (List.cons_ne_nil c text) reaches stands

theorem Laced.clear (laced : Laced part word text) (separate : Separate part)
    (bounding : Bounding part word) (altered : part word → text ≠ word) :
    ∀ found, part found → ¬found <+: text ++ rest := by
  intro found isPart begins
  have reach : part ([] ++ found) := isPart
  obtain ⟨rfl, plain⟩ := laced.reached separate bounding reach (separate.filled isPart) begins
  exact altered isPart plain

theorem Laced.removes (laced : Laced part word text) (separate : Separate part)
    (bounding : Bounding part word)
    (ending : ∀ {front reach}, word = front ++ reach → part reach → front = [])
    (altered : part word → text ≠ word) (below : Removes part rest behind) :
    Removes part (text ++ rest) (word ++ behind) := by
  have clear : ∀ found, part found → ¬found <+: text ++ rest := laced.clear separate bounding altered
  induction laced with
  | last c => exact .kept clear below
  | @next word text c founds areParts laced ih =>
    obtain ⟨d, word, rfl⟩ := List.exists_cons_of_ne_nil laced.ne_nil
    have free {front reach : List Char} (same : d :: word = front ++ reach) (isPart : part reach) :
        False := List.cons_ne_nil c front (ending (congrArg (c :: ·) same) isPart)
    have whole : d :: word = [] ++ d :: word := rfl
    have plain (isPart : part (d :: word)) : text ≠ d :: word := (free whole isPart).elim
    have left := ih bounding.tail (fun same isPart => (free same isPart).elim) plain
      (laced.clear separate bounding.tail plain)
    have removed := left.append_removed areParts
    rw [← List.append_assoc] at removed
    exact .kept clear removed

/-- A sheltered word that stands in a text with parts between its characters is left, unless it is a part
and nothing stands between them. -/
theorem Sheltered.removes {middle : List Char} (sheltered : Sheltered part word)
    (separate : Separate part) (laced : Laced part word middle) (altered : part word → middle ≠ word)
    (first : Removes part text before) (last : Removes part rest behind) :
    Removes part (text ++ (middle ++ rest)) (before ++ (word ++ behind)) := by
  have left := laced.removes separate sheltered.toBounding sheltered.ending altered last
  refine first.append left fun {front reach} isPart begins reaches stands => ?_
  obtain ⟨rfl, _⟩ := laced.reached separate sheltered.toBounding isPart reaches stands
  exact begins (sheltered.beginning isPart)

theorem Separate.removes {found : List Char} (separate : Separate part) (isPart : part found)
    (first : Removes part text before) (last : Removes part rest behind) :
    Removes part (text ++ (found ++ rest)) (before ++ behind) := by
  refine first.append (.removed isPart last) fun {front reach} isOther begins reaches stands => ?_
  obtain ⟨c, more, rfl⟩ := List.exists_cons_of_ne_nil (separate.filled isPart)
  obtain ⟨d, further, rfl⟩ := List.exists_cons_of_ne_nil reaches
  obtain ⟨e, front, rfl⟩ := List.exists_cons_of_ne_nil begins
  obtain ⟨rfl, _⟩ := List.cons_prefix_cons.1 stands
  exact separate.apart isOther isPart (List.mem_append_right front (List.mem_cons_self ..))

/-- Where a part stands, nothing is left. -/
theorem Recognizes.eq_nil_of_part {found : List Char} (recognizes : Recognizes pattern part)
    (isPart : part found) (first : Removes part text before) (last : Removes part rest behind)
    (left : removeMatches pattern (text ++ (found ++ rest)) = before ++ (kept ++ behind)) :
    kept = [] := by
  rw [recognizes.removeMatches_eq (recognizes.toSeparate.removes isPart first last)] at left
  have same := List.append_cancel_left left
  exact (List.self_eq_append_left.1 same)

end Sheltered

section Framed

variable {opens : Char → Prop} {close : Char}

/-- A word between an opening and a closing character, neither of which it has inside. -/
def Framed (opens : Char → Prop) (close : Char) (word : List Char) : Prop :=
  ∃ first inner, word = first :: (inner ++ [close]) ∧ opens first ∧ first ≠ close ∧
    ∀ c ∈ inner, ¬opens c ∧ c ≠ close

theorem Framed.ne_nil (framed : Framed opens close word) : word ≠ [] := by
  obtain ⟨first, inner, rfl, _⟩ := framed
  exact List.cons_ne_nil _ _

theorem Framed.getLast?_eq (framed : Framed opens close word) : word.getLast? = some close := by
  obtain ⟨first, inner, rfl, _⟩ := framed
  rw [← List.cons_append, List.getLast?_concat]

theorem Framed.opens_of_cons {c : Char} (framed : Framed opens close (c :: word)) : opens c := by
  obtain ⟨first, inner, same, starts, _⟩ := framed
  obtain ⟨rfl, _⟩ := List.cons.inj same
  exact starts

theorem Framed.not_opens_of_mem_tail {c : Char} (framed : Framed opens close word)
    (shut : ¬opens close) (member : c ∈ word.tail) : ¬opens c := by
  obtain ⟨first, inner, rfl, _, _, clear⟩ := framed
  rcases List.mem_append.1 member with inside | last
  · exact (clear c inside).1
  · rw [List.mem_singleton.1 last]
    exact shut

theorem Framed.close_notMem_dropLast (framed : Framed opens close word) : close ∉ word.dropLast := by
  obtain ⟨first, inner, rfl, _, differs, clear⟩ := framed
  rw [← List.cons_append, List.dropLast_concat]
  rintro (_ | ⟨_, inside⟩)
  · exact differs rfl
  · exact (clear close inside).2 rfl

theorem separate_of_framed (framed : ∀ {found}, part found → Framed opens close found)
    (shut : ¬opens close) : Separate part where
  filled isPart := (framed isPart).ne_nil
  apart isPart begins inside :=
    (framed isPart).not_opens_of_mem_tail shut inside (framed begins).opens_of_cons

/-- A word in the frame of the parts is sheltered. -/
theorem Framed.sheltered (word_framed : Framed opens close word)
    (framed : ∀ {found}, part found → Framed opens close found) (shut : ¬opens close) :
    Sheltered part word where
  last isPart inside ends := by
    rw [word_framed.getLast?_eq] at ends
    cases ends
    exact (framed isPart).close_notMem_dropLast inside
  inner isPart ends inside := by
    rw [(framed isPart).getLast?_eq] at ends
    cases ends
    exact word_framed.close_notMem_dropLast inside
  ending {front behind} same isPart := by
    obtain ⟨c, more, rfl⟩ := List.exists_cons_of_ne_nil (framed isPart).ne_nil
    cases front with
    | nil => rfl
    | cons d front =>
      have inside : c ∈ word.tail := by simp [same]
      exact absurd (framed isPart).opens_of_cons (word_framed.not_opens_of_mem_tail shut inside)
  beginning {front} isPart := by
    obtain ⟨c, more, rfl⟩ := List.exists_cons_of_ne_nil word_framed.ne_nil
    cases front with
    | nil => rfl
    | cons d front =>
      have inside : c ∈ (d :: front ++ c :: more).tail := by simp
      exact absurd word_framed.opens_of_cons ((framed isPart).not_opens_of_mem_tail shut inside)

/-- A word without the closing character of the parts, whose own last character they do not have. -/
theorem sheltered_of_foreign {last : Char} (framed : ∀ {found}, part found → Framed opens close found)
    (ends : word.getLast? = some last) (foreign : ∀ {found}, part found → last ∉ found)
    (open_word : close ∉ word) : Sheltered part word where
  last isPart inside same := by
    rw [ends] at same
    cases same
    exact foreign isPart (List.dropLast_subset _ inside)
  inner isPart closes inside := by
    rw [(framed isPart).getLast?_eq] at closes
    cases closes
    exact open_word (List.dropLast_subset _ inside)
  ending {front behind} same isPart := by
    have closes := List.mem_of_getLast? (framed isPart).getLast?_eq
    exact absurd (same ▸ List.mem_append_right front closes) open_word
  beginning {front} isPart := by
    have closes := List.mem_of_getLast? ends
    exact absurd (List.mem_append_right front closes) (foreign isPart)

/-- Parts stand in front of the last character of a laced word only. -/
theorem Laced.exists_inner {inner : List Char} {last : Char} (laced : Laced part (inner ++ [last]) text) :
    ∃ wider, text = wider ++ [last] ∧ ∀ c ∈ wider, c ∈ inner ∨ ∃ found, part found ∧ c ∈ found := by
  induction inner generalizing text with
  | nil =>
    cases laced with
    | last => exact ⟨[], rfl, by simp⟩
    | next _ _ below => exact absurd rfl below.ne_nil
  | cons d inner ih =>
    generalize same : d :: inner ++ [last] = word at laced
    cases laced with
    | last c => simp at same
    | @next word text c founds areParts below =>
      obtain ⟨rfl, rfl⟩ := List.cons.inj same
      obtain ⟨wider, rfl, members⟩ := ih below
      refine ⟨d :: (founds.flatten ++ wider), by simp, ?_⟩
      rintro c (_ | ⟨_, member⟩)
      · exact .inl (List.mem_cons_self ..)
      · rcases List.mem_append.1 member with between | behind
        · obtain ⟨found, listed, inside⟩ := List.mem_flatten.1 between
          exact .inr ⟨found, areParts found listed, inside⟩
        · exact (members c behind).imp_left (List.mem_cons_of_mem d)

theorem Laced.framed (laced : Laced part word text) (word_framed : Framed opens close word)
    (clear : ∀ {found c}, part found → c ∈ found → ¬opens c ∧ c ≠ close) : Framed opens close text := by
  obtain ⟨first, inner, rfl, starts, differs, inside⟩ := word_framed
  generalize same : first :: (inner ++ [close]) = word at laced
  cases laced with
  | last c => simp at same
  | @next word text c founds areParts below =>
    obtain ⟨rfl, rfl⟩ := List.cons.inj same
    obtain ⟨wider, rfl, members⟩ := below.exists_inner
    refine ⟨first, founds.flatten ++ wider, by simp, starts, differs, fun c member => ?_⟩
    rcases List.mem_append.1 member with between | behind
    · obtain ⟨found, listed, within⟩ := List.mem_flatten.1 between
      exact clear (areParts found listed) within
    · rcases members c behind with own | ⟨found, isPart, within⟩
      · exact inside c own
      · exact clear isPart within

theorem Laced.eq_or_exists_part (laced : Laced part word text) :
    text = word ∨ ∃ found, part found ∧ found ⊆ text := by
  induction laced with
  | last c => exact .inl rfl
  | @next word text c founds areParts below ih =>
    cases founds with
    | nil =>
      exact ih.imp (congrArg (c :: ·)) fun ⟨found, isPart, within⟩ =>
        ⟨found, isPart, List.subset_cons_of_subset c within⟩
    | cons found founds =>
      refine .inr ⟨found, areParts found (List.mem_cons_self ..), ?_⟩
      rw [List.flatten_cons, List.append_assoc]
      exact List.subset_cons_of_subset c (List.subset_append_left _ _)

end Framed

end ComponentGate.Text
