import ComponentGate.Proofs.Review.Graft

/-! Parts of outlines. A search finds a part and tells how the whole depends on it, so that another part can be
put in its place. It is sound if it finds what is put there, and if the names in the whole are those around the
part and those in the part. -/

namespace ComponentGate

open Syntax

namespace Outline

/-- What an outline spells if it is an identifier. -/
def name? (outline : Outline) : Option String :=
  if outline.isOneOf Document.identifierKinds then outline.text else none

/-- The names that identifiers in an outline spell. -/
def spelledNames (outline : Outline) : List String := outline.preorder.filterMap name?

/-- What construct an outline is of, and what it is to the one above it. -/
def face (outline : Outline) : Symbol × Option Role := (outline.symbol, outline.role)

def withChildren (children : List Outline) : Outline → Outline
  | node symbol role text _ => node symbol role text children

/-- A part, and a whole as a function of that part. -/
structure Focus (α : Type) where
  part : Outline
  around : Outline → α

namespace Focus

def here (outline : Outline) : Focus Outline := ⟨outline, id⟩

def map (frame : α → β) (focus : Focus α) : Focus β :=
  ⟨focus.part, fun part => frame (focus.around part)⟩

/-- A part of the part. -/
def deeper (outer : Focus α) (inner : Focus Outline) : Focus α :=
  ⟨inner.part, fun part => outer.around (inner.around part)⟩

end Focus

section Searches

/-- A search for a part of an outline. -/
abbrev Search := Outline → Option (Focus Outline)

/-- The first of some outlines that passes a test. -/
def firstOf (test : Outline → Bool) : List Outline → Option (Focus (List Outline))
  | [] => none
  | first :: rest =>
    if test first then some ⟨first, fun part => part :: rest⟩
    else (firstOf test rest).map (Focus.map (first :: ·))

/-- What is found in the first of some outlines in which anything is found. -/
def firstIn (find : Search) (outlines : List Outline) : Option (Focus (List Outline)) :=
  (firstOf (fun outline => (find outline).isSome) outlines).bind fun outer =>
    (find outer.part).map outer.deeper

/-- A search among an outline's own parts. -/
def within (find : List Outline → Option (Focus (List Outline))) : Search := fun outline =>
  (find outline.children).map (Focus.map fun children => outline.withChildren children)

/-- The first child that plays `role`. -/
def inRoleOf (role : Role) : Search := within (firstOf fun child => child.role == some role)

/-- What is found in what is found. -/
def andThen (first second : Search) : Search := fun outline =>
  (first outline).bind fun outer => (second outer.part).map outer.deeper

end Searches

section Soundness

/-- Whether a search finds what is put in the place of what it has found in a whole, if that is of the same
construct and plays the same role, and whether the names in the whole are those around the part and those in the
part. -/
structure SoundAt (names : α → List String) (outer : α → β) (find : α → Option (Focus α)) (whole : α) :
    Prop where
  again : ∀ {focus}, find whole = some focus → ∀ {part : Outline}, part.face = focus.part.face →
    find (focus.around part) = some ⟨part, focus.around⟩ ∧ outer (focus.around part) = outer whole
  balanced : ∀ {focus}, find whole = some focus → ∀ part name,
    (names (focus.around part)).count name + focus.part.spelledNames.count name =
      (names whole).count name + part.spelledNames.count name

/-- Soundness of a search for a part of an outline. -/
abbrev Search.SoundAt (find : Search) : Outline → Prop := Outline.SoundAt spelledNames face find

/-- Soundness of a search for a part of some outlines. -/
abbrev SoundAmong (find : List Outline → Option (Focus (List Outline))) : List Outline → Prop :=
  Outline.SoundAt (·.flatMap spelledNames) (·.map face) find

variable {find first second : Search} {test : Outline → Bool}

@[simp] theorem face_withChildren (children : List Outline) (outline : Outline) :
    (outline.withChildren children).face = outline.face := by
  cases outline
  rfl

@[simp] theorem children_withChildren (children : List Outline) (outline : Outline) :
    (outline.withChildren children).children = children := by
  cases outline
  rfl

@[simp] theorem name_withChildren (children : List Outline) (outline : Outline) :
    (outline.withChildren children).name? = outline.name? := by
  cases outline
  rfl

@[simp] theorem withChildren_withChildren (children children' : List Outline) (outline : Outline) :
    (outline.withChildren children).withChildren children' = outline.withChildren children' := by
  cases outline
  rfl

theorem spelledNames_eq (outline : Outline) :
    outline.spelledNames = outline.name?.toList ++ outline.children.flatMap spelledNames := by
  rw [spelledNames, preorder_eq, List.filterMap_cons, List.filterMap_flatMap]
  cases outline.name? <;> rfl

/-- An outline with other parts loses the names in its parts and gets those in the others. -/
theorem count_withChildren (children : List Outline) (outline : Outline) (name : String) :
    (outline.withChildren children).spelledNames.count name +
        (outline.children.flatMap spelledNames).count name =
      outline.spelledNames.count name + (children.flatMap spelledNames).count name := by
  rw [spelledNames_eq, spelledNames_eq outline, List.count_append, List.count_append, name_withChildren,
    children_withChildren]
  omega

theorem exists_of_firstOf {outlines : List Outline} {focus : Focus (List Outline)}
    (found : firstOf test outlines = some focus) :
    ∃ front back, outlines = front ++ focus.part :: back ∧ (∀ other ∈ front, test other = false) ∧
      test focus.part = true ∧ focus.around = fun part => front ++ part :: back := by
  induction outlines generalizing focus with
  | nil => cases found
  | cons head rest ih =>
    rw [firstOf] at found
    split at found
    · rename_i passes
      cases found
      exact ⟨[], rest, rfl, nofun, passes, rfl⟩
    · rename_i fails
      obtain ⟨later, deeper, rfl⟩ := Option.map_eq_some_iff.1 found
      obtain ⟨front, back, rfl, before, passes, around⟩ := ih deeper
      refine ⟨head :: front, back, rfl, ?_, passes, ?_⟩
      · rw [List.forall_mem_cons]
        exact ⟨Bool.eq_false_iff.2 fails, before⟩
      · rw [Focus.map, around]
        rfl

theorem firstOf_append {front : List Outline} (back : List Outline) {part : Outline}
    (before : ∀ other ∈ front, test other = false) (passes : test part = true) :
    firstOf test (front ++ part :: back) = some ⟨part, fun part => front ++ part :: back⟩ := by
  induction front with
  | nil => rw [List.nil_append, firstOf, if_pos passes]; rfl
  | cons head rest ih =>
    rw [List.forall_mem_cons] at before
    rw [List.cons_append, firstOf, before.1, ih before.2]
    rfl

theorem soundAmong_firstOf (faces : ∀ one other : Outline, one.face = other.face → test one = test other)
    (outlines : List Outline) : SoundAmong (firstOf test) outlines where
  again := by
    intro focus found part same
    obtain ⟨front, back, rfl, before, passes, around⟩ := exists_of_firstOf found
    rw [around]
    refine ⟨firstOf_append back before ((faces _ _ same).trans passes), ?_⟩
    simp only [List.map_append, List.map_cons, same]
  balanced := by
    intro focus found part name
    obtain ⟨front, back, rfl, before, passes, around⟩ := exists_of_firstOf found
    rw [around]
    simp only [List.flatMap_append, List.flatMap_cons, List.count_append]
    omega

theorem soundAmong_firstIn {outlines : List Outline} (sound : ∀ outline ∈ outlines, find.SoundAt outline) :
    SoundAmong (firstIn find) outlines where
  again := by
    intro focus found part same
    obtain ⟨outer, chosen, inner⟩ := Option.bind_eq_some_iff.1 found
    obtain ⟨focus, searched, rfl⟩ := Option.map_eq_some_iff.1 inner
    obtain ⟨front, back, rfl, before, -, around⟩ := exists_of_firstOf chosen
    obtain ⟨again, face⟩ := (sound outer.part (by simp)).again searched same
    have next := firstOf_append back before (by rw [again]; rfl)
    rw [Focus.deeper, around]
    constructor
    · rw [firstIn, next, Option.bind_some, again]
      rfl
    · simp only [List.map_append, List.map_cons, face]
  balanced := by
    intro focus found part name
    obtain ⟨outer, chosen, inner⟩ := Option.bind_eq_some_iff.1 found
    obtain ⟨focus, searched, rfl⟩ := Option.map_eq_some_iff.1 inner
    obtain ⟨front, back, rfl, before, -, around⟩ := exists_of_firstOf chosen
    have below := (sound outer.part (by simp)).balanced searched part name
    rw [Focus.deeper, around]
    simp only [List.flatMap_append, List.flatMap_cons, List.count_append]
    omega

theorem soundAt_within {find : List Outline → Option (Focus (List Outline))} {whole : Outline}
    (sound : SoundAmong find whole.children) : (within find).SoundAt whole where
  again := by
    intro focus found part same
    obtain ⟨inner, searched, rfl⟩ := Option.map_eq_some_iff.1 found
    obtain ⟨again, -⟩ := sound.again searched same
    refine ⟨?_, face_withChildren _ _⟩
    rw [within, Focus.map, children_withChildren, again, Option.map_some]
    simp only [Focus.map, withChildren_withChildren]
  balanced := by
    intro focus found part name
    obtain ⟨inner, searched, rfl⟩ := Option.map_eq_some_iff.1 found
    have below := sound.balanced searched part name
    have outer := count_withChildren (inner.around part) whole name
    simp only [Focus.map]
    omega

theorem soundAt_inRoleOf (role : Role) (whole : Outline) : (inRoleOf role).SoundAt whole := by
  apply soundAt_within
  apply soundAmong_firstOf
  intro one other same
  rw [(Prod.mk.inj same).2]

theorem soundAt_andThen {whole : Outline} (sound : first.SoundAt whole)
    (deeper : ∀ outer, first whole = some outer → second.SoundAt outer.part) :
    (andThen first second).SoundAt whole where
  again := by
    intro focus found part same
    obtain ⟨outer, chosen, inner⟩ := Option.bind_eq_some_iff.1 found
    obtain ⟨focus, searched, rfl⟩ := Option.map_eq_some_iff.1 inner
    obtain ⟨again, face⟩ := (deeper outer chosen).again searched same
    obtain ⟨again', face'⟩ := sound.again chosen face
    refine ⟨?_, face'⟩
    rw [andThen, Focus.deeper, again', Option.bind_some, again]
    rfl
  balanced := by
    intro focus found part name
    obtain ⟨outer, chosen, inner⟩ := Option.bind_eq_some_iff.1 found
    obtain ⟨focus, searched, rfl⟩ := Option.map_eq_some_iff.1 inner
    have below := (deeper outer chosen).balanced searched part name
    have above := sound.balanced chosen (focus.around part) name
    simp only [Focus.deeper]
    omega

theorem soundAt_ite {whole : Outline} (one : test whole = true → first.SoundAt whole)
    (two : test whole = false → second.SoundAt whole)
    (steady : ∀ focus, (if test whole then first whole else second whole) = some focus →
      ∀ part : Outline, part.face = focus.part.face → test (focus.around part) = test whole) :
    Search.SoundAt (fun outline => if test outline then first outline else second outline) whole where
  again := by
    intro focus found part same
    rw [steady focus found part same]
    cases passes : test whole with
    | true =>
      rw [passes, if_pos rfl] at found
      exact (one passes).again found same
    | false =>
      rw [passes, if_neg Bool.false_ne_true] at found
      exact (two passes).again found same
  balanced := by
    intro focus found
    cases passes : test whole with
    | true =>
      rw [passes, if_pos rfl] at found
      exact (one passes).balanced found
    | false =>
      rw [passes, if_neg Bool.false_ne_true] at found
      exact (two passes).balanced found

theorem soundAt_none (whole : Outline) : Search.SoundAt (fun _ => none) whole where
  again := nofun
  balanced := nofun

theorem soundAt_here (whole : Outline) : Search.SoundAt (fun outline => some (.here outline)) whole where
  again := by
    intro focus found part same
    cases found
    exact ⟨rfl, same⟩
  balanced := by
    intro focus found part name
    cases found
    exact Nat.add_comm _ _

/-- What a search does below an outline leaves the outline's own parts what they are. -/
theorem faces_of_andThen {find : List Outline → Option (Focus (List Outline))} {whole part : Outline}
    {focus : Focus Outline} (sound : SoundAmong find whole.children)
    (deeper : ∀ outline, second.SoundAt outline) (found : andThen (within find) second whole = some focus)
    (same : part.face = focus.part.face) :
    (focus.around part).children.map face = whole.children.map face := by
  obtain ⟨outer, chosen, inner⟩ := Option.bind_eq_some_iff.1 found
  obtain ⟨focus, searched, rfl⟩ := Option.map_eq_some_iff.1 inner
  obtain ⟨-, face⟩ := (deeper outer.part).again searched same
  obtain ⟨list, among, rfl⟩ := Option.map_eq_some_iff.1 chosen
  have faces := (sound.again among face).2
  simpa only [Focus.deeper, Focus.map, children_withChildren] using faces

end Soundness

section Parts

theorem part_firstOf (test : Outline → Bool) (outlines : List Outline) :
    (firstOf test outlines).map Focus.part = outlines.find? test := by
  induction outlines with
  | nil => rfl
  | cons first rest ih =>
    rw [firstOf, List.find?_cons, ← ih]
    cases test first with
    | true => rfl
    | false =>
      rw [if_neg Bool.false_ne_true, Option.map_map]
      rfl

theorem part_within (test : Outline → Bool) (outline : Outline) :
    (within (firstOf test) outline).map Focus.part = outline.children.find? test := by
  rw [← part_firstOf, within, Option.map_map]
  rfl

theorem part_andThen (first second : Search) (outline : Outline) :
    (andThen first second outline).map Focus.part =
      ((first outline).map Focus.part).bind fun part => (second part).map Focus.part := by
  rw [andThen]
  cases first outline with
  | none => rfl
  | some outer =>
    rw [Option.bind_some, Option.map_map]
    rfl

theorem part_firstIn (find : Search) (outlines : List Outline) :
    (firstIn find outlines).map Focus.part =
      outlines.findSome? fun outline => (find outline).map Focus.part := by
  induction outlines with
  | nil => rfl
  | cons first rest ih =>
    rw [List.findSome?_cons, ← ih, firstIn, firstOf]
    cases found : find first with
    | some focus =>
      rw [Option.isSome_some, if_pos rfl, Option.bind_some, found]
      rfl
    | none =>
      rw [Option.isSome_none, if_neg Bool.false_ne_true, firstIn]
      cases firstOf (fun outline => (find outline).isSome) rest with
      | none => rfl
      | some outer =>
        simp only [Option.map_some, Option.bind_some, Focus.map, Option.map_map]
        rfl

end Parts

end Outline

end ComponentGate
