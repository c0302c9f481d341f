import ComponentGate.Proofs.Review.Draft

/-! Frames. A frame is a node with a gap among its children, and frames from the inside out are a draft
with a gap. The rest of a draft sees what stands in the gap by its outlook only. -/

namespace ComponentGate

open Syntax

/-- `less` is `list` without some of its members, and shorter exactly where something is `lost`. -/
structure Trimmed (lost : Prop) (less list : List α) : Prop where
  sublist : less.Sublist list
  same_iff : less = list ↔ ¬lost

namespace Trimmed

theorem of_eq {lost : Prop} {less list : List α} (none : ¬lost) (same : less = list) :
    Trimmed lost less list := ⟨same ▸ List.Sublist.refl _, by simp [none, same]⟩

theorem self (list : List α) : Trimmed False list list := of_eq not_false rfl

theorem of_nil {lost : Prop} {list : List α} (gone : lost ↔ list ≠ []) : Trimmed lost [] list :=
  ⟨List.nil_sublist _, by rw [gone, not_not, eq_comm]⟩

theorem congr {lost gone : Prop} {less list : List α} (same : lost ↔ gone)
    (trimmed : Trimmed lost less list) : Trimmed gone less list :=
  ⟨trimmed.sublist, by rw [trimmed.same_iff, same]⟩

theorem append {lost gone : Prop} {less list less' list' : List α}
    (first : Trimmed lost less list) (second : Trimmed gone less' list') :
    Trimmed (lost ∨ gone) (less ++ less') (list ++ list') := by
  refine ⟨first.sublist.append second.sublist, ?_⟩
  rw [not_or, ← first.same_iff, ← second.same_iff]
  constructor
  · intro same
    have lengths := congrArg List.length same
    have shorter := first.sublist.length_le
    have shorter' := second.sublist.length_le
    simp only [List.length_append] at lengths
    exact ⟨first.sublist.eq_of_length (by omega), second.sublist.eq_of_length (by omega)⟩
  · rintro ⟨rfl, rfl⟩
    rfl

theorem map {lost : Prop} {less list : List α} (f : α → β) (trimmed : Trimmed lost less list) :
    Trimmed lost (less.map f) (list.map f) := by
  refine ⟨trimmed.sublist.map f, ?_⟩
  rw [← trimmed.same_iff]
  constructor
  · intro same
    have lengths := congrArg List.length same
    simp only [List.length_map] at lengths
    exact trimmed.sublist.eq_of_length lengths
  · rintro rfl
    rfl

end Trimmed

structure Frame where
  face : Face
  left : List Draft
  right : List Draft
  deriving DecidableEq, Repr

namespace Frame

def plug (frame : Frame) (draft : Draft) : Draft :=
  .node frame.face (frame.left ++ draft :: frame.right)

/-- Whether what stands in the gap is what a rule finds in a role. -/
def shows (frame : Frame) (draft : Draft) (role : Role) : Bool :=
  draft.face.role == some role && !frame.left.any fun other => other.face.role == some role

@[simp] theorem face_plug (frame : Frame) (draft : Draft) : (frame.plug draft).face = frame.face := rfl

theorem inside_plug (frame : Frame) (draft : Draft) :
    (frame.plug draft).inside =
      frame.left.map Draft.outlook ++ draft.outlook :: frame.right.map Draft.outlook := by
  simp [plug, Draft.inside]

end Frame

namespace Draft

/-- A draft with a gap, filled. -/
def fill : List Frame → Draft → Draft
  | [], draft => draft
  | frame :: outer, draft => fill outer (frame.plug draft)

/-- The part below a draft at the end of a path of positions, with the frames around it. -/
def descend : List Nat → List Frame → Draft → List Frame × Draft
  | [], outer, draft => (outer, draft)
  | position :: path, outer, draft =>
    if h : position < draft.children.length then
      descend path (⟨draft.face, draft.children.take position, draft.children.drop (position + 1)⟩ ::
        outer) draft.children[position]
    else (outer, draft)

theorem fill_descend (path : List Nat) (outer : List Frame) (draft : Draft) :
    fill (descend path outer draft).1 (descend path outer draft).2 = fill outer draft := by
  induction path generalizing outer draft with
  | nil => rfl
  | cons position path ih =>
    rw [descend]
    split
    · rename_i inside
      rw [ih, fill, Frame.plug, List.getElem_cons_drop, List.take_append_drop]
      cases draft
      rfl
    · rfl

end Draft

/-- The part of a document at the end of a path, with the frames around it. -/
def Document.gap (document : Document) (path : List Nat) : List Frame × Draft :=
  Draft.descend path [] (document.draft document.root)

theorem Document.fill_gap (document : Document) (path : List Nat) :
    document.draft document.root = .fill (document.gap path).1 (document.gap path).2 :=
  (Draft.fill_descend path [] _).symm

theorem role_outlook_draft (draft : Draft) : draft.outlook.role = draft.face.role := by
  rw [Draft.outlook_eq]
  rfl

section Roles

variable {frame : Frame} {draft other : Draft} {role : Role}

theorem role_of_shows (shown : frame.shows draft role = true) : draft.face.role = some role := by
  rw [Frame.shows, Bool.and_eq_true] at shown
  simpa using shown.1

theorem played_of_shows (shown : frame.shows draft role = true) :
    (frame.plug draft).played role = some draft.outlook := by
  simp only [Frame.shows, Bool.and_eq_true, Bool.not_eq_true', List.any_eq_false] at shown
  rw [Draft.played, Outlook.played, Frame.inside_plug, List.find?_append, List.find?_eq_none.2,
    Option.none_or, List.find?_cons_of_pos]
  · rw [role_outlook_draft]
    exact shown.1
  · intro outlook member
    obtain ⟨sibling, listed, rfl⟩ := List.mem_map.1 member
    rw [role_outlook_draft]
    exact shown.2 sibling listed

/-- What is found in a role is a sibling of the gap, or stands in the gap. -/
theorem played_of_not_shows (hidden : frame.shows draft role = false)
    (same : other.face.role = draft.face.role) :
    (frame.plug other).played role = (frame.plug draft).played role := by
  rw [Draft.played, Draft.played, Outlook.played, Outlook.played, Frame.inside_plug,
    Frame.inside_plug, List.find?_append, List.find?_append]
  by_cases held : (draft.face.role == some role) = true
  · have before : (frame.left.map Draft.outlook).find? (fun outlook => outlook.role == some role) ≠
        none := by
      simp only [Frame.shows, held, Bool.true_and, Bool.not_eq_false', List.any_eq_true] at hidden
      obtain ⟨sibling, listed, played⟩ := hidden
      intro missed
      have other := List.find?_eq_none.1 missed _ (List.mem_map_of_mem listed)
      rw [role_outlook_draft] at other
      exact other played
    obtain ⟨found, eq⟩ := Option.ne_none_iff_exists'.1 before
    rw [eq, Option.some_or, Option.some_or]
  · rw [List.find?_cons_of_neg, List.find?_cons_of_neg]
    · rw [role_outlook_draft]
      exact held
    · rw [role_outlook_draft, same]
      exact held

/-- A view of a role that does not tell two parts apart is the same with either in the gap. -/
theorem bind_played_congr (frame : Frame) (role : Role) (shown : Outlook → Option α)
    (same : other.face.role = draft.face.role) (agree : shown other.outlook = shown draft.outlook) :
    ((frame.plug other).played role).bind shown =
      ((frame.plug draft).played role).bind shown := by
  cases seen : frame.shows draft role with
  | false => rw [played_of_not_shows seen same]
  | true =>
    have seen' : frame.shows other role = true := by
      rw [Frame.shows, same]
      exact seen
    rw [played_of_shows seen, played_of_shows seen']
    exact agree

theorem any_played_congr (frame : Frame) (role : Role) (shown : Outlook → Bool)
    (same : other.face.role = draft.face.role) (agree : shown other.outlook = shown draft.outlook) :
    ((frame.plug other).played role).any shown =
      ((frame.plug draft).played role).any shown := by
  have views := bind_played_congr frame role (fun outlook => some (shown outlook)) same
    (congrArg some agree)
  cases before : (frame.plug other).played role <;>
    cases after : (frame.plug draft).played role <;>
    simp [before, after] at views ⊢
  exact views

end Roles

section Congruence

variable {frame : Frame} {draft other : Draft} {policy : Policy}

theorem inside_plug_congr (same : other.outlook = draft.outlook) :
    (frame.plug other).inside = (frame.plug draft).inside := by
  rw [Frame.inside_plug, Frame.inside_plug, same]

theorem outlook_plug_congr (same : other.outlook = draft.outlook) :
    (frame.plug other).outlook = (frame.plug draft).outlook := by
  rw [Draft.outlook_eq, Draft.outlook_eq, inside_plug_congr same, Frame.face_plug, Frame.face_plug]

theorem sight_plug_congr (same : other.outlook = draft.outlook) :
    (frame.plug other).sight = (frame.plug draft).sight := by
  simp only [Draft.sight, Draft.played, inside_plug_congr same, outlook_plug_congr same]
  rfl

theorem objections_plug_congr (frame : Frame) (policy : Policy) (same : other.outlook = draft.outlook) :
    (frame.plug other).objections policy = (frame.plug draft).objections policy := by
  rw [Draft.objections, Draft.objections, Draft.concern, Draft.concern, sight_plug_congr same,
    Frame.face_plug, Frame.face_plug]

theorem errors_plug (frame : Frame) (draft : Draft) :
    (frame.plug draft).errors policy =
      (frame.plug draft).objections policy ++ (frame.left.flatMap (Draft.errors policy) ++
        (draft.errors policy ++ frame.right.flatMap (Draft.errors policy))) := by
  rw [Draft.errors_eq, Frame.plug, Draft.children_node, List.flatMap_append, List.flatMap_cons]

/-- What is lost of a node's own objections and of the part in the gap is lost of the whole. -/
theorem trimmed_errors_plug {lost gone : Prop}
    (own : Trimmed lost ((frame.plug other).objections policy) ((frame.plug draft).objections policy))
    (inner : Trimmed gone (other.errors policy) (draft.errors policy)) :
    Trimmed (lost ∨ gone) ((frame.plug other).errors policy) ((frame.plug draft).errors policy) := by
  rw [errors_plug, errors_plug]
  have siblings := (Trimmed.self (frame.left.flatMap (Draft.errors policy))).append
    (inner.append (Trimmed.self (frame.right.flatMap (Draft.errors policy))))
  exact (own.append siblings).congr (by simp)

/-- Around parts of one outlook nothing else is lost. -/
theorem trimmed_errors_fill {lost : Prop} {frames : List Frame}
    (same : other.outlook = draft.outlook)
    (inner : Trimmed lost (other.errors policy) (draft.errors policy)) :
    Trimmed lost ((Draft.fill frames other).errors policy)
      ((Draft.fill frames draft).errors policy) := by
  induction frames generalizing draft other with
  | nil => exact inner
  | cons frame outer ih =>
    apply ih (outlook_plug_congr same)
    have own := Trimmed.of_eq not_false (objections_plug_congr frame policy same)
    exact (trimmed_errors_plug own inner).congr (by simp)

theorem errors_sublist_fill (frames : List Frame) (draft : Draft) :
    (draft.errors policy).Sublist ((Draft.fill frames draft).errors policy) := by
  induction frames generalizing draft with
  | nil => exact List.Sublist.refl _
  | cons frame outer ih =>
    refine List.Sublist.trans ?_ (ih (frame.plug draft))
    rw [errors_plug]
    exact (List.sublist_append_left _ _).trans
      ((List.sublist_append_right _ _).trans (List.sublist_append_right _ _))

theorem hasError_fill {frames : List Frame} (same : other.hasError = draft.hasError) :
    (Draft.fill frames other).hasError = (Draft.fill frames draft).hasError := by
  induction frames generalizing draft other with
  | nil => exact same
  | cons frame outer ih =>
    apply ih
    rw [Draft.hasError_eq, Draft.hasError_eq, Frame.plug, Frame.plug, Draft.children_node,
      Draft.children_node, List.any_append, List.any_append, List.any_cons, List.any_cons, same,
      Draft.face_node, Draft.face_node]

end Congruence

end ComponentGate
