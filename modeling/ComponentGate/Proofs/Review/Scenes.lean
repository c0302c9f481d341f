import ComponentGate.Proofs.Review.Caution
import ComponentGate.Proofs.Review.Naming

/-! The scenes of a draft. What the rules see of a node is told by its face, by what can be seen of its
children and by whether a label stands around it, so a review can be read off a draft, and a part of a
draft matters to what stands around it by its outlook only. -/

namespace ComponentGate

open Syntax

namespace Outlook

/-- The storage that an access reaches, by itself or through a receiver. -/
def storage? (below : List Outlook) : Option String :=
  (played below .object).bind fun object =>
    if object.isSort .identifier then
      object.spelling.bind fun name =>
        if Rule.storageGlobals.contains name then some name
        else if globalReceivers.contains name then
          ((played below .property).bind spelling).filter Rule.storageGlobals.contains
        else none
    else none

/-- The tag that carries an element's attributes. -/
def opening (face : Face) (below : List Outlook) : Outlook :=
  if face.isKind .markupElement then
    ((played below .openTag).orElse fun _ => below.head?).getD (ofNode face below)
  else ofNode face below

end Outlook

/-- Whether a node labels the controls in it. -/
def Face.isLabel (face : Face) : Bool := face.isKind .markupElement && face.title == some "label"

/-- An element, from its face and what is seen of its children. -/
def Element.ofNode (face : Face) (below : List Outlook) (labelled : Bool) : Element where
  tag := face.title
  given := (Outlook.opening face below).attributes
  spread := (Outlook.opening face below).spread
  isLabelled := labelled

def Caution.ofNode (face : Face) (below : List Outlook) (labelled : Bool) : Caution where
  storage := if face.isOneOf Rule.accessKinds then Outlook.storage? below else none
  bypasses := face.isOneOf [.markupAttribute] && face.title == some "dangerouslySetInnerHTML"
  element := if face.isOneOf elementKinds then some (.ofNode face below labelled) else none

namespace Draft

def scene (labelled : Bool) (draft : Draft) : Scene :=
  ⟨draft.concern, .ofNode draft.face draft.inside labelled, draft.face.line⟩

mutual

/-- The scenes of a draft, a node before what stands below it. -/
def scenes (labelled : Bool) : Draft → List Scene
  | node face children =>
    (node face children).scene labelled :: scenesAll (face.isLabel || labelled) children

def scenesAll (labelled : Bool) : List Draft → List Scene
  | [] => []
  | draft :: rest => scenes labelled draft ++ scenesAll labelled rest

end

theorem scenesAll_eq_flatMap (labelled : Bool) (drafts : List Draft) :
    scenesAll labelled drafts = drafts.flatMap (scenes labelled) := by
  induction drafts with
  | nil => rfl
  | cons draft rest ih => rw [scenesAll, ih, List.flatMap_cons]

theorem scenes_eq (labelled : Bool) (draft : Draft) :
    draft.scenes labelled =
      draft.scene labelled :: draft.children.flatMap (scenes (draft.face.isLabel || labelled)) := by
  cases draft with
  | node face children => rw [scenes, scenesAll_eq_flatMap, children_node, face_node]

end Draft

section Views

variable {document : Document} {tree : Tree} {place : Place}

theorem title_element (element : tree.isElement = true) :
    document.title? tree = document.tagName? tree :=
  if_pos element

theorem title_attribute (given : tree.isKind .markupAttribute = true) :
    document.title? tree = tree.namedChildren.head?.map document.text := by
  have kind : tree.kind? = some .markupAttribute := by simpa [Tree.isKind] using given
  have other : tree.isElement = false := by simp [Tree.isElement, Tree.isOneOf, kind, elementKinds]
  rw [Document.title?, other, if_neg (by simp), if_pos given]

theorem title_outlook : (document.outlook tree).title = document.title? tree := by
  rw [outlook_draft]
  rfl

theorem value_outlook (given : tree.isKind .markupAttribute = true) :
    (document.outlook tree).value = document.attributeValue? tree := by
  have shown : (document.outlook tree).value =
      ((tree.children.map document.outlook).filter Outlook.isNamed)[1]?.bind Outlook.literal := by
    rw [outlook_draft]
    exact if_pos given
  rw [shown, filter_isNamed_outlook, Document.attributeValue?, List.getElem?_map, Option.bind_map]
  congr 1
  funext child
  exact literal_outlook

theorem entry_outlook :
    (document.outlook tree).pair? =
      (Document.attributes.named? document tree).map (Prod.map id document.attributeValue?) := by
  rw [Outlook.pair?, isSort_outlook (by decide), Document.attributes.named?, title_outlook]
  by_cases given : tree.isKind .markupAttribute = true
  · rw [if_pos given, if_pos given, title_attribute given, value_outlook given,
      Option.map_map, Option.map_map]
    rfl
  · rw [if_neg given, if_neg given]
    rfl

/-- The tag that carries an element's attributes is seen as its outlook. -/
theorem opening_outlook :
    Outlook.opening (document.face tree) (tree.children.map document.outlook) =
      document.outlook tree.openingTag := by
  rw [Outlook.opening, Tree.openingTag, isKind_face, ← outlook_draft, played_outlook, List.head?_map]
  split
  · cases tree.child? .openTag with
    | some opening => rfl
    | none => cases tree.children.head? <;> rfl
  · rfl

theorem attributes_outlook :
    (document.outlook tree).attributes =
      (Entries.ofPairs (tree.namedChildren.filterMap (Document.attributes.named? document))).map
        (Prod.map id document.attributeValue?) := by
  have entries : ((tree.children.map document.outlook).filter Outlook.isNamed).filterMap
      Outlook.pair? = (tree.namedChildren.filterMap (Document.attributes.named? document)).map
        (Prod.map id document.attributeValue?) := by
    rw [filter_isNamed_outlook, List.filterMap_map, List.map_filterMap]
    exact List.filterMap_congr fun child _ => entry_outlook
  rw [← Entries.ofPairs_map, ← entries, outlook_draft]
  rfl

theorem spread_outlook :
    (document.outlook tree).spread = tree.namedChildren.any (·.isKind .markupExpression) := by
  have spreads : ((tree.children.map document.outlook).filter Outlook.isNamed).any
      (·.isSort .markupExpression) = tree.namedChildren.any (·.isKind .markupExpression) := by
    rw [filter_isNamed_outlook, List.any_map]
    congr 1
    funext child
    exact isSort_outlook (by decide)
  rw [← spreads, outlook_draft]
  rfl

theorem element_draft (element : place.tree.isElement = true) :
    document.element place =
      .ofNode (document.face place.tree) (place.tree.children.map document.outlook)
        (document.isInsideLabel place) := by
  rw [Element.ofNode, opening_outlook, attributes_outlook, spread_outlook]
  exact congrArg (Element.mk · _ _ _) (title_element element).symm

theorem storage_outlook :
    Outlook.storage? (tree.children.map document.outlook) = Rule.storage? document tree := by
  have property := bind_played document tree .property fun property found =>
    spelling_outlook (isSpelled_of_property found)
  rw [Outlook.storage?, Rule.storage?, property, played_outlook]
  cases tree.child? .object with
  | none => rfl
  | some object =>
    simp only [Option.map_some, Option.bind_some]
    rw [isSort_outlook (by decide)]
    by_cases identifier : object.isKind .identifier = true
    · have spelled : object.isSpelled = true := by
        have kind : object.kind? = some .identifier := by simpa [Tree.isKind] using identifier
        simp [Tree.isSpelled, Tree.isOneOf, kind, bareNameKinds]
      rw [spelling_outlook spelled, Option.map_eq_bind]
      simp only [identifier]
      rfl
    · simp [identifier]

theorem bypasses_outlook :
    (tree.isOneOf [.markupAttribute] &&
        tree.namedChildren.head?.map document.text == some "dangerouslySetInnerHTML") =
      (tree.isOneOf [.markupAttribute] &&
        document.title? tree == some "dangerouslySetInnerHTML") := by
  cases given : tree.isOneOf [.markupAttribute] with
  | false => rfl
  | true =>
    have kind : tree.isKind .markupAttribute = true := by
      rw [Tree.isOneOf] at given
      cases found : tree.kind? <;> simp_all [Tree.isKind]
    rw [title_attribute kind]

/-- What the warning rules see of a place is told by its face, its children and a label around it. -/
theorem caution_draft (place : Place) :
    document.caution place =
      .ofNode (document.face place.tree) (place.tree.children.map document.outlook)
        (document.isInsideLabel place) := by
  rw [Document.caution, Caution.ofNode, isOneOf_face, isOneOf_face, isOneOf_face, storage_outlook,
    bypasses_outlook]
  by_cases element : place.tree.isOneOf elementKinds = true
  · rw [if_pos element, if_pos element, element_draft element]
    rfl
  · rw [if_neg element, if_neg element]
    rfl

theorem scene_draft (place : Place) :
    document.scene place = (document.draft place.tree).scene (document.isInsideLabel place) := by
  rw [Document.scene, Draft.scene, Draft.concern, sight_draft, caution_draft, inside_draft,
    Document.face_draft]
  rfl

theorem isInsideLabel_of_mem_children {child : Place} (member : child ∈ place.children) :
    document.isInsideLabel child =
      ((document.face place.tree).isLabel || document.isInsideLabel place) := by
  have label : (place.tree.isKind .markupElement && document.tagName? place.tree == some "label") =
      (document.face place.tree).isLabel := by
    rw [Face.isLabel, isKind_face]
    cases element : place.tree.isKind .markupElement with
    | false => rfl
    | true =>
      have kind : place.tree.kind? = some .markupElement := by simpa [Tree.isKind] using element
      rw [← title_element (by simp [Tree.isElement, Tree.isOneOf, kind, elementKinds])]
      rfl
  rw [Document.isInsideLabel, Place.ancestors_of_mem_siblings member, List.any_cons, label,
    Document.isInsideLabel]

/-- The scenes of a text are the scenes of its draft. -/
theorem map_scene_walk (document : Document) (place : Place) :
    place.walk.map document.scene =
      (document.draft place.tree).scenes (document.isInsideLabel place) := by
  refine @Place.map_walk _ document.scene
    (fun place => (document.draft place.tree).scenes (document.isInsideLabel place)) ?_ place
  intro place
  rw [Draft.scenes_eq, ← scene_draft, Document.children_draft, ← Place.map_tree_children,
    List.flatMap_map, List.flatMap_map, Document.face_draft]
  congr 1
  exact List.flatMap_congr fun child member => by rw [isInsideLabel_of_mem_children member]

theorem findings_draft {policy : Policy} (readable : document.hasErrors = false) :
    (reviewDocument document policy Rule.standard).findings =
      Scene.settle policy ((document.draft document.root).scenes false) := by
  rw [findings_reviewDocument readable, Tree.places, map_scene_walk]
  rfl

end Views

/-- If less is said at once of some scenes than of others, but as much on the condition of a label, less
is found in them. -/
theorem trimmed_settle {lost : Prop} {policy : Policy} {fewer scenes : List Scene}
    (remarks : Trimmed lost (fewer.flatMap (Scene.remarks policy))
      (scenes.flatMap (Scene.remarks policy)))
    (waiting : fewer.flatMap Scene.waiting = scenes.flatMap Scene.waiting)
    (labelled : fewer.flatMap Scene.labelled = scenes.flatMap Scene.labelled) :
    Trimmed lost (Scene.settle policy fewer) (Scene.settle policy scenes) := by
  rw [Scene.settle, Scene.settle, waiting, labelled]
  exact (remarks.append (.self _)).congr (by simp)

section Plain

variable (face : Face) (below : List Outlook)

theorem storage_map_plain : Outlook.storage? (below.map Outlook.plain) = Outlook.storage? below := by
  simp only [Outlook.storage?, Outlook.played_map_plain, Option.bind_map]
  rfl

theorem plain_opening :
    (Outlook.opening face (below.map Outlook.plain)).plain = (Outlook.opening face below).plain := by
  have own : (Outlook.ofNode face (below.map Outlook.plain)).nameless.plain =
      (Outlook.ofNode face below).nameless.plain :=
    congrArg Outlook.plain (Outlook.nameless_ofNode face below)
  rw [Outlook.opening, Outlook.opening, Outlook.played_map_plain, List.head?_map]
  split
  · cases Outlook.played below .openTag with
    | some tag => rfl
    | none =>
      cases below.head? with
      | some first => rfl
      | none => exact own
  · exact own

/-- The warning rules see the children of a node plainly. -/
theorem caution_map_plain (labelled : Bool) :
    Caution.ofNode face (below.map Outlook.plain) labelled = .ofNode face below labelled := by
  have given := congrArg Outlook.attributes (plain_opening face below)
  have spread := congrArg Outlook.spread (plain_opening face below)
  rw [Caution.ofNode, Caution.ofNode, storage_map_plain, Element.ofNode, Element.ofNode]
  simp only [Outlook.plain] at given spread
  rw [given, spread]

end Plain

section Gaps

variable {frame : Frame} {draft other : Draft} {view : Scene → List α}

theorem caution_plug_congr (frame : Frame) (labelled : Bool)
    (alike : other.outlook.plain = draft.outlook.plain) :
    Caution.ofNode frame.face (frame.plug other).inside labelled =
      .ofNode frame.face (frame.plug draft).inside labelled := by
  have same : (frame.plug other).inside.map Outlook.plain =
      (frame.plug draft).inside.map Outlook.plain := by
    simp [Frame.inside_plug, alike]
  rw [← caution_map_plain, same, caution_map_plain]

theorem scene_plug_congr (frame : Frame) (labelled : Bool) (same : other.outlook = draft.outlook) :
    (frame.plug other).scene labelled = (frame.plug draft).scene labelled := by
  rw [Draft.scene, Draft.scene, Draft.concern, Draft.concern, sight_plug_congr same,
    inside_plug_congr same, Frame.face_plug, Frame.face_plug]

theorem flatMap_scenes (view : Scene → List α) (labelled : Bool) (draft : Draft) :
    (draft.scenes labelled).flatMap view = view (draft.scene labelled) ++
      draft.children.flatMap fun child =>
        (child.scenes (draft.face.isLabel || labelled)).flatMap view := by
  rw [Draft.scenes_eq, List.flatMap_cons, List.flatMap_assoc]

/-- What is lost of what is told of a node and of the part in the gap is lost of the whole. -/
theorem trimmed_scenes_plug {lost gone : Prop} (labelled : Bool)
    (own : Trimmed lost (view ((frame.plug other).scene labelled))
      (view ((frame.plug draft).scene labelled)))
    (inner : ∀ labelled, Trimmed gone ((other.scenes labelled).flatMap view)
      ((draft.scenes labelled).flatMap view)) :
    Trimmed (lost ∨ gone) (((frame.plug other).scenes labelled).flatMap view)
      (((frame.plug draft).scenes labelled).flatMap view) := by
  rw [flatMap_scenes, flatMap_scenes, Frame.face_plug, Frame.face_plug]
  simp only [Frame.plug, Draft.children_node, List.flatMap_append, List.flatMap_cons]
  have siblings (list : List Draft) := Trimmed.self (list.flatMap fun child =>
    (child.scenes (frame.face.isLabel || labelled)).flatMap view)
  exact (own.append ((siblings frame.left).append
    ((inner _).append (siblings frame.right)))).congr (by simp)

/-- Around parts of one outlook nothing else is lost. -/
theorem trimmed_scenes_fill {lost : Prop} {frames : List Frame} (labelled : Bool)
    (same : other.outlook = draft.outlook)
    (inner : ∀ labelled, Trimmed lost ((other.scenes labelled).flatMap view)
      ((draft.scenes labelled).flatMap view)) :
    Trimmed lost (((Draft.fill frames other).scenes labelled).flatMap view)
      (((Draft.fill frames draft).scenes labelled).flatMap view) := by
  induction frames generalizing draft other with
  | nil => exact inner labelled
  | cons frame outer ih =>
    refine ih (outlook_plug_congr same) fun labelled => ?_
    have own := Trimmed.of_eq not_false (congrArg view (scene_plug_congr frame labelled same))
    exact (trimmed_scenes_plug labelled own inner).congr (by simp)

end Gaps

end ComponentGate
