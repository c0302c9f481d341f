import ComponentGate.Proofs.Review.Naming

/-! Accesses. An access names what it looks for in its object by a plain name or by a literal key. By
either it has the same dotted name, but only by a plain name does it name a property. -/

namespace ComponentGate

open Syntax

namespace Draft

/-- Whether a node is the plain name of a property. -/
def isProperty (draft : Draft) (name : String) : Bool :=
  draft.children.isEmpty && draft.face.isKind .propertyIdentifier &&
    draft.face.role == some .property && draft.face.spelling == some name

/-- Whether a node is a literal key. -/
def isKey (draft : Draft) (name : String) : Bool :=
  draft.face.isKind .string && draft.face.role == some .index && draft.face.literal? == some name

end Draft

section Parts

variable {draft object part : Draft} {role : Role} {name : String}

theorem isProperty_iff :
    draft.isProperty name = true ↔
      draft.children = [] ∧ draft.face.kind? = some .propertyIdentifier ∧
        draft.face.role = some .property ∧ draft.face.spelling = some name := by
  simp [Draft.isProperty, Face.isKind, and_assoc]

theorem isKey_iff :
    draft.isKey name = true ↔ draft.face.kind? = some .string ∧ draft.face.role = some .index ∧
      draft.face.literal? = some name := by
  simp [Draft.isKey, Face.isKind, and_assoc]

theorem played_later (face : Face) {before : List Draft} (after : List Draft)
    (free : ∀ other ∈ before, other.face.role ≠ some role) (held : part.face.role = some role) :
    (Draft.node face (before ++ part :: after)).played role = some part.outlook := by
  refine @played_of_shows ⟨face, before, after⟩ part role ?_
  simpa [Frame.shows, held] using free

theorem played_first (face : Face) (rest : List Draft) (held : object.face.role = some role) :
    (Draft.node face (object :: rest)).played role = some object.outlook :=
  @played_later _ _ face [] rest nofun held

theorem played_none (face : Face) {children : List Draft}
    (free : ∀ child ∈ children, child.face.role ≠ some role) :
    (Draft.node face children).played role = none := by
  rw [Draft.played, Outlook.played, List.find?_eq_none, Draft.inside, Draft.children_node]
  intro outlook member
  obtain ⟨child, listed, rfl⟩ := List.mem_map.1 member
  simpa [role_outlook_draft] using free child listed

/-- An access has the name of its object with its key behind it. -/
theorem dotted_of_key (access : draft.face.isOneOf Rule.accessKinds = true)
    (found : draft.played .object = some object.outlook)
    (key : Outlook.key? draft.face draft.inside = some name) :
    draft.outlook.dotted = object.outlook.dotted.map fun receiver => s!"{receiver}.{name}" := by
  rw [dotted_access access, found, key, Option.bind_some]
  cases object.outlook.dotted <;> rfl

end Parts

section Members

variable (face : Face) {object property : Draft} {between : List Draft} {name : String}
  (role : object.face.role = some .object) (free : ∀ mark ∈ between, mark.face.role ≠ some .property)
  (named : property.isProperty name = true)
include role free named

theorem played_property :
    (Draft.node face (object :: (between ++ [property]))).played .property = some property.outlook := by
  refine @played_later _ _ face (object :: between) [] ?_ (isProperty_iff.1 named).2.2.1
  rw [List.forall_mem_cons, role]
  exact ⟨by decide, free⟩

theorem dotted_member (kind : face.kind? = some .memberExpression) :
    (Draft.node face (object :: (between ++ [property]))).outlook.dotted =
      object.outlook.dotted.map fun receiver => s!"{receiver}.{name}" := by
  obtain ⟨-, plain, -, spelling⟩ := isProperty_iff.1 named
  have properties := played_property face role free named
  have key : property.outlook.plainName? = some name := by
    rw [Draft.outlook_eq]
    simp [Outlook.plainName?, Outlook.isSort, Outlook.ofNode, plain, spelling, Option.filter_some,
      soughtKinds]
  refine dotted_of_key ?_ (played_first face _ role) ?_
  · simp [Face.isOneOf, kind, Rule.accessKinds]
  · rw [Draft.played] at properties
    rw [Outlook.key?, properties]
    simp [Face.isKind, kind, key]

theorem member_member (kind : face.kind? = some .memberExpression) :
    (Draft.node face (object :: (between ++ [property]))).outlook.member = some name := by
  obtain ⟨-, -, -, spelling⟩ := isProperty_iff.1 named
  have properties := played_property face role free named
  rw [Draft.played] at properties
  rw [Draft.outlook_eq, Outlook.ofNode, properties]
  simp only [Draft.face_node, Face.isKind, kind, Option.bind_some]
  rw [Draft.outlook_eq]
  exact spelling

end Members

section Subscripts

variable (face : Face) {object key : Draft} {before : List Draft} (after : List Draft) {name : String}
  (kind : face.kind? = some .subscriptExpression)
include kind

theorem dotted_subscript (role : object.face.role = some .object)
    (free : ∀ mark ∈ before, mark.face.role ≠ some .index) (named : key.isKey name = true) :
    (Draft.node face (object :: (before ++ key :: after))).outlook.dotted =
      object.outlook.dotted.map fun receiver => s!"{receiver}.{name}" := by
  obtain ⟨-, index, literal⟩ := isKey_iff.1 named
  have keys : (Draft.node face (object :: (before ++ key :: after))).played .index =
      some key.outlook := by
    refine @played_later _ _ face (object :: before) after ?_ index
    rw [List.forall_mem_cons, role]
    exact ⟨by decide, free⟩
  have shown : key.outlook.literal = some name := by
    rw [Draft.outlook_eq]
    exact literal
  refine dotted_of_key ?_ (played_first face _ role) ?_
  · simp [Face.isOneOf, kind, Rule.accessKinds]
  · rw [Draft.played] at keys
    rw [Outlook.key?, keys]
    simp [Face.isKind, kind, shown]

theorem member_subscript (children : List Draft) :
    (Draft.node face children).outlook.member = none := by
  rw [Draft.outlook_eq, Outlook.ofNode]
  simp [Face.isKind, kind]

end Subscripts

end ComponentGate
