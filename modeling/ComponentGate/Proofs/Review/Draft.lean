import ComponentGate.Proofs.Review.Concern
import ComponentGate.Proofs.Review.Graft

/-! Drafts. A draft is a tree that keeps of each node what a rule may see of it: the construct, the role,
the line, a spelled name, a title of markup. Documents of one draft are reviewed alike, and a rule that
looks at a node sees no more of what stands directly below it than its outlook. -/

namespace ComponentGate

open Syntax

/-- What a rule may see of a node itself. -/
structure Face where
  symbol : Symbol
  role : Option Role
  row : Nat
  /-- The text of a word, a literal or a property. -/
  spelling : Option String
  /-- The tag of an element, the name of an attribute. -/
  title : Option String
  deriving DecidableEq, Repr

namespace Face

def kind? (face : Face) : Option Kind :=
  match face.symbol with
  | .construct kind => some kind
  | .token _ => none

def isOneOf (face : Face) (kinds : List Kind) : Bool := face.kind?.any kinds.contains

def isKind (face : Face) (kind : Kind) : Bool := face.kind? == some kind

def line (face : Face) : Nat := face.row + 1

/-- The contents of a literal string. -/
def literal? (face : Face) : Option String :=
  if face.symbol == .construct .string || face.symbol == .token "string" then
    face.spelling.map fun quoted => String.ofList ((quoted.toList.drop 1).dropLast)
  else none

end Face

inductive Draft where
  | node (face : Face) (children : List Draft)
  deriving Repr

namespace Draft

mutual

def decideEq : (first second : Draft) → Decidable (first = second)
  | .node face children, .node face' children' =>
    match decEq face face', decideEqAll children children' with
    | isTrue faces, isTrue below => isTrue (by cases faces; cases below; rfl)
    | isFalse differ, _ => isFalse (by rintro ⟨⟩; exact differ rfl)
    | _, isFalse differ => isFalse (by rintro ⟨⟩; exact differ rfl)

def decideEqAll : (first second : List Draft) → Decidable (first = second)
  | [], [] => isTrue rfl
  | [], _ :: _ => isFalse nofun
  | _ :: _, [] => isFalse nofun
  | one :: rest, one' :: rest' =>
    match decideEq one one', decideEqAll rest rest' with
    | isTrue heads, isTrue tails => isTrue (by cases heads; cases tails; rfl)
    | isFalse differ, _ => isFalse (by rintro ⟨⟩; exact differ rfl)
    | _, isFalse differ => isFalse (by rintro ⟨⟩; exact differ rfl)

end

instance : DecidableEq Draft := decideEq

def face : Draft → Face
  | node face _ => face

def children : Draft → List Draft
  | node _ children => children

@[simp] theorem face_node (face : Face) (children : List Draft) :
    (node face children).face = face := rfl

@[simp] theorem children_node (face : Face) (children : List Draft) :
    (node face children).children = children := rfl

mutual

def preorder : Draft → List Draft
  | node face children => node face children :: preorderAll children

def preorderAll : List Draft → List Draft
  | [] => []
  | draft :: rest => preorder draft ++ preorderAll rest

end

theorem preorderAll_eq_flatMap (drafts : List Draft) :
    preorderAll drafts = drafts.flatMap preorder := by
  induction drafts with
  | nil => rfl
  | cons draft rest ih => simp [preorderAll, ih]

theorem preorder_eq (draft : Draft) : draft.preorder = draft :: draft.children.flatMap preorder := by
  cases draft with
  | node face children => rw [preorder, preorderAll_eq_flatMap, children_node]

/-- What holds of a draft once it holds of its children holds of every draft. -/
@[elab_as_elim] theorem induction_on_children {motive : Draft → Prop} (draft : Draft)
    (step : ∀ draft, (∀ child ∈ draft.children, motive child) → motive draft) : motive draft :=
  match draft with
  | node face children => step (node face children) fun child member =>
    have _ : child ∈ children := member
    induction_on_children child step

end Draft

namespace Document

/-- The tag of an element, the name of an attribute. -/
def title? (document : Document) (tree : Tree) : Option String :=
  if tree.isElement then document.tagName? tree
  else if tree.isKind .markupAttribute then tree.namedChildren.head?.map document.text
  else none

def face (document : Document) (tree : Tree) : Face where
  symbol := tree.label.symbol
  role := tree.role
  row := tree.label.row
  spelling := if tree.isSpelled then some (document.text tree) else none
  title := document.title? tree

mutual

def draft (document : Document) : Tree → Draft
  | .node label children => .node (document.face (.node label children)) (draftAll document children)

def draftAll (document : Document) : List Tree → List Draft
  | [] => []
  | tree :: rest => draft document tree :: draftAll document rest

end

theorem draftAll_eq_map (document : Document) (trees : List Tree) :
    document.draftAll trees = trees.map document.draft := by
  induction trees with
  | nil => rfl
  | cons tree rest ih => rw [draftAll, ih, List.map_cons]

theorem draft_eq (document : Document) (tree : Tree) :
    document.draft tree = .node (document.face tree) (tree.children.map document.draft) := by
  cases tree with
  | node label children => rw [draft, draftAll_eq_map, Tree.children_node]

@[simp] theorem face_draft (document : Document) (tree : Tree) :
    (document.draft tree).face = document.face tree := by
  rw [draft_eq, Draft.face_node]

@[simp] theorem children_draft (document : Document) (tree : Tree) :
    (document.draft tree).children = tree.children.map document.draft := by
  rw [draft_eq, Draft.children_node]

theorem preorder_draft (document : Document) (tree : Tree) :
    (document.draft tree).preorder = tree.preorder.map document.draft := by
  induction tree using Tree.induction_on_children with
  | step tree ih =>
    rw [Draft.preorder_eq, Tree.preorder_eq, children_draft, List.map_cons, List.flatMap_map,
      List.map_flatMap]
    exact congrArg _ (List.flatMap_congr ih)

end Document

/-- What a rule that looks at a node sees of a child. -/
structure Outlook where
  role : Option Role
  isNamed : Bool
  /-- The construct, if it is one that a rule looks for below another. -/
  sort : Option Kind
  spelling : Option String
  title : Option String
  literal : Option String
  dotted : Option String
  /-- The property that a member access names. -/
  member : Option String
  /-- Whether a list of arguments begins with a text. -/
  opensText : Bool
  /-- The literal value of an attribute. -/
  value : Option String
  attributes : List (String × Option String)
  spread : Bool
  deriving DecidableEq, Repr

/-- The constructs that a rule looks for below another. -/
def soughtKinds : List Kind :=
  [.comment, .importName, .identifier, .propertyIdentifier, .string, .templateString,
    .markupAttribute, .markupExpression]

namespace Outlook

def isSort (outlook : Outlook) (kind : Kind) : Bool := outlook.sort == some kind

def isSignificant (outlook : Outlook) : Bool := outlook.isNamed && !outlook.isSort .comment

def pair? (outlook : Outlook) : Option (String × Option String) :=
  if outlook.isSort .markupAttribute then outlook.title.map fun name => (name, outlook.value)
  else none

/-- The first child that plays `role`. -/
def played (below : List Outlook) (role : Role) : Option Outlook :=
  below.find? fun outlook => outlook.role == some role

/-- A name that may follow a point. -/
def plainName? (outlook : Outlook) : Option String :=
  if outlook.isSort .propertyIdentifier then outlook.spelling else none

/-- The plain name or literal key that an access ends in. -/
def key? (face : Face) (below : List Outlook) : Option String :=
  if face.isKind .memberExpression then (played below .property).bind plainName?
  else (played below .index).bind literal

def dotted? (face : Face) (below : List Outlook) : Option String :=
  if face.isOneOf [.identifier, .thisName] then face.spelling
  else if face.isOneOf Rule.accessKinds then
    match (played below .object).bind dotted, key? face below with
    | some object, some key => some s!"{object}.{key}"
    | _, _ => none
  else none

/-- The outlook of a node, from the outlooks of its children. -/
def ofNode (face : Face) (below : List Outlook) : Outlook where
  role := face.role
  isNamed := face.kind?.isSome
  sort := face.kind?.filter soughtKinds.contains
  spelling := face.spelling
  title := face.title
  literal := face.literal?
  dotted := dotted? face below
  member := if face.isKind .memberExpression then (played below .property).bind spelling else none
  opensText :=
    face.role == some .arguments &&
      (below.filter isSignificant).head?.any fun first =>
        first.isSort .string || first.isSort .templateString
  value :=
    if face.isKind .markupAttribute then (below.filter isNamed)[1]?.bind literal else none
  attributes := Entries.ofPairs ((below.filter isNamed).filterMap pair?)
  spread := (below.filter isNamed).any (·.isSort .markupExpression)

end Outlook

namespace Draft

mutual

def outlook : Draft → Outlook
  | node face children => .ofNode face (outlookAll children)

def outlookAll : List Draft → List Outlook
  | [] => []
  | draft :: rest => outlook draft :: outlookAll rest

end

theorem outlookAll_eq_map (drafts : List Draft) : outlookAll drafts = drafts.map outlook := by
  induction drafts with
  | nil => rfl
  | cons draft rest ih => rw [outlookAll, ih, List.map_cons]

/-- What can be seen of the children of a node. -/
def inside (draft : Draft) : List Outlook := draft.children.map outlook

theorem outlook_eq (draft : Draft) : draft.outlook = .ofNode draft.face draft.inside := by
  cases draft with
  | node face children => rw [outlook, outlookAll_eq_map, face_node, inside, children_node]

/-- The outlook of the first child that plays `role`. -/
def played (draft : Draft) (role : Role) : Option Outlook := Outlook.played draft.inside role

/-- A node as the blocking rules see it. -/
def sight (draft : Draft) : Sight where
  kind := draft.face.kind?
  word := if draft.face.isOneOf bareNameKinds then draft.face.spelling else none
  dotted := draft.outlook.dotted
  callee := (draft.played .function).bind Outlook.dotted
  loads := (draft.played .function).any (·.isSort .importName)
  calledProperty := (draft.played .function).bind Outlook.member
  constructed := (draft.played .constructor).bind Outlook.dotted
  target := (draft.played .left).bind Outlook.dotted
  targetProperty := (draft.played .left).bind Outlook.member
  givenText := (draft.played .arguments).any Outlook.opensText
  specifier := (draft.played .source).bind Outlook.literal

def concern (draft : Draft) : Concern := draft.sight.concern

/-- What the blocking rules have against a node. -/
def objections (policy : Policy) (draft : Draft) : List Finding :=
  draft.concern.objections policy draft.face.line

/-- What the blocking rules have against a node and all below it. -/
def errors (policy : Policy) (draft : Draft) : List Finding :=
  draft.preorder.flatMap (objections policy)

def hasError (draft : Draft) : Bool := draft.preorder.any fun node => node.face.isKind .error

theorem errors_eq (policy : Policy) (draft : Draft) :
    draft.errors policy = draft.objections policy ++ draft.children.flatMap (errors policy) := by
  rw [errors, preorder_eq, List.flatMap_cons, List.flatMap_assoc]
  rfl

theorem hasError_eq (draft : Draft) :
    draft.hasError = (draft.face.isKind .error || draft.children.any hasError) := by
  rw [hasError, preorder_eq, List.any_cons, List.any_flatMap]
  rfl

theorem objections_eq_nil_iff {policy : Policy} {draft : Draft} :
    draft.objections policy = [] ↔ draft.concern.isForbidden policy = false :=
  objections_concern_eq_nil_iff draft.sight draft.face.line

end Draft

theorem isSort_outlook_draft {draft : Draft} {kind : Kind} (sought : kind ∈ soughtKinds) :
    draft.outlook.isSort kind = draft.face.isKind kind := by
  rw [Draft.outlook_eq, Bool.eq_iff_iff]
  simp only [Outlook.isSort, Outlook.ofNode, Face.isKind, beq_iff_eq, Option.filter_eq_some_iff]
  simp [sought]

section Views

variable {document : Document} {tree : Tree}

@[simp] theorem kind_face : (document.face tree).kind? = tree.kind? := rfl

@[simp] theorem isOneOf_face (kinds : List Kind) :
    (document.face tree).isOneOf kinds = tree.isOneOf kinds := by
  rw [Face.isOneOf, Tree.isOneOf, kind_face]
  cases tree.kind? <;> rfl

@[simp] theorem isKind_face (kind : Kind) : (document.face tree).isKind kind = tree.isKind kind := rfl

theorem literal_face : (document.face tree).literal? = document.stringValue? tree := by
  have quoted : ((document.face tree).symbol == .construct .string ||
      (document.face tree).symbol == .token "string") = tree.isSpelledString := by
    rw [Tree.isSpelledString, Tree.isKind, Tree.isToken, Tree.kind?, Document.face, Bool.eq_iff_iff]
    cases tree.label.symbol <;> simp
  rw [Face.literal?, quoted, Document.stringValue?]
  by_cases literal : tree.isSpelledString = true
  · have spelled : tree.isSpelled = true := by simp [Tree.isSpelled, literal]
    simp [literal, Document.face, spelled]
  · simp [literal]

variable (document tree) in
/-- The outlook of a node of a document. -/
abbrev Document.outlook : Outlook := (document.draft tree).outlook

theorem outlook_draft :
    document.outlook tree = .ofNode (document.face tree) (tree.children.map document.outlook) := by
  rw [Document.outlook, Draft.outlook_eq, Document.face_draft, Draft.inside,
    Document.children_draft, List.map_map]
  rfl

@[simp] theorem role_outlook : (document.outlook tree).role = tree.role := by
  rw [outlook_draft]
  rfl

@[simp] theorem isNamed_outlook : (document.outlook tree).isNamed = tree.isNamed := by
  rw [outlook_draft]
  rfl

theorem isSort_outlook {kind : Kind} (sought : kind ∈ soughtKinds) :
    (document.outlook tree).isSort kind = tree.isKind kind := by
  rw [Document.outlook, isSort_outlook_draft sought, Document.face_draft, isKind_face]

@[simp] theorem literal_outlook : (document.outlook tree).literal = document.stringValue? tree := by
  rw [outlook_draft, ← literal_face]
  rfl

theorem spelling_outlook (spelled : tree.isSpelled = true) :
    (document.outlook tree).spelling = some (document.text tree) := by
  rw [outlook_draft]
  simp [Outlook.ofNode, Document.face, spelled]

theorem played_outlook (role : Role) :
    Outlook.played (tree.children.map document.outlook) role =
      (tree.child? role).map document.outlook := by
  rw [Outlook.played, List.find?_map, Tree.child?]
  congr 2
  funext child
  simp

/-- What is seen through the outlook of a child is what is seen of the child. -/
theorem bind_played (document : Document) (tree : Tree) (role : Role) {shown : Outlook → Option α}
    {seen : Tree → Option α}
    (agree : ∀ child, tree.child? role = some child → shown (document.outlook child) = seen child) :
    (Outlook.played (tree.children.map document.outlook) role).bind shown =
      (tree.child? role).bind seen := by
  rw [played_outlook]
  cases found : tree.child? role with
  | none => rfl
  | some child => exact agree child found

theorem isSpelled_of_property {property : Tree} (found : tree.child? .property = some property) :
    property.isSpelled = true := by
  have played := List.find?_some found
  simp only [Tree.isSpelled, Bool.or_eq_true]
  exact .inr played

theorem member_outlook : (document.outlook tree).member = Rule.property? document tree := by
  rw [outlook_draft, Rule.property?, Outlook.ofNode, isKind_face]
  by_cases access : tree.isKind .memberExpression = true
  · rw [if_pos access, if_pos access, bind_played document tree .property fun property found =>
      spelling_outlook (isSpelled_of_property found)]
    rw [Option.map_eq_bind]
    rfl
  · rw [if_neg access, if_neg access]

theorem plainName_outlook {property : Tree} (found : tree.child? .property = some property) :
    (document.outlook property).plainName? =
      if property.isKind .propertyIdentifier then some (document.text property) else none := by
  rw [Outlook.plainName?, isSort_outlook (by decide), spelling_outlook (isSpelled_of_property found)]

theorem dotted_outlook (tree : Tree) :
    (document.outlook tree).dotted = document.dottedName? tree := by
  induction tree using Tree.induction_on_children with
  | step tree ih =>
    have object : (Outlook.played (tree.children.map document.outlook) .object).bind Outlook.dotted =
        (tree.child? .object).bind document.dottedName? :=
      bind_played document tree .object fun child found => ih child (List.mem_of_find?_eq_some found)
    have property := bind_played document tree .property
      fun child found => plainName_outlook found
    have key : (Outlook.played (tree.children.map document.outlook) .index).bind Outlook.literal =
        (tree.child? .index).bind document.stringValue? :=
      bind_played document tree .index fun child _ => literal_outlook
    rw [outlook_draft, dottedName_eq, Outlook.ofNode, Outlook.dotted?, Outlook.key?, isOneOf_face,
      isOneOf_face, isKind_face, object, key, property]
    cases symbol : tree.label.symbol with
    | token text => simp [Tree.isOneOf, Tree.kind?, symbol]
    | construct kind =>
      have found : tree.kind? = some kind := by rw [Tree.kind?, symbol]
      by_cases identifier : kind = .identifier
      · subst identifier
        simp [Tree.isOneOf, found, Document.face, Tree.isSpelled, bareNameKinds]
      by_cases thisName : kind = .thisName
      · subst thisName
        simp [Tree.isOneOf, found, Document.face, Tree.isSpelled]
      by_cases member : kind = .memberExpression
      · subst member
        simp only [Tree.isOneOf, Tree.isKind, found]
        cases (tree.child? .object).bind document.dottedName? with
        | none => rfl
        | some receiver =>
          cases tree.child? .property with
          | none => rfl
          | some property =>
            by_cases plain : property.kind? = some .propertyIdentifier
            · simp [plain, Rule.accessKinds]
            · simp [plain, Rule.accessKinds]
      by_cases subscript : kind = .subscriptExpression
      · subst subscript
        simp only [Tree.isOneOf, Tree.isKind, found]
        rfl
      · simp [Tree.isOneOf, found, identifier, thisName, member, subscript, Rule.accessKinds]

theorem isSignificant_outlook :
    (document.outlook tree).isSignificant = (tree.isNamed && !tree.isComment) := by
  rw [Outlook.isSignificant, isNamed_outlook, isSort_outlook (by decide), Tree.isComment]

theorem filter_isNamed_outlook :
    (tree.children.map document.outlook).filter Outlook.isNamed =
      tree.namedChildren.map document.outlook := by
  rw [List.filter_map, Tree.namedChildren]
  congr 2
  funext child
  exact isNamed_outlook

theorem filter_isSignificant_outlook :
    (tree.children.map document.outlook).filter Outlook.isSignificant =
      tree.significantChildren.map document.outlook := by
  rw [List.filter_map, Tree.significantChildren, Tree.namedChildren, List.filter_filter]
  congr 2
  funext child
  rw [Function.comp, isSignificant_outlook, Bool.and_comm]

theorem opensText_outlook (list : tree.role = some .arguments) :
    (document.outlook tree).opensText =
      tree.significantChildren.head?.any (·.isOneOf [.string, .templateString]) := by
  have role : (document.face tree).role = some .arguments := list
  rw [outlook_draft, Outlook.ofNode, role, filter_isSignificant_outlook, List.head?_map]
  cases tree.significantChildren.head? with
  | none => rfl
  | some first =>
    have text : ((document.outlook first).isSort .string ||
        (document.outlook first).isSort .templateString) =
          first.isOneOf [.string, .templateString] := by
      rw [isSort_outlook (by decide), isSort_outlook (by decide), Tree.isOneOf, Tree.isKind,
        Tree.isKind, Bool.eq_iff_iff]
      cases first.kind? <;> simp
    simpa using text

theorem inside_draft : (document.draft tree).inside = tree.children.map document.outlook := by
  rw [Draft.inside, Document.children_draft, List.map_map]
  rfl

theorem sight_draft : (document.draft tree).sight = document.sight tree := by
  have name (role : Role) := bind_played document tree role
    fun child _ => dotted_outlook child
  have property (role : Role) := bind_played document tree role
    fun child _ => member_outlook
  have specifier := bind_played document tree .source
    fun child _ => literal_outlook
  have word : (if (document.face tree).isOneOf bareNameKinds then (document.face tree).spelling
      else none) = if tree.isOneOf bareNameKinds then some (document.text tree) else none := by
    rw [isOneOf_face]
    by_cases named : tree.isOneOf bareNameKinds = true
    · have spelled : tree.isSpelled = true := by
        cases kind : tree.kind? <;> simp_all [Tree.isSpelled, Tree.isOneOf]
      simp [named, Document.face, spelled]
    · rw [if_neg named, if_neg named]
  have loads : (Outlook.played (tree.children.map document.outlook) .function).any
      (·.isSort .importName) = (tree.child? .function).any (·.isKind .importName) := by
    rw [played_outlook]
    cases tree.child? .function with
    | none => rfl
    | some callee => exact isSort_outlook (by decide)
  have given : (Outlook.played (tree.children.map document.outlook) .arguments).any
      Outlook.opensText = tree.callArguments.head?.any (·.isOneOf [.string, .templateString]) := by
    rw [played_outlook, Tree.callArguments]
    cases found : tree.child? .arguments with
    | none => rfl
    | some arguments => exact opensText_outlook (role_of_child found)
  simp only [Draft.sight, Draft.played, inside_draft, Document.face_draft, kind_face, word, name, property,
    specifier, loads, given, dotted_outlook, Document.sight, Document.specifier?]

end Views

section Documents

variable {document : Document} {policy : Policy}

theorem objections_draft (tree : Tree) :
    (document.draft tree).objections policy = objections document policy tree := by
  rw [Draft.objections, Draft.concern, sight_draft, Document.face_draft, objections_eq]
  rfl

theorem hasErrors_draft : document.hasErrors = (document.draft document.root).hasError := by
  rw [Draft.hasError, Document.preorder_draft, List.any_map, Document.hasErrors, Tree.hasError]
  congr 1
  funext node
  simp

/-- The errors of a text are what the blocking rules have against its draft. -/
theorem filter_isError_draft (readable : document.hasErrors = false) :
    (reviewDocument document policy Rule.standard).findings.filter Finding.isError =
      (document.draft document.root).errors policy := by
  rw [filter_isError_findings readable, Draft.errors, Document.preorder_draft, List.flatMap_map]
  simp only [objections_draft]

theorem errors_draft (readable : document.hasErrors = false) :
    (reviewDocument document policy Rule.standard).errors =
      ((document.draft document.root).errors policy).map Finding.message := by
  rw [← filter_isError_draft readable]
  rfl

end Documents

end ComponentGate
