import ComponentGate.Proofs.Erasure.Completeness
import ComponentGate.Proofs.Erasure.Settling

/-! Parameters that are fields. A modifier before a parameter of a constructor makes a field of it, which is
no matter of types only. Erasing goes by the modifier alone, so that the field is lost with it, unless the
constructor assigns it besides. -/

namespace ComponentGate

open Syntax

namespace Erasure

/-- Whether a part of a parameter makes a field of it. -/
def promotes (part : Tree) : Bool := part.isOneOf modifierKinds || part.isToken "readonly"

/-- Whether a parameter is a field as well. -/
def isProperty (parameter : Tree) : Bool :=
  parameter.isOneOf [.requiredParameter, .optionalParameter] && parameter.children.any promotes

def methods (nodes : List Tree) : List Tree := nodes.filter (·.isKind .methodDefinition)

section Fields

variable (document : Document)

/-- The names of the parameters of a method that are fields. -/
def promoted (method : Tree) : List String :=
  ((((method.child? .parameters).map Tree.children).getD []).filter isProperty).filterMap fun parameter =>
    (parameter.child? .pattern).map document.text

/-- Whether a method makes the objects of a class. -/
def isConstructor (method : Tree) : Bool :=
  (document.root.preorder.any fun body => body.isKind .classBody && body.children.contains method) &&
    ((method.child? .name).any fun name =>
      document.text name == "constructor" || document.stringValue? name == some "constructor") &&
    !method.children.any (·.isToken "static")

/-- Whether an expression is a field of the object itself. -/
def isOwnField (name : String) (target : Tree) : Bool :=
  ((target.child? .object).any fun object => object.unwrapped.isKind .thisName) &&
    ((target.isKind .memberExpression &&
        (target.child? .property).any fun property => document.text property == name) ||
      (target.isKind .subscriptExpression &&
        (target.child? .index).any fun index => document.stringValue? index == some name))

/-- Whether an expression assigns to a field what a variable of its name holds. -/
def assigns (name : String) (expression : Tree) : Bool :=
  expression.isKind .assignmentExpression &&
    ((expression.child? .left).any fun target => isOwnField document name target.unwrapped) &&
    ((expression.child? .right).any fun value =>
      value.unwrapped.isKind .identifier && document.text value.unwrapped == name)

/-- Whether a method assigns a field from a parameter of its name. -/
def assignsField (method : Tree) (name : String) : Bool :=
  (method.child? .body).any fun body => body.preorder.any (assigns document name)

/-- Whether a method makes a field of a parameter, or assigns it to one. -/
def holdsField (method : Tree) (name : String) : Bool :=
  (promoted document method).contains name || assignsField document method name

end Fields

/-- Whether erasing keeps the fields of a class: it leaves the source alone, or else each parameter of a
constructor that is a field is one in the result, or is assigned to the field there. A method that goes with a
declaration of types has no fields to keep. -/
def KeepsFields (parse : Parse) (source : String) : Prop :=
  eraseTypes parse source = source ∨
    List.Forall₂
      (fun method result => isConstructor (reviewed parse source) method = true →
        ∀ name ∈ promoted (reviewed parse source) method,
          holdsField (reviewed parse (eraseTypes parse source)) result name = true)
      (methods (survivors (reviewed parse source).root))
      (methods (reviewed parse (eraseTypes parse source)).root.preorder)

instance (parse : Parse) (source : String) : Decidable (KeepsFields parse source) :=
  inferInstanceAs (Decidable (_ ∨ List.Forall₂ _ _ _))

section Properties

theorem exists_parameter {tree : Tree}
    (parameter : tree.isOneOf [.requiredParameter, .optionalParameter] = true) :
    ∃ kind, tree.kind? = some kind ∧ (kind = .requiredParameter ∨ kind = .optionalParameter) := by
  cases found : tree.kind? with
  | none => simp [Tree.isOneOf, found] at parameter
  | some kind => exact ⟨kind, rfl, by simpa [Tree.isOneOf, found] using parameter⟩

variable {source erased : Tree} (reads : ReadsLeft source erased)
include reads

/-- What is read as a construct is what a construct that survives comes to be. -/
theorem exists_survivor_of_readsLeft {node : Tree} (visited : node ∈ erased.preorder) {kinds : List Kind}
    (listed : node.isOneOf kinds = true) (meant : Kind.comment ∉ kinds)
    (together : Kind.requiredParameter ∈ kinds ↔ Kind.optionalParameter ∈ kinds) :
    ∃ survivor, isGone survivor = false ∧ survivor.isOneOf kinds = true ∧
      leftMarks survivor = marksOf markWords node := by
  obtain ⟨isNamed, isComment⟩ := meant_of_isOneOf listed meant
  have among : node ∈ erased.preorder.filter fun node => node.isNamed && !node.isComment :=
    List.mem_filter.2 ⟨visited, by rw [isNamed, isComment]; rfl⟩
  have read := @List.mem_map_of_mem _ _ _ _ (fun node => (node.label.symbol, marksOf markWords node)) among
  rw [← reads] at read
  obtain ⟨survivor, left, same⟩ := List.mem_map.1 read
  obtain ⟨symbol, marks⟩ := Prod.mk.inj same
  obtain ⟨survived, named⟩ := List.mem_filter.1 left
  refine ⟨survivor, (stays_of_survivor survived named).1, ?_, marks⟩
  rw [← listed]
  refine isOneOf_of_symbol ?_ together
  rw [← symbol, keptSymbol_keptSymbol]

theorem modifier_of_readsLeft {node : Tree} (visited : node ∈ erased.preorder) :
    node.isOneOf modifierKinds = false := by
  refine Bool.eq_false_iff.2 fun modifier => ?_
  obtain ⟨survivor, stays, modifier', -⟩ :=
    exists_survivor_of_readsLeft reads visited modifier (by decide) (by decide)
  have gone : survivor.isOneOf goneKinds = true := Tree.isOneOf_mono (by decide) modifier'
  rw [isGone, gone] at stays
  cases stays

/-- The word that makes a field of a parameter is looked for there, so that it is not left. -/
theorem readonly_of_readsLeft {node : Tree} (visited : node ∈ erased.preorder)
    (parameter : node.isOneOf [.requiredParameter, .optionalParameter] = true) :
    node.children.any (·.isToken "readonly") = false := by
  refine Bool.eq_false_iff.2 fun marked => ?_
  obtain ⟨survivor, -, parameter', marks⟩ :=
    exists_survivor_of_readsLeft reads visited parameter (by decide) (by decide)
  have read : "readonly" ∈ marksOf markWords node := by
    obtain ⟨kind, found, known⟩ := exists_parameter parameter
    refine mem_marksOf_iff.2 ⟨⟨kind, found, ?_⟩, marked⟩
    rcases known with rfl | rfl <;> decide
  rw [← marks, leftMarks, mem_marksOf_iff] at read
  obtain ⟨⟨kind, found, missed⟩, -⟩ := read
  obtain ⟨same, found', known⟩ := exists_parameter parameter'
  obtain rfl : kind = same := Option.some.inj (found.symm.trans found')
  rcases known with rfl | rfl <;> exact absurd missed (by decide)

/-- No parameter is read as a field. -/
theorem isProperty_of_readsLeft {node : Tree} (visited : node ∈ erased.preorder) :
    isProperty node = false := by
  rw [isProperty, Bool.and_eq_false_iff]
  cases parameter : node.isOneOf [.requiredParameter, .optionalParameter] with
  | false => exact .inl rfl
  | true =>
    refine .inr (List.any_eq_false.2 fun part member promoting => ?_)
    rw [promotes, Bool.or_eq_true] at promoting
    rcases promoting with modifier | word
    · rw [modifier_of_readsLeft reads (Tree.mem_preorder_of_mem_children visited member)] at modifier
      cases modifier
    · exact List.any_eq_false.1 (readonly_of_readsLeft reads visited parameter) part member word

end Properties

section Methods

variable {first second : Document} {one other : Tree} (same : Mirrors Tree.isSpelled first second one other)
include same

theorem isOwnField_of_mirrors (name : String) :
    isOwnField first name one = isOwnField second name other := by
  have object : ((one.child? .object).any fun object => object.unwrapped.isKind .thisName) =
      (other.child? .object).any fun object => object.unwrapped.isKind .thisName :=
    same.any_child fun object object' _ near => near.unwrapped.isKind .thisName
  have property : ((one.child? .property).any fun property => first.text property == name) =
      (other.child? .property).any fun property => second.text property == name :=
    same.any_child fun property property' played near => by
      rw [near.text (by simp [Tree.isSpelled, played])]
  have index : ((one.child? .index).any fun index => first.stringValue? index == some name) =
      (other.child? .index).any fun index => second.stringValue? index == some name :=
    same.any_child fun index index' _ near => by
      rw [near.stringValue fun literal quoted => by simp [Tree.isSpelled, quoted]]
  rw [isOwnField, isOwnField, object, property, index, same.isKind, same.isKind]

theorem assigns_of_mirrors (name : String) : assigns first name one = assigns second name other := by
  have target : ((one.child? .left).any fun target => isOwnField first name target.unwrapped) =
      (other.child? .left).any fun target => isOwnField second name target.unwrapped :=
    same.any_child fun target target' _ near => isOwnField_of_mirrors near.unwrapped name
  have value : ((one.child? .right).any fun value =>
        value.unwrapped.isKind .identifier && first.text value.unwrapped == name) =
      (other.child? .right).any fun value =>
        value.unwrapped.isKind .identifier && second.text value.unwrapped == name := by
    refine same.any_child fun value value' _ near => ?_
    rw [← near.unwrapped.isKind]
    cases named : value.unwrapped.isKind .identifier with
    | false => rw [Bool.false_and, Bool.false_and]
    | true =>
      have bare : value.unwrapped.isOneOf (.thisName :: bareNameKinds) = true :=
        Tree.isOneOf_of_isKind named (by decide)
      rw [near.unwrapped.text (by rw [Tree.isSpelled, bare]; rfl)]
  rw [assigns, assigns, target, value, same.isKind]

theorem assignsField_of_mirrors (plain : one.isPlain = true) (plain' : other.isPlain = true) :
    assignsField first one = assignsField second other := by
  funext name
  rcases rel_cases (same.child .body) with ⟨here, there⟩ | ⟨body, body', here, there, near⟩
  · rw [assignsField, assignsField, here, there, Option.any_none, Option.any_none]
  have below := isPlain_of_mem_children plain (List.mem_of_find?_eq_some here)
  have below' := isPlain_of_mem_children plain' (List.mem_of_find?_eq_some there)
  have assignments : List.Forall₂ (Mirrors Tree.isSpelled first second)
      (body.preorder.filter (·.isKind .assignmentExpression))
      (body'.preorder.filter (·.isKind .assignmentExpression)) :=
    forall₂_of_map (near.map_filter_preorder_eq (by decide) below below') fun _ _ _ _ => id
  have only (document : Document) (body : Tree) : body.preorder.any (assigns document name) =
      (body.preorder.filter (·.isKind .assignmentExpression)).any (assigns document name) := by
    rw [List.any_filter]
    refine congrArg body.preorder.any (funext fun node => ?_)
    cases assignment : node.isKind .assignmentExpression with
    | true => exact (Bool.true_and _).symm
    | false => rw [assigns, assignment, Bool.false_and, Bool.false_and, Bool.false_and]
  rw [assignsField, assignsField, here, there, Option.any_some, Option.any_some, only, only]
  exact any_of_forall₂ (fun _ _ mirrored => assigns_of_mirrors mirrored name) assignments

end Methods

theorem assignsField_inRole (document : Document) (role : Option Role) (method : Tree) :
    assignsField document (method.inRole role) = assignsField document method := by
  funext name
  rw [assignsField, assignsField, Tree.child?, Tree.child?, Tree.children_inRole]

/-- The methods of what is left are what is left of the methods that survive. -/
theorem map_methods_bare (document : Document) {tree left : Tree} (erased : bare tree = some left) :
    (methods left.preorder).map (assignsField document) =
      (methods (survivors tree)).map fun method => assignsField document (kept method) := by
  have each := @flatMap_preorder_bare _
    (fun node => if node.isKind .methodDefinition then [assignsField document node] else [])
    (fun role node => by rw [Tree.isKind, Tree.isKind, Tree.kind_inRole, assignsField_inRole]) tree
  rw [erased, Option.toList_some, List.flatMap_singleton] at each
  rw [methods, methods, ← flatMap_ite, ← flatMap_ite, each]
  refine List.flatMap_congr fun node survived => ?_
  cases named : node.isNamed with
  | true =>
    rw [bare_of_survivor survived named, Option.toList_some, List.flatMap_singleton,
      isKind_kept node (by decide)]
  | false =>
    rw [bare_of_unnamed named, Option.toList_some, List.flatMap_singleton, Tree.isKind_of_unnamed named,
      Tree.isKind_of_unnamed (isNamed_of_bare (bare_of_unnamed named) |>.trans named)]
    rfl

section Keeping

variable {parse : Parse} {source : String}

/-- Whether methods assign a field is read of the text without types as it is of what is left of them. -/
theorem map_assignsField (reads : ReadsBack parse source) :
    (methods (survivors (reviewed parse source).root)).map
        (fun method => assignsField (reviewed parse source) (kept method)) =
      (methods (reviewed parse (eraseTypes parse source)).root.preorder).map
        (assignsField (reviewed parse (eraseTypes parse source))) := by
  obtain ⟨left, erased, same⟩ := Option.map_eq_some_iff.1 reads.same
  rw [← Document.grafted_none, ← Document.grafted_none] at same
  have plain := isPlain_of_bare erased
  rw [← map_methods_bare _ erased, ← List.forall₂_eq_eq_eq, List.forall₂_map_left_iff,
    List.forall₂_map_right_iff]
  refine forall₂_of_map (Mirrors.map_filter_preorder_eq same (by decide) plain reads.plain) ?_
  intro method here result there mirrored
  exact assignsField_of_mirrors mirrored (isPlain_of_mem_preorder plain (List.mem_filter.1 here).1)
    (isPlain_of_mem_preorder reads.plain (List.mem_filter.1 there).1)

/-- A method that is read of a text without types only holds the fields that it assigns. -/
theorem holdsField_of_readsLeft {source erased : Tree} (reads : ReadsLeft source erased)
    (document : Document) {method : Tree} (visited : method ∈ erased.preorder) :
    holdsField document method = assignsField document method := by
  have none : promoted document method = [] := by
    rw [promoted]
    cases found : method.child? .parameters with
    | none => rfl
    | some parameters =>
      have here := Tree.mem_preorder_of_child visited found
      rw [Option.map_some, Option.getD_some, List.filter_eq_nil_iff.2, List.filterMap_nil]
      intro parameter member
      rw [isProperty_of_readsLeft reads (Tree.mem_preorder_of_mem_children here member)]
      decide
  funext name
  rw [holdsField, none]
  rfl

/-- Once the types of a source are erased, no parameter is a field. A field is kept exactly if the constructor
assigns it to the object besides, as one sees when the types are left out. -/
theorem fields_kept_iff (parse : Parse) (source : String)
    (reads : eraseTypes parse source ≠ source → ReadsBack parse source ∧
      ReadsLeft (reviewed parse source).root (reviewed parse (eraseTypes parse source)).root) :
    (eraseTypes parse source ≠ source →
      ∀ node ∈ (reviewed parse (eraseTypes parse source)).root.preorder, isProperty node = false) ∧
    (KeepsFields parse source ↔
      eraseTypes parse source = source ∨
        ∀ method ∈ methods (survivors (reviewed parse source).root),
          isConstructor (reviewed parse source) method = true →
            ∀ name ∈ promoted (reviewed parse source) method,
              assignsField (reviewed parse source) (kept method) name = true) := by
  constructor
  · intro changed node visited
    exact isProperty_of_readsLeft (reads changed).2 visited
  · refine or_congr_right' fun changed => ?_
    obtain ⟨back, left⟩ := reads changed
    have held : (methods (reviewed parse (eraseTypes parse source)).root.preorder).map
          (holdsField (reviewed parse (eraseTypes parse source))) =
        (methods (survivors (reviewed parse source).root)).map
          fun method => assignsField (reviewed parse source) (kept method) := by
      rw [map_assignsField back]
      exact List.map_congr_left fun method member =>
        holdsField_of_readsLeft left _ (List.mem_filter.1 member).1
    rw [← @List.forall₂_map_right_iff _ _ _ (fun method (held : String → Bool) =>
        isConstructor (reviewed parse source) method = true →
          ∀ name ∈ promoted (reviewed parse source) method, held name = true),
      held, List.forall₂_map_right_iff, List.forall₂_same]

/-- A parameter that is a field, which the constructor assigns besides. -/
def assignedField : String := "class A \x7b constructor(readonly x) \x7b this.x = x \x7d \x7d\n"

theorem assignedField_kept :
    eraseTypes Syntax.parse assignedField = "class A \x7b constructor(x) \x7b this.x = x \x7d \x7d\n" ∧
      KeepsFields Syntax.parse assignedField := by
  -- evaluated together, so that each text is parsed once
  obtain ⟨erased, plain, same, left, assigned⟩ :
      eraseTypes Syntax.parse assignedField = "class A \x7b constructor(x) \x7b this.x = x \x7d \x7d\n" ∧
      (reviewed Syntax.parse (eraseTypes Syntax.parse assignedField)).root.isPlain = true ∧
      (bare (reviewed Syntax.parse assignedField).root).map (reviewed Syntax.parse assignedField).outline =
        some ((reviewed Syntax.parse (eraseTypes Syntax.parse assignedField)).outline
          (reviewed Syntax.parse (eraseTypes Syntax.parse assignedField)).root) ∧
      ReadsLeft (reviewed Syntax.parse assignedField).root
        (reviewed Syntax.parse (eraseTypes Syntax.parse assignedField)).root ∧
      ∀ method ∈ methods (survivors (reviewed Syntax.parse assignedField).root),
        isConstructor (reviewed Syntax.parse assignedField) method = true →
          ∀ name ∈ promoted (reviewed Syntax.parse assignedField) method,
            assignsField (reviewed Syntax.parse assignedField) (kept method) name = true := by
    decide +kernel
  exact ⟨erased, (fields_kept_iff _ _ fun _ => ⟨⟨plain, same⟩, left⟩).2.2 (.inr assigned)⟩

/-- A parameter that is a field, and is not assigned. -/
def declaredField : String := "class A \x7b constructor(private x: number) \x7b\x7d \x7d\n"

theorem declaredField_lost :
    eraseTypes Syntax.parse declaredField = "class A \x7b constructor(x) \x7b\x7d \x7d\n" ∧
      (methods (survivors (reviewed Syntax.parse declaredField).root)).map
          (fun method => (isConstructor (reviewed Syntax.parse declaredField) method,
            promoted (reviewed Syntax.parse declaredField) method)) = [(true, ["x"])] ∧
      ¬KeepsFields Syntax.parse declaredField := by
  decide +kernel

end Keeping

end Erasure

end ComponentGate
