import ComponentGate.Proofs.Review.Validity

/-! What the blocking rules see of a node: a few names, and the kinds of a few children. Where two nodes
look alike, of one document or of two, the rules say the same. -/

namespace ComponentGate

open Syntax

/-- A node as the blocking rules see it. -/
structure Sight where
  kind : Option Kind
  /-- The spelling of a bare name. -/
  word : Option String
  dotted : Option String
  callee : Option String
  /-- Whether `import` itself is called. -/
  loads : Bool
  calledProperty : Option String
  constructed : Option String
  target : Option String
  targetProperty : Option String
  /-- Whether the first argument is a literal text. -/
  givenText : Bool
  specifier : Option String
  deriving DecidableEq, Repr

def bareNameKinds : List Kind := [.identifier, .shorthandProperty]

def Document.sight (document : Document) (node : Tree) : Sight where
  kind := node.kind?
  word := if node.isOneOf bareNameKinds then some (document.text node) else none
  dotted := document.dottedName? node
  callee := (node.child? .function).bind document.dottedName?
  loads := (node.child? .function).any (·.isKind .importName)
  calledProperty := (node.child? .function).bind (Rule.property? document)
  constructed := (node.child? .constructor).bind document.dottedName?
  target := (node.child? .left).bind document.dottedName?
  targetProperty := (node.child? .left).bind (Rule.property? document)
  givenText := node.callArguments.head?.any (·.isOneOf [.string, .templateString])
  specifier := document.specifier? node

theorem dottedChild_eq (document : Document) (role : Role) (trees : List Tree) :
    document.dottedChild? role trees =
      (trees.find? fun tree => tree.role == some role).bind document.dottedName? := by
  induction trees with
  | nil => rfl
  | cons tree rest ih =>
    by_cases played : (tree.role == some role) = true
    · simp [Document.dottedChild?, played]
    · simp [Document.dottedChild?, played, ih]

theorem dottedName_eq (document : Document) (tree : Tree) :
    document.dottedName? tree =
      match tree.label.symbol with
      | .construct .identifier => some (document.text tree)
      | .construct .thisName => some (document.text tree)
      | .construct .memberExpression =>
        match (tree.child? .object).bind document.dottedName?, tree.child? .property with
        | some object, some property =>
          if property.isKind .propertyIdentifier then
            some s!"{object}.{document.text property}"
          else none
        | _, _ => none
      | .construct .subscriptExpression =>
        match (tree.child? .object).bind document.dottedName?,
            (tree.child? .index).bind document.stringValue? with
        | some object, some key => some s!"{object}.{key}"
        | _, _ => none
      | _ => none := by
  cases tree with
  | node label children =>
    rw [Document.dottedName?, dottedChild_eq]
    rfl

section Alike

variable {first second : Document} {node other : Tree} {policy : Policy}

theorem kind_of_sight (same : first.sight node = second.sight other) : node.kind? = other.kind? :=
  congrArg Sight.kind same

theorem isOneOf_of_sight (same : first.sight node = second.sight other) (kinds : List Kind) :
    node.isOneOf kinds = other.isOneOf kinds := by
  rw [Tree.isOneOf, Tree.isOneOf, kind_of_sight same]

theorem isKind_of_sight (same : first.sight node = second.sight other) (kind : Kind) :
    node.isKind kind = other.isKind kind := by
  rw [Tree.isKind, Tree.isKind, kind_of_sight same]

theorem calleeName_of_sight (same : first.sight node = second.sight other) :
    first.calleeName? node = second.calleeName? other := by
  have callee := congrArg Sight.callee same
  simp only [Document.sight] at callee
  rw [Document.calleeName?, Document.calleeName?, callee]

theorem constructorName_of_sight (same : first.sight node = second.sight other) :
    first.constructorName? node = second.constructorName? other := by
  have constructed := congrArg Sight.constructed same
  simp only [Document.sight] at constructed
  rw [Document.constructorName?, Document.constructorName?, constructed]

theorem text_of_sight (same : first.sight node = second.sight other)
    (named : node.isOneOf bareNameKinds = true) : first.text node = second.text other := by
  have word := congrArg Sight.word same
  simp only [Document.sight, named, ← isOneOf_of_sight same, ↓reduceIte, Option.some.injEq] at word
  exact word

/-- A blocking rule judges by what it sees. -/
theorem check_of_sight (member : rule ∈ Rule.blocking)
    (same : first.sight node = second.sight other) (inspected : node.isOneOf rule.kinds = true) :
    rule.check first policy (.ofRoot node) = rule.check second policy (.ofRoot other) := by
  have callee := calleeName_of_sight same
  have constructed := constructorName_of_sight same
  have kind := isKind_of_sight same
  have loads := congrArg Sight.loads same
  have dotted := congrArg Sight.dotted same
  have target := congrArg Sight.target same
  have targetProperty := congrArg Sight.targetProperty same
  have calledProperty := congrArg Sight.calledProperty same
  have givenText := congrArg Sight.givenText same
  have specifier := congrArg Sight.specifier same
  simp only [Document.sight] at loads dotted target targetProperty calledProperty givenText specifier
  rw [Rule.blocking_eq] at member
  simp only [List.mem_cons, List.not_mem_nil, or_false] at member
  rcases member with rfl | rfl | rfl | rfl | rfl | rfl | rfl | rfl | rfl | rfl | rfl | rfl | rfl | rfl
  · simp only [Rule.importPolicy, Place.ofRoot, specifier]
  · simp only [Rule.noEval, Rule.onCalls, Rule.onNodes, Place.ofRoot, callee]
  · simp only [Rule.noFunctionConstructor, Rule.onNodes, Place.ofRoot, callee, constructed, kind]
  · simp only [Rule.noRequire, Rule.onCalls, Rule.onNodes, Place.ofRoot, callee]
  · simp only [Rule.noDynamicImport, Rule.onCalls, Rule.onNodes, Place.ofRoot, loads]
  · simp only [Rule.noStringTimer, Rule.onCalls, Rule.onNodes, Place.ofRoot, callee, givenText]
  · simp only [Rule.noFetch, Rule.onCalls, Rule.onNodes, Place.ofRoot, callee]
  · simp only [Rule.noNetworkConstructor, Rule.onNodes, Place.ofRoot, constructed]
  · have spelled : first.text node = second.text other := text_of_sight same inspected
    simp only [Rule.noPrivilegedGlobal, Rule.onNodes, Place.ofRoot, spelled]
  · simp only [Rule.noPrivilegedMember, Rule.onNodes, Place.ofRoot, dotted]
  · simp only [Rule.noCookieWrite, Rule.onTargets, Rule.onNodes, Place.ofRoot, target]
  · simp only [Rule.noLocationAssignment, Rule.onTargets, Rule.onNodes, Place.ofRoot, target]
  · simp only [Rule.noMarkupAssignment, Rule.onNodes, Place.ofRoot, targetProperty]
  · simp only [Rule.noMarkupInjection, Rule.onNodes, Place.ofRoot, callee, calledProperty]

theorem refused_of_sight (same : first.sight node = second.sight other)
    (refused : Refused first policy node) : Refused second policy other := by
  rcases refused with error | ⟨rule, member, inspected, message, said⟩
  · left
    rw [← isKind_of_sight same]
    exact error
  · right
    refine ⟨rule, member, ?_, message, ?_⟩
    · rw [← isOneOf_of_sight same]
      exact inspected
    · rw [← check_of_sight member same inspected]
      exact said

theorem refused_iff_of_sight (same : first.sight node = second.sight other) :
    Refused first policy node ↔ Refused second policy other :=
  ⟨refused_of_sight same, refused_of_sight same.symm⟩

end Alike

end ComponentGate
