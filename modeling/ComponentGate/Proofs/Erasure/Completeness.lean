import ComponentGate.Proofs.Erasure.Statements

/-! What erasing misses. All that erasing has in its tables is gone from the text, wherever it stands. What is
left of types are marks that the tables do not have for the construct that holds them, such as that of an
optional method. -/

namespace ComponentGate

open Syntax Preamble Document

namespace Erasure

/-- Whether a construct goes as a whole. -/
def isDropped (tree : Tree) : Bool :=
  tree.isOneOf (erasedKinds ++ modifierKinds ++ typeStatementKinds) ||
    (tree.isOneOf [.importStatement, .exportStatement] && isTypeOnly tree)

/-- The parts of a text that are of types, by the construct that they belong to: all of it, what a cast adds
to its value, a typed mark, or a typed specifier of a clause. -/
inductive TypePart (node : Tree) : Nat → Nat → Prop where
  | whole : isDropped node = true → TypePart node node.start node.stop
  | cast {value : Tree} : node.isOneOf castKinds = true → node.namedChildren.head? = some value →
      TypePart node value.stop node.stop
  | mark {kind : Kind} {part : Tree} : node.kind? = some kind → part ∈ node.children →
      (typedMarks kind).any part.isToken = true → TypePart node part.start part.stop
  | specifier {part : Tree} : node.isOneOf [.namedImports, .exportClause] = true →
      part ∈ node.children → isSpecifier part = true → isTypeOnly part = true →
      TypePart node part.start part.stop

/-- What a parser is relied on for: a module, in which clauses stand in statements, are written as clauses
and have nothing of types in them but typed specifiers; and nothing stands below a fixed piece of text. -/
structure Formed (document : Document) : Prop where
  program : document.root.isKind .program = true
  clausal : ∀ clause ∈ document.root.preorder,
    clause.isOneOf [.namedImports, .exportClause] = true → isClausal document clause = true
  listing : ∀ clause ∈ document.root.preorder, clause.isOneOf [.namedImports, .exportClause] = true →
    ∀ part ∈ clause.children, ∀ node ∈ part.preorder,
      node.isOneOf [.namedImports, .exportClause] = false ∧ (isSpecifier node || isUntyped node) = true
  placed : ∀ child ∈ document.root.children, child.isOneOf [.namedImports, .exportClause] = false
  leaf : ∀ node ∈ document.root.preorder, node.isNamed = false → node.children.isEmpty = true

instance (document : Document) : Decidable (Formed document) :=
  decidable_of_iff
    (document.root.isKind .program = true ∧
      (∀ node ∈ document.root.preorder,
        (node.isOneOf [.namedImports, .exportClause] = true → isClausal document node = true ∧
          ∀ part ∈ node.children, ∀ node ∈ part.preorder,
            node.isOneOf [.namedImports, .exportClause] = false ∧
              (isSpecifier node || isUntyped node) = true) ∧
        (node.isNamed = false → node.children.isEmpty = true)) ∧
      ∀ child ∈ document.root.children, child.isOneOf [.namedImports, .exportClause] = false)
    ⟨fun ⟨program, nodes, placed⟩ =>
      { program, placed
        clausal := fun clause visited kind => ((nodes clause visited).1 kind).1
        listing := fun clause visited kind => ((nodes clause visited).1 kind).2
        leaf := fun node visited => (nodes node visited).2 },
    fun formed => ⟨formed.program, fun node visited =>
      ⟨fun kind => ⟨formed.clausal node visited kind, formed.listing node visited kind⟩,
        formed.leaf node visited⟩, formed.placed⟩⟩

section Parts

variable {text : String} {document : Document} {node : Tree} {start stop : Nat}

theorem isDropped_of_unnamed (unnamed : node.isNamed = false) : isDropped node = false := by
  simp [isDropped, Tree.isOneOf_of_unnamed unnamed]

theorem not_typePart_of_unnamed (unnamed : node.isNamed = false) : ¬TypePart node start stop := by
  intro part
  cases part with
  | whole dropped => simp [isDropped_of_unnamed unnamed] at dropped
  | cast kind _ => simp [Tree.isOneOf_of_unnamed unnamed] at kind
  | mark kind _ _ => simp [Tree.isNamed, kind] at unnamed
  | specifier kind _ _ _ => simp [Tree.isOneOf_of_unnamed unnamed] at kind

theorem not_typePart_of_isSpecifier (specifier : isSpecifier node = true) : ¬TypePart node start stop := by
  have apart {kinds : List Kind} (clear : ∀ kind ∈ [Kind.importSpecifier, .exportSpecifier], kind ∉ kinds) :
      ¬node.isOneOf kinds = true :=
    Bool.eq_false_iff.1 (Tree.isOneOf_of_apart specifier clear)
  intro part
  cases part with
  | whole dropped =>
    rw [isDropped, Bool.or_eq_true, Bool.and_eq_true] at dropped
    exact dropped.elim (apart (by decide)) fun moved => apart (by decide) moved.1
  | cast kind _ => exact apart (by decide) kind
  | @mark kind _ found _ marked =>
    have known : kind = .importSpecifier ∨ kind = .exportSpecifier := by
      simpa [isSpecifier, Tree.isOneOf, found] using specifier
    rcases known with rfl | rfl <;> cases marked
  | specifier kind _ _ _ => exact apart (by decide) kind

/-- What is untyped has no part of types, unless it is a clause. -/
theorem not_typePart_of_isUntyped (untyped : isUntyped node = true)
    (other : node.isOneOf [.namedImports, .exportClause] = false) : ¬TypePart node start stop := by
  simp only [isUntyped, Bool.and_eq_true, Bool.not_eq_true'] at untyped
  obtain ⟨⟨plain, unmarked⟩, free⟩ := untyped
  intro part
  cases part with
  | whole dropped =>
    rw [isDropped, Tree.isOneOf_of_subset (List.subset_append_left _ _) plain, Bool.false_or,
      Bool.and_eq_true] at dropped
    have among : [Kind.importStatement, .exportStatement] ⊆
        [.importStatement, .exportStatement, .importSpecifier, .exportSpecifier] := by
      decide
    rw [Tree.isOneOf_mono among dropped.1, dropped.2] at free
    cases free
  | cast kind _ =>
    rw [Tree.isOneOf_of_subset (List.subset_append_right _ _) plain] at kind
    cases kind
  | @mark _ part found member marked =>
    have none := List.any_eq_false.1 unmarked part member
    rw [found, Option.any_some] at none
    exact none marked
  | specifier kind _ _ _ =>
    rw [other] at kind
    cases kind

/-- The parts of a construct that are of types lie inside it. -/
theorem TypePart.inside (ranged : Ranged text document) (visited : node ∈ document.root.preorder)
    (part : TypePart node start stop) : node.start ≤ start ∧ start ≤ stop ∧ stop ≤ node.stop := by
  have below {part : Tree} (member : part ∈ node.children) :
      node.start ≤ part.start ∧ part.start ≤ part.stop ∧ part.stop ≤ node.stop :=
    have nested := ranged.nested node visited part member
    ⟨nested.1, ranged.forward part (Tree.mem_preorder_of_mem_children visited member), nested.2⟩
  cases part with
  | whole _ => exact ⟨Nat.le_refl _, ranged.forward node visited, Nat.le_refl _⟩
  | @cast value _ first =>
    have inside := below (List.mem_filter.1 (List.mem_of_head? first)).1
    omega
  | mark _ member _ => exact below member
  | specifier _ member _ _ => exact below member

end Parts

section Empties

variable {text : String} {document : Document} {place : Place} (ranged : Ranged text document)
  (seated : Seated document.root place)

theorem empties_remove (tree : Tree) : (Edit.remove tree).Empties tree.start tree.stop :=
  ⟨Int.le_refl _, Int.le_refl _, .inl rfl⟩

include seated in
theorem empties_removeWithGap : (removeWithGap place).Empties place.tree.start place.tree.stop := by
  rw [removeWithGap]
  cases next : place.following with
  | none => exact empties_remove place.tree
  | some following =>
    exact ⟨Int.le_refl _, Int.ofNat_le.2 (seated.next following next).2, .inl rfl⟩

include ranged

theorem empties_removeStatement {tree : Tree} (visited : tree ∈ document.root.preorder) :
    (document.removeStatement tree).Empties tree.start tree.stop := by
  have front := clearedFrom_le document tree
  have back := le_clearedTo (ranged.stop_le visited)
  rw [removeStatement_eq]
  exact ⟨Int.ofNat_le.2 front, Int.ofNat_le.2 back, .inl rfl⟩

include seated

/-- Removing what stands around a place empties the place. -/
theorem empties_removeStatement_of_mem_ancestors {outer : Tree} (member : outer ∈ place.ancestors) :
    (document.removeStatement outer).Empties place.tree.start place.tree.stop := by
  obtain ⟨visited, inside⟩ := seated.around outer member
  have range := ranged.inside visited inside
  exact (empties_removeStatement ranged visited).mono range.1 range.2

omit ranged seated in
theorem mem_action_of_erased (kind : place.tree.isOneOf erasedKinds = true) :
    Edit.remove place.tree ∈ (action document place).edits := by
  rw [action]
  dsimp only
  cases found : place.tree.kind? with
  | none => simp [Tree.isOneOf, found] at kind
  | some own =>
    have listed : own ∈ erasedKinds := by simpa [Tree.isOneOf, found] using kind
    simp [listed, Action.edits]

omit ranged seated in
theorem mem_action_of_modifier (kind : place.tree.isOneOf modifierKinds = true) :
    removeWithGap place ∈ (action document place).edits := by
  rw [action]
  dsimp only
  cases found : place.tree.kind? with
  | none => simp [Tree.isOneOf, found] at kind
  | some own =>
    have listed : own ∈ modifierKinds := by simpa [Tree.isOneOf, found] using kind
    have other : ∀ kind ∈ modifierKinds, kind ∉ erasedKinds := by decide
    simp [listed, other own listed, Action.edits]

/-- What goes as a whole is emptied. -/
theorem exists_empties_of_isDropped (dropped : isDropped place.tree = true) :
    ∃ edit ∈ (action document place).edits, edit.Empties place.tree.start place.tree.stop := by
  rw [isDropped, Tree.isOneOf_append, Tree.isOneOf_append] at dropped
  simp only [Bool.or_eq_true, Bool.and_eq_true] at dropped
  rcases dropped with ((erased | modifier) | statement) | ⟨moved, typed⟩
  · exact ⟨_, mem_action_of_erased erased, empties_remove place.tree⟩
  · exact ⟨_, mem_action_of_modifier modifier, empties_removeWithGap seated⟩
  · refine ⟨_, mem_action_of_typeStatement statement, ?_⟩
    cases exported : place.parent?.filter (·.isKind .exportStatement) with
    | none => exact empties_removeStatement ranged seated.here
    | some parent =>
      have around := (Option.filter_eq_some_iff.1 exported).1
      exact empties_removeStatement_of_mem_ancestors ranged seated (List.mem_of_head? around)
  · exact ⟨_, mem_action_of_typeOnly moved typed, empties_removeStatement ranged seated.here⟩

omit ranged seated in
/-- What a cast adds to its value is emptied. -/
theorem exists_empties_of_cast (cast : place.tree.isOneOf castKinds = true) {value : Tree}
    (first : place.tree.namedChildren.head? = some value) :
    ∃ edit ∈ (action document place).edits, edit.Empties value.stop place.tree.stop := by
  refine ⟨.delete value.stop place.tree.stop, ?_, Int.le_refl _, Int.le_refl _, .inl rfl⟩
  rw [action]
  dsimp only
  cases found : place.tree.kind? with
  | none => simp [Tree.isOneOf, found] at cast
  | some kind =>
    have known : kind ∈ castKinds := by simpa [Tree.isOneOf, found] using cast
    have other : ∀ kind ∈ castKinds,
        kind ∉ erasedKinds ∧ kind ∉ modifierKinds ∧ kind ∉ typeStatementKinds := by
      decide
    simp [known, other kind known, castAction, first, Action.edits]

theorem exists_empties_of_mark {kind : Kind} {part : Tree} (found : place.tree.kind? = some kind)
    (member : part ∈ place.tree.children) (marked : (typedMarks kind).any part.isToken = true) :
    ∃ edit ∈ (action document place).edits, edit.Empties part.start part.stop := by
  obtain ⟨child, under, rfl, -⟩ := Place.exists_mem_children member
  have made : (action document place).edits = markEdits place (typedMarks kind) := by
    have known :
        kind ∈ [Kind.requiredParameter, .optionalParameter, .fieldDefinition, .variableDeclarator] := by
      rw [typedMarks.eq_def] at marked
      split at marked
      all_goals first | decide | cases marked
    simp only [List.mem_cons, List.not_mem_nil, or_false] at known
    rw [action]
    dsimp only
    rw [found]
    rcases known with rfl | rfl | rfl | rfl <;>
      simp [erasedKinds, modifierKinds, typeStatementKinds, castKinds, Action.edits]
  rw [made]
  refine ⟨_, List.mem_map.2 ⟨child, List.mem_filter.2 ⟨under, marked⟩, rfl⟩, ?_⟩
  split
  · exact empties_removeWithGap (seated.of_mem_children ranged under)
  · exact empties_remove child.tree

omit ranged seated in
/-- A clause stands in a statement, and neither is a statement of the module itself nor all of it. -/
theorem exists_ancestors_of_clause (formed : Formed document)
    (visited : place ∈ (Place.ofRoot document.root).walkWhere (descends document))
    (clause : place.tree.isOneOf [.namedImports, .exportClause] = true) :
    ∃ parent outer rest, place.ancestors = parent :: outer :: rest := by
  rcases below_of_mem_walkWhere visited with rfl | ⟨statement, here, below⟩
  · have program := formed.program
    rw [← Tree.isOneOf_singleton] at program
    rw [Place.ofRoot, Tree.isOneOf_of_apart program (by decide)] at clause
    cases clause
  · obtain ⟨inner, outside, -, own, -⟩ := below.around
    cases inner with
    | nil =>
      rw [own rfl, formed.placed statement here] at clause
      cases clause
    | cons first more =>
      cases more with
      | nil => exact ⟨first, document.root, [], outside⟩
      | cons second more => exact ⟨first, second, more ++ [document.root], outside⟩

/-- A typed specifier goes with its clause, which is written again without it, or with a statement. -/
theorem exists_empties_of_specifier (formed : Formed document)
    (visited : place ∈ (Place.ofRoot document.root).walkWhere (descends document))
    (clause : place.tree.isOneOf [.namedImports, .exportClause] = true) {part : Tree}
    (member : part ∈ place.tree.children) (specifier : isSpecifier part = true)
    (typed : isTypeOnly part = true) :
    ∃ edit ∈ (action document place).edits, edit.Empties part.start part.stop := by
  have nested := ranged.nested place.tree seated.here part member
  have clausal := formed.clausal place.tree seated.here clause
  have behind := (lt_start_of_isClausal ranged seated.here clausal).2 part member specifier
  have rewritten (written : String) : (Edit.replace place.tree written).Empties part.start part.stop :=
    ⟨Int.ofNat_le.2 nested.1, Int.ofNat_le.2 nested.2, .inr (Int.ofNat_lt.2 behind)⟩
  have removed {outer : Tree} (around : outer ∈ place.ancestors) :
      (document.removeStatement outer).Empties part.start part.stop :=
    (empties_removeStatement_of_mem_ancestors ranged seated around).mono nested.1 nested.2
  have fewer : ¬(keptSpecifiers place.tree).length =
      (place.tree.namedChildren.filter isSpecifier).length := by
    have named : part ∈ place.tree.namedChildren :=
      List.mem_filter.2 ⟨member, isNamed_of_isSpecifier specifier⟩
    exact Nat.ne_of_lt (List.length_filter_lt_length_iff_exists.2
      ⟨part, List.mem_filter.2 ⟨named, specifier⟩, by simp [typed]⟩)
  obtain ⟨parent, outer, rest, around⟩ := exists_ancestors_of_clause formed visited clause
  rw [edits_action_of_clause clause, specifierEdits_eq, if_neg fewer]
  split
  · exact ⟨_, List.mem_singleton_self _, rewritten _⟩
  rw [around]
  cases place.tree.isKind .namedImports with
  | true =>
    dsimp only
    split
    · exact ⟨_, List.mem_singleton_self _, rewritten _⟩
    · exact ⟨document.removeStatement outer, by simp, removed (by simp [around])⟩
  | false => exact ⟨document.removeStatement parent, by simp, removed (by simp [around])⟩

end Empties

section Skips

variable {text : String} {document : Document} {place child : Place}

/-- What is not looked into goes as a whole, or is a cast beside its value, or a clause. -/
theorem of_not_descends (skipped : descends document place child = false) :
    isDropped place.tree = true ∨
      (place.tree.isOneOf castKinds = true ∧
        ∀ value ∈ place.tree.namedChildren.head?, child.tree.label ≠ value.label) ∨
      place.tree.isOneOf [.namedImports, .exportClause] = true := by
  rw [descends, action] at skipped
  dsimp only at skipped
  cases found : place.tree.kind? with
  | none =>
    rw [found] at skipped
    cases skipped
  | some kind =>
    have listed (kinds : List Kind) (own : kinds.contains kind = true) :
        place.tree.isOneOf kinds = true := by
      rw [Tree.isOneOf, found]
      exact own
    have whole (kinds : List Kind) (own : kinds.contains kind = true)
        (among : kinds ⊆ erasedKinds ++ modifierKinds ++ typeStatementKinds) :
        isDropped place.tree = true := by
      rw [isDropped, Tree.isOneOf_mono among (listed kinds own), Bool.true_or]
    rw [found] at skipped
    dsimp only at skipped
    by_cases erased : erasedKinds.contains kind = true
    · exact .inl (whole _ erased (by decide))
    by_cases modifier : modifierKinds.contains kind = true
    · exact .inl (whole _ modifier (by decide))
    by_cases statement : typeStatementKinds.contains kind = true
    · exact .inl (whole _ statement (by decide))
    rw [if_neg erased, if_neg modifier, if_neg statement] at skipped
    by_cases cast : castKinds.contains kind = true
    · refine .inr (.inl ⟨listed _ cast, fun value first => ?_⟩)
      rw [if_pos cast, castAction, Option.mem_def.1 first] at skipped
      exact of_decide_eq_false skipped
    by_cases typed : (kind = .importStatement ∨ kind = .exportStatement) ∧ isTypeOnly place.tree = true
    · refine .inl ?_
      rw [isDropped, listed [.importStatement, .exportStatement] (by simpa using typed.1), typed.2,
        Bool.and_self, Bool.or_true]
    by_cases clause : kind = .namedImports ∨ kind = .exportClause
    · exact .inr (.inr (listed _ (by simpa using clause)))
    rw [if_neg cast, if_neg typed, if_neg clause] at skipped
    cases skipped

variable (ranged : Ranged text document)
include ranged

/-- A construct that is not looked into is emptied, unless it is a part of a clause. -/
theorem exists_empties_of_skipped
    (visited : place ∈ (Place.ofRoot document.root).walkWhere (descends document))
    (under : child ∈ place.children) (skipped : descends document place child = false)
    (other : place.tree.isOneOf [.namedImports, .exportClause] = false)
    (named : child.tree.isNamed = true) :
    ∃ edit ∈ (action document place).edits, edit.Empties child.tree.start child.tree.stop := by
  have seated := seated_of_mem_walkWhere ranged visited
  have member := Place.tree_mem_children under
  have nested := ranged.nested place.tree seated.here child.tree member
  rcases of_not_descends skipped with dropped | ⟨cast, beside⟩ | clause
  · obtain ⟨edit, made, empties⟩ := exists_empties_of_isDropped ranged seated dropped
    exact ⟨edit, made, empties.mono nested.1 nested.2⟩
  · -- the value is the first of the parts, so that the others stand behind it
    have among : child.tree ∈ place.tree.namedChildren := List.mem_filter.2 ⟨member, named⟩
    have apart : place.tree.namedChildren.Pairwise fun first second => first.stop ≤ second.start :=
      (ranged.apart place.tree seated.here).filter _
    cases parts : place.tree.namedChildren with
    | nil =>
      rw [parts] at among
      cases among
    | cons value rest =>
      have first : place.tree.namedChildren.head? = some value := by rw [parts, List.head?_cons]
      rw [parts] at among apart
      rcases List.mem_cons.1 among with same | later
      · exact absurd (congrArg Tree.label same) (beside value first)
      · have behind := List.rel_of_pairwise_cons apart later
        obtain ⟨edit, made, empties⟩ := @exists_empties_of_cast document place cast value first
        exact ⟨edit, made, empties.mono behind nested.2⟩
  · rw [clause] at other
    cases other

/-- Every part of types is emptied, wherever it stands. -/
theorem exists_empties (formed : Formed document) {node : Tree} (present : node ∈ document.root.preorder)
    {start stop : Nat} (part : TypePart node start stop) :
    ∃ edit ∈ edits document, edit.Empties start stop := by
  have self := Place.mem_walkWhere_self (descends document) (Place.ofRoot document.root)
  rcases Place.visited_or_skipped self present with
    ⟨place, visited, rfl⟩ | ⟨place, visited, child, under, skipped, below⟩
  · have seated := seated_of_mem_walkWhere ranged visited
    obtain ⟨edit, made, empties⟩ :
        ∃ edit ∈ (action document place).edits, edit.Empties start stop := by
      cases part with
      | whole dropped => exact exists_empties_of_isDropped ranged seated dropped
      | cast kind first => exact exists_empties_of_cast kind first
      | mark found member marked => exact exists_empties_of_mark ranged seated found member marked
      | specifier kind member specifier typed =>
        exact exists_empties_of_specifier ranged seated formed visited kind member specifier typed
    exact ⟨edit, mem_edits_of_walk visited made, empties⟩
  · have here := Place.mem_preorder_of_mem_walkWhere visited
    have member := Place.tree_mem_children under
    have reached := Tree.mem_preorder_of_mem_children here member
    cases clause : place.tree.isOneOf [.namedImports, .exportClause] with
    | true =>
      obtain ⟨other, listed⟩ := formed.listing place.tree here clause child.tree member node below
      rw [Bool.or_eq_true] at listed
      rcases listed with specifier | untyped
      · exact absurd part (not_typePart_of_isSpecifier specifier)
      · exact absurd part (not_typePart_of_isUntyped untyped other)
    | false =>
      cases named : child.tree.isNamed with
      | false =>
        have alone : node = child.tree := by
          have leaf := List.isEmpty_iff.1 (formed.leaf child.tree reached named)
          rw [Tree.preorder_eq, leaf, List.flatMap_nil, List.mem_singleton] at below
          exact below
        exact absurd part (not_typePart_of_unnamed (alone ▸ named))
      | true =>
        obtain ⟨edit, made, empties⟩ := exists_empties_of_skipped ranged visited under skipped clause named
        have inner := ranged.inside reached below
        have own := part.inside ranged present
        exact ⟨edit, mem_edits_of_walk visited made, empties.mono (by omega) (by omega)⟩

end Skips

/-- Constructs that are of types wherever they stand. -/
def typeKinds : List Kind :=
  [.typeAscription, .optingTypeAscription, .omittingTypeAscription, .addingTypeAscription,
    .assertsAscription, .typePredicateAscription, .typeParameters, .typeArguments, .implementsClause,
    .asExpression, .satisfiesExpression, .nonNullExpression, .accessibilityModifier, .overrideModifier,
    .interfaceDeclaration, .typeAliasDeclaration, .functionSignature, .ambientDeclaration]

/-- The words that say of a construct that it is typed. -/
def markWords (kind : Kind) : List String :=
  match kind with
  | .requiredParameter | .optionalParameter | .fieldDefinition | .methodDefinition | .methodSignature
  | .abstractMethodSignature | .variableDeclarator => ["?", "!", "readonly"]
  | .importStatement | .exportStatement | .importSpecifier | .exportSpecifier =>
    ["type", "typeof", "readonly"]
  | .comment => []
  | _ => ["readonly"]

/-- The words of types that erasing does not look for, by the construct that holds them. -/
def missedMarks (kind : Kind) : List String :=
  match kind with
  | .comment | .fieldDefinition => []
  | .requiredParameter => ["?", "!"]
  | .optionalParameter => ["!"]
  | .variableDeclarator => ["?", "readonly"]
  | .methodDefinition | .methodSignature | .abstractMethodSignature => ["?", "!", "readonly"]
  | .importStatement | .exportStatement | .importSpecifier | .exportSpecifier => ["typeof", "readonly"]
  | _ => ["readonly"]

/-- The words of a table that a construct has among its parts. -/
def marksOf (words : Kind → List String) (tree : Tree) : List String :=
  (tree.kind?.toList.flatMap words).filter fun word => tree.children.any (·.isToken word)

/-- The words of types that are left of a construct once those are gone that erasing looks for. -/
def leftMarks : Tree → List String :=
  marksOf fun kind => (markWords kind).filter fun word => !(typedMarks kind).contains word

/-- Whether a node is one of types. -/
def isTypeSyntax (tree : Tree) : Bool := tree.isOneOf typeKinds || !(marksOf markWords tree).isEmpty

/-- Whether a node is of types and erasing does not see it. -/
def isMissed (tree : Tree) : Bool :=
  tree.isOneOf [.omittingTypeAscription, .addingTypeAscription] || !(marksOf missedMarks tree).isEmpty

/-- What a parser is relied on for: it reads the constructs of the erased text as they are left of the
source, with the words of types that are left among their parts. -/
def ReadsLeft (source erased : Tree) : Prop :=
  ((survivors source).filter Tree.isNamed).map (fun node => (keptSymbol node.label.symbol, leftMarks node)) =
    (erased.preorder.filter fun node => node.isNamed && !node.isComment).map fun node =>
      (node.label.symbol, marksOf markWords node)

instance (source erased : Tree) : Decidable (ReadsLeft source erased) :=
  inferInstanceAs (Decidable (_ = _))

/-- Whether a construct is of types, by its symbol and the words of types among its parts. -/
def isTyped (seen : Symbol × List String) : Bool :=
  (match seen.1 with
    | .construct kind => typeKinds.contains kind
    | .token _ => false) || !seen.2.isEmpty

section Left

variable {tree node : Tree}

theorem missedMarks_eq (kind : Kind) :
    missedMarks kind =
      ((markWords kind).filter fun word => !(typedMarks kind).contains word).filter (· != "type") := by
  cases kind <;> rfl

theorem isTypeOnly_of_stays (stays : isGone tree = false) {kind : Kind} (found : tree.kind? = some kind)
    (word : "type" ∈ markWords kind) : isTypeOnly tree = false := by
  have moved : kind ∈ [Kind.importStatement, .exportStatement, .importSpecifier, .exportSpecifier] := by
    rw [markWords.eq_def] at word
    split at word
    all_goals first | decide | simp at word
  simp only [isGone, Bool.or_eq_false_iff, Bool.and_eq_false_iff] at stays
  obtain ⟨⟨⟨-, specifier⟩, statement⟩, -⟩ := stays
  simp only [List.mem_cons, List.not_mem_nil, or_false] at moved
  rcases moved with rfl | rfl | rfl | rfl
  · simp only [Tree.isOneOf, found] at statement
    exact (statement.resolve_left (by decide)).1
  · simp only [Tree.isOneOf, found] at statement
    exact (statement.resolve_left (by decide)).1
  · simp only [isSpecifier, Tree.isOneOf, found] at specifier
    exact specifier.resolve_left (by decide)
  · simp only [isSpecifier, Tree.isOneOf, found] at specifier
    exact specifier.resolve_left (by decide)

/-- The words that are left of a construct that does not go are those that erasing misses. -/
theorem leftMarks_of_stays (stays : isGone tree = false) : leftMarks tree = marksOf missedMarks tree := by
  rw [leftMarks, marksOf, marksOf]
  cases found : tree.kind? with
  | none => rfl
  | some kind =>
    rw [Option.toList_some, List.flatMap_singleton, List.flatMap_singleton, missedMarks_eq]
    refine Eq.trans (List.filter_congr fun word member => ?_) List.filter_filter.symm
    by_cases typed : word = "type"
    · subst typed
      have none : tree.children.any (·.isToken "type") = false :=
        isTypeOnly_of_stays stays found (List.mem_filter.1 member).1
      rw [none, Bool.false_and]
    · simp [typed]

theorem isTyped_eq (tree : Tree) (words : List String) :
    isTyped (tree.label.symbol, words) = (tree.isOneOf typeKinds || !words.isEmpty) := by
  rw [isTyped, Tree.isOneOf, Tree.kind?]
  cases tree.label.symbol <;> rfl

theorem isTyped_keptSymbol (symbol : Symbol) (words : List String) :
    isTyped (keptSymbol symbol, words) = isTyped (symbol, words) := by
  rw [keptSymbol]
  split
  · rename_i optional
    rw [optional]
    rfl
  · rfl

/-- What neither goes nor gives way is of types only if erasing does not know its kind. -/
theorem isOneOf_typeKinds_of_stays (stays : isGone tree = false)
    (uncast : tree.isOneOf unwrappedKinds = false) :
    tree.isOneOf typeKinds = tree.isOneOf [.omittingTypeAscription, .addingTypeAscription] := by
  simp only [isGone, Bool.or_eq_false_iff] at stays
  have left : tree.isOneOf (erasedKinds ++ modifierKinds ++ typeStatementKinds) = false :=
    Tree.isOneOf_of_subset (by decide) stays.1.1.1
  have cast : tree.isOneOf castKinds = false := Tree.isOneOf_of_subset (by decide) uncast
  have known : typeKinds ⊆ [.omittingTypeAscription, .addingTypeAscription] ++
      (erasedKinds ++ modifierKinds ++ typeStatementKinds) ++ castKinds := by
    decide
  rw [Bool.eq_iff_iff]
  constructor
  · intro typed
    have listed := Tree.isOneOf_mono known typed
    rwa [Tree.isOneOf_append, Tree.isOneOf_append, left, cast, Bool.or_false, Bool.or_false] at listed
  · exact Tree.isOneOf_mono (by decide)

/-- Of what survives only what erasing misses is of types. -/
theorem isTyped_of_survivor (survived : node ∈ survivors tree) (named : node.isNamed = true) :
    isTyped (keptSymbol node.label.symbol, leftMarks node) = isMissed node := by
  obtain ⟨stays, uncast⟩ := stays_of_survivor survived named
  rw [isTyped_keptSymbol, isTyped_eq, isOneOf_typeKinds_of_stays stays uncast, leftMarks_of_stays stays]
  rfl

theorem mem_marksOf_iff {words : Kind → List String} {tree : Tree} {word : String} :
    word ∈ marksOf words tree ↔
      (∃ kind, tree.kind? = some kind ∧ word ∈ words kind) ∧
        tree.children.any (·.isToken word) = true := by
  simp [marksOf]

theorem marksOf_of_unnamed (unnamed : tree.isNamed = false) (words : Kind → List String) :
    marksOf words tree = [] := by
  have kind : tree.kind? = none := by simpa [Tree.isNamed] using unnamed
  rw [marksOf, kind]
  rfl

theorem isTypeSyntax_of_silent (silent : (tree.isNamed && !tree.isComment) = false) :
    isTypeSyntax tree = false := by
  rw [Bool.and_eq_false_iff, Bool.not_eq_false'] at silent
  rcases silent with unnamed | comment
  · rw [isTypeSyntax, Tree.isOneOf_of_unnamed unnamed, marksOf_of_unnamed unnamed]
    rfl
  · have found : tree.kind? = some .comment := beq_iff_eq.1 comment
    rw [isTypeSyntax, marksOf, Tree.isOneOf, found]
    rfl

/-- If the constructs that are left are read as such, what is read of types is what erasing misses. -/
theorem readsLeft_iff {source erased : Tree} (reads : ReadsLeft source erased) :
    (∀ node ∈ erased.preorder, isTypeSyntax node = false) ↔
      ∀ node ∈ survivors source, isMissed node = false := by
  have after : (∀ node ∈ erased.preorder, isTypeSyntax node = false) ↔
      ∀ seen ∈ (erased.preorder.filter fun node => node.isNamed && !node.isComment).map
        (fun node => (node.label.symbol, marksOf markWords node)), isTyped seen = false := by
    simp only [List.forall_mem_map, List.mem_filter, isTyped_eq]
    refine ⟨fun all node listed => all node listed.1, fun all node visited => ?_⟩
    cases meant : node.isNamed && !node.isComment with
    | true => exact all node ⟨visited, meant⟩
    | false => exact isTypeSyntax_of_silent meant
  have before : (∀ node ∈ survivors source, isMissed node = false) ↔
      ∀ seen ∈ ((survivors source).filter Tree.isNamed).map
        (fun node => (keptSymbol node.label.symbol, leftMarks node)), isTyped seen = false := by
    simp only [List.forall_mem_map, List.mem_filter]
    constructor
    · rintro all node ⟨survived, named⟩
      rw [isTyped_of_survivor survived named]
      exact all node survived
    · intro all node survived
      cases named : node.isNamed with
      | true =>
        rw [← isTyped_of_survivor survived named]
        exact all node ⟨survived, named⟩
      | false =>
        rw [isMissed, Tree.isOneOf_of_unnamed named, marksOf_of_unnamed named]
        rfl
  rw [after, before, reads]

end Left

section Completeness

variable {parse : Parse} {source erased : String}

/-- Once the types of a source are erased, nothing is left in the text of any part of types that erasing has in
its tables. If the constructs that are left are read as such, then nothing of types is read exactly if no
construct survives that has a word of types which erasing does not look for there. -/
theorem erasing_leaves_no_types_iff (commits : Commits parse source erased)
    (ranged : Ranged (split source).body (reviewed parse source)) (formed : Formed (reviewed parse source))
    (reads : ReadsLeft (reviewed parse source).root (parse erased)) :
    (∀ node ∈ (reviewed parse source).root.preorder, ∀ start stop, TypePart node start stop →
      bytesOf erased =
        Edit.cells (reviewed parse source).content (edits (reviewed parse source)) 0 start ++
          Edit.cells (reviewed parse source).content (edits (reviewed parse source)) stop
            ((reviewed parse source).bytes.size + 1)) ∧
    ((∀ node ∈ (parse erased).preorder, isTypeSyntax node = false) ↔
      ∀ node ∈ survivors (reviewed parse source).root, isMissed node = false) := by
  refine ⟨fun node present start stop part => ?_, readsLeft_iff reads⟩
  have fits : ∀ edit ∈ edits (reviewed parse source), edit.Fits (reviewed parse source).bytes.size :=
    fun edit member => (removes_edits ranged formed.clausal edit member).fits
  obtain ⟨clear, bytes⟩ := Edit.cells_of_render fits commits.rendered
  obtain ⟨edit, member, empties⟩ := exists_empties ranged formed present part
  have none := @Edit.cells_of_empties _ edit (reviewed parse source).content start stop clear
    (filled_edits ranged formed.clausal) member empties
  have inside := part.inside ranged present
  have within := ranged.stop_le present
  rw [bytes, Edit.cells_append _ _ start (Nat.zero_le _) (by omega),
    Edit.cells_append _ _ stop inside.2.1 (by omega)]
  rw [content] at none ⊢
  rw [none, List.nil_append]

/-- A typed field that need not be there, a typed specifier beside another one, and a cast. -/
def typedParts : String := "class A \x7b x?: T \x7d\nexport \x7b type B, c \x7d;\na!;\n"

theorem typedParts_leaves_no_types :
    ∃ erased, Commits Syntax.parse typedParts erased ∧
      ∀ node ∈ (Syntax.parse erased).preorder, isTypeSyntax node = false := by
  -- evaluated together, so that each text is parsed once
  obtain ⟨readable, ranged, formed, seen, erased, rendered, readable', reads⟩ :
      (reviewed Syntax.parse typedParts).hasErrors = false ∧
      Ranged (split typedParts).body (reviewed Syntax.parse typedParts) ∧
      Formed (reviewed Syntax.parse typedParts) ∧
      (∀ node ∈ survivors (reviewed Syntax.parse typedParts).root, isMissed node = false) ∧
      ∃ erased ∈ ((reviewed Syntax.parse typedParts).render
          (edits (reviewed Syntax.parse typedParts))).toOption,
        (Document.read Syntax.parse erased).hasErrors = false ∧
        ReadsLeft (reviewed Syntax.parse typedParts).root (Syntax.parse erased) := by
    decide +kernel
  have commits := commits_of_mem_toOption readable rendered readable'
  exact ⟨erased, commits, (erasing_leaves_no_types_iff commits ranged formed reads).2.2 seen⟩

/-- A method that need not be there, and a type. -/
def optionalMethod : String := "class A \x7b m?() \x7b\x7d \x7d\nconst x: number = 1;\n"

/-- The mark of the method stays. -/
theorem optionalMethod_keeps_mark :
    eraseTypes Syntax.parse optionalMethod = "class A \x7b m?() \x7b\x7d \x7d\nconst x = 1;\n" ∧
      ∃ node ∈ (reviewed Syntax.parse (eraseTypes Syntax.parse optionalMethod)).root.preorder,
        node.isKind .methodDefinition = true ∧ node.children.any (·.isToken "?") = true ∧
          isTypeSyntax node = true := by
  decide +kernel

end Completeness

end Erasure

end ComponentGate
