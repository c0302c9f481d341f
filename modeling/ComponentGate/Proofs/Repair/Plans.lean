import ComponentGate.Proofs.Syntax.Preorder
import ComponentGate.Repair.Staged

/-! What the passes plan. Each pass plans nothing, or what its repairs are in the one case in which it acts;
the repairs of all nodes are put together node by node. A name for a position is a new one, or that of a
parameter which is there already. -/

namespace ComponentGate

open Syntax

namespace Repairs

theorem edits_concat (all : List Repairs) : (concat all).edits = all.flatMap Repairs.edits := by
  induction all with
  | nil => rfl
  | cons first rest ih =>
    rw [List.flatMap_cons, ← ih]
    rfl

theorem records_concat (all : List Repairs) : (concat all).records = all.flatMap Repairs.records := by
  induction all with
  | nil => rfl
  | cons first rest ih =>
    rw [List.flatMap_cons, ← ih]
    rfl

end Repairs

namespace Repair

section Acting

variable (document : Document)

/-- Declarations are moved where there are any, and into a function that has a body. -/
theorem hoistDeclarations_cases :
    hoistDeclarations.plan document = .none ∨
      ∃ target body, hoistTarget? document = some target ∧
        target.function.functionBody? = some body ∧
        document.root.namedChildren.filter (·.isDeclaration) ≠ [] ∧
        hoistDeclarations.plan document =
          ⟨hoistEdit document target.function body (document.root.namedChildren.filter (·.isDeclaration)) ::
              (document.root.namedChildren.filter (·.isDeclaration)).map document.removeStatement,
            (document.root.namedChildren.filter (·.isDeclaration)).map
              (hoistRecord document target.name)⟩ := by
  simp only [hoistDeclarations]
  split
  · exact .inl rfl
  · exact .inl rfl
  · rename_i target found filled
    split
    · exact .inl rfl
    · rename_i body answered
      exact .inr ⟨target, body, found, answered, filled, rfl⟩

/-- Where a key is added: a call of `map()` is handed a function that answers one element without a key, and
the function has a name for the position. -/
structure AddsKey (call callback element tag : Tree) (position : PositionName) : Prop where
  mapped : mapCallback? document call = some callback
  answered : mappedElement? callback = some element
  named : element.tagNode? = some tag
  unkeyed : (document.attribute? element "key").isSome = false
  placed : position? document callback = some position

theorem keyRepairs_cases (call : Tree) :
    keyRepairs document call = .none ∨
      ∃ callback element tag position, AddsKey document call callback element tag position ∧
        keyRepairs document call =
          ⟨position.edits ++ [.insert (attributesStart element tag) (keyAttribute position.name)],
            [s!"Added key to <{document.text tag}> rendered by map()"]⟩ := by
  rw [keyRepairs]
  split
  · exact .inl rfl
  rename_i callback mapped
  split
  · exact .inl rfl
  rename_i element answered
  split
  · exact .inl rfl
  rename_i tag named
  split
  · exact .inl rfl
  rename_i unkeyed
  split
  · exact .inl rfl
  rename_i position placed
  exact .inr ⟨callback, element, tag, position,
    ⟨mapped, answered, named, Bool.eq_false_iff.2 unkeyed, placed⟩, rfl⟩

theorem handlerRepairs_cases (given : Tree) :
    handlerRepairs document given = .none ∨
      ∃ name proper, given.namedChildren.head? = some name ∧ name.isKind .propertyIdentifier = true ∧
        Entries.get? handlerNames (document.text name) = some proper ∧
        handlerRepairs document given =
          ⟨[.replace name proper], [s!"Converted {document.text name} to {proper}"]⟩ := by
  rw [handlerRepairs]
  split
  · exact .inl rfl
  rename_i name first
  split
  · exact .inl rfl
  rename_i kind
  dsimp only
  cases found : Entries.get? handlerNames (document.text name) with
  | none => exact .inl rfl
  | some proper => exact .inr ⟨name, proper, first, by simpa using kind, found, rfl⟩

end Acting

section Idleness

theorem concat_edits_eq_nil_iff (root : Tree) (listed : Tree → Bool) (repairs : Tree → Repairs) :
    (Repairs.concat ((root.nodes.filter listed).map repairs)).edits = [] ↔
      ∀ node ∈ root.preorder, listed node = true → (repairs node).edits = [] := by
  rw [Repairs.edits_concat, List.flatMap_eq_nil_iff, Tree.nodes_eq_preorder, List.forall_mem_map]
  simp only [List.mem_filter, and_imp]

theorem hoistDeclarations_eq_nil_iff (document : Document) :
    (hoistDeclarations.plan document).edits = [] ↔
      document.root.namedChildren.filter (·.isDeclaration) = [] ∨
        (hoistTarget? document).bind (·.function.functionBody?) = none := by
  simp only [hoistDeclarations]
  cases document.root.namedChildren.filter (·.isDeclaration) with
  | nil => simp [Repairs.none]
  | cons declaration rest =>
    cases hoistTarget? document with
    | none => simp [Repairs.none]
    | some target =>
      rw [Option.bind_some]
      cases found : target.function.functionBody? with
      | none => simp [Repairs.none, found]
      | some body => simp [found]

theorem hasMarkup_eq_false_iff (document : Document) :
    hasMarkup document = false ↔ ∀ node ∈ document.root.preorder, node.isElement = true → False := by
  rw [hasMarkup, Tree.nodes_eq_preorder, List.any_eq_false]

theorem ensureBaseImport_eq_nil_iff (document : Document) :
    (ensureBaseImport.plan document).edits = [] ↔
      hasMarkup document = false ∨ importsBase document = true := by
  simp only [ensureBaseImport]
  cases hasMarkup document <;> cases importsBase document <;> simp [Repairs.none]

end Idleness

section Positions

variable {document : Document}

theorem mem_preorder_of_mapCallback {call callback : Tree} (visited : call ∈ document.root.preorder)
    (found : mapCallback? document call = some callback) : callback ∈ document.root.preorder := by
  rw [mapCallback?] at found
  split at found
  · cases found
  dsimp only at found
  split at found
  · have first := List.mem_of_head? (Option.filter_eq_some_iff.1 found).1
    rw [Tree.callArguments] at first
    split at first
    · rename_i arguments given
      exact Tree.mem_preorder_of_mem_significantChildren
        (Tree.mem_preorder_of_child visited given) first
    · cases first
  · cases found

theorem mem_preorder_of_parameterPattern {parameter pattern : Tree}
    (visited : parameter ∈ document.root.preorder)
    (found : parameterPattern? parameter = some pattern) : pattern ∈ document.root.preorder := by
  rw [parameterPattern?] at found
  split at found
  · cases found
    exact visited
  · split at found
    · exact Tree.mem_preorder_of_child visited found
    · cases found

/-- How a function comes to have a name for the position: a bare parameter is put between parentheses, an
empty list of parameters gets two, an only one is followed by the name, and a second one has it already. -/
inductive Positioned (document : Document) (callback : Tree) : PositionName → Prop where
  | bare {parameter : Tree} (given : callback.child? .parameter = some parameter) :
      Positioned document callback ⟨freshName (document.identifierNames callback),
        [.replace parameter
          s!"({document.text parameter}, {freshName (document.identifierNames callback)})"]⟩
  | both {parameters : Tree} (unbare : callback.child? .parameter = none)
      (given : callback.child? .parameters = some parameters)
      (empty : parameters.significantChildren = []) :
      Positioned document callback ⟨freshName (document.identifierNames callback),
        [.insert (parameters.children.head?.getD parameters).stop
          s!"_item, {freshName (document.identifierNames callback)}"]⟩
  | second {parameters only : Tree} (unbare : callback.child? .parameter = none)
      (given : callback.child? .parameters = some parameters)
      (alone : parameters.significantChildren = [only]) :
      Positioned document callback ⟨freshName (document.identifierNames callback),
        [.insert only.stop (if (only.child? .type).isSome
          then s!", {freshName (document.identifierNames callback)}: number"
          else s!", {freshName (document.identifierNames callback)}")]⟩
  | named {parameters first second pattern : Tree} {rest : List Tree}
      (unbare : callback.child? .parameter = none)
      (given : callback.child? .parameters = some parameters)
      (several : parameters.significantChildren = first :: second :: rest)
      (binds : parameterPattern? second = some pattern) (identifier : pattern.isKind .identifier = true) :
      Positioned document callback ⟨document.text pattern, []⟩

theorem positioned_of_position {callback : Tree} {position : PositionName}
    (found : position? document callback = some position) : Positioned document callback position := by
  rw [position?] at found
  split at found
  · rename_i bare
    cases found
    exact .bare bare
  rename_i unbare
  obtain ⟨parameters, given, found⟩ := Option.bind_eq_some_iff.1 found
  simp only [listedPosition?] at found
  split at found
  · rename_i empty
    cases found
    exact .both unbare given empty
  · rename_i only alone
    split at found
    · cases found
    · cases found
      exact .second unbare given alone
  · rename_i first second rest several
    split at found
    · rename_i pattern binds
      split at found
      · rename_i identifier
        cases found
        exact .named unbare given several binds identifier
      · cases found
    · cases found

/-- The name for a position is a new one, or that of a parameter which is there already. -/
theorem fresh_or_text_of_position {callback : Tree} {position : PositionName}
    (visited : callback ∈ document.root.preorder)
    (found : position? document callback = some position) :
    (∃ taken, position.name = freshName taken) ∨
      ∃ node ∈ document.root.preorder, node.isKind .identifier = true ∧
        position.name = document.text node := by
  cases positioned_of_position found with
  | bare given => exact .inl ⟨_, rfl⟩
  | both unbare given empty => exact .inl ⟨_, rfl⟩
  | second unbare given alone => exact .inl ⟨_, rfl⟩
  | named unbare given several binds identifier =>
    have present := Tree.mem_preorder_of_mem_significantChildren
      (Tree.mem_preorder_of_child visited given) (by rw [several]; exact List.mem_cons_of_mem _ List.mem_cons_self)
    exact .inr ⟨_, mem_preorder_of_parameterPattern present binds, identifier, rfl⟩

end Positions

end Repair

end ComponentGate
