import ComponentGate.Proofs.Repair.Moving
import ComponentGate.Proofs.Repair.Prospect
import ComponentGate.Proofs.Repair.Targets

/-! The scope of names that are moved into a function. Moving declarations looks at no names: it neither brings
a name in nor takes one away, and a name is as free outside the function, and inside it, as it was before. -/

namespace ComponentGate

open Syntax

namespace Outline

section Bindings

mutual

/-- The names that a pattern or a parameter binds. -/
def patternNames : Outline → List String
  | node symbol _ text children =>
    match symbol with
    | .construct .identifier => text.toList
    | .construct .shorthandPropertyPattern => text.toList
    | .construct .objectPattern => patternNamesAll (fun _ => true) children
    | .construct .arrayPattern => patternNamesAll (fun _ => true) children
    | .construct .restPattern => patternNamesAll (fun _ => true) children
    | .construct .pairPattern => patternNamesAll (· == some .value) children
    | .construct .assignmentPattern => patternNamesAll (· == some .left) children
    | .construct .objectAssignmentPattern => patternNamesAll (· == some .left) children
    | .construct .requiredParameter => patternNamesAll (· == some .pattern) children
    | .construct .optionalParameter => patternNamesAll (· == some .pattern) children
    | _ => []

def patternNamesAll (wanted : Option Role → Bool) : List Outline → List String
  | [] => []
  | first :: rest =>
    (if wanted first.role then patternNames first else []) ++ patternNamesAll wanted rest

end

/-- Statements that bind their own name. -/
def namingKinds : List Kind :=
  [.functionDeclaration, .generatorFunctionDeclaration, .classDeclaration, .abstractClassDeclaration,
    .enumDeclaration]

/-- The names that a statement declares where it stands. -/
def statementNames (statement : Outline) : List String :=
  if statement.isOneOf declarationKinds then
    statement.children.flatMap fun declarator =>
      if declarator.kind? == some .variableDeclarator then
        ((declarator.child? .name).map patternNames).getD []
      else []
  else if statement.isOneOf namingKinds then ((statement.child? .name).bind text).toList
  else []

/-- The names that a function's parameters bind. -/
def parameterNames (function : Outline) : List String :=
  ((function.child? .parameter).map patternNames).getD [] ++
    ((function.child? .parameters).map fun listed => listed.children.flatMap patternNames).getD []

/-- The names that are declared at the top of a function's body. -/
def bodyNames (function : Outline) : List String :=
  match function.child? .body with
  | some body =>
    if body.kind? == some .statementBlock then body.children.flatMap statementNames else []
  | none => []

/-- The names that a function's parameters and the statements of its body bind. -/
def boundNames (function : Outline) : List String := function.parameterNames ++ function.bodyNames

end Bindings

section Refilling

/-- A block with declarations at its front, or a block for them and an answer. -/
def newBody (moved : List Outline) (body : Outline) : Outline :=
  if body.kind? == some .statementBlock then body.withChildren (moved ++ body.children)
  else Repair.answering moved body

/-- A function with declarations at the front of its body. -/
def refilled (moved : List Outline) (function : Outline) : Outline :=
  match inRoleOf .body function with
  | some body => body.around (body.part.newBody moved)
  | none => function

/-- The declarations of a module. -/
def declarations (root : Outline) : List Outline := root.children.filter (·.isOneOf declarationKinds)

/-- What a module has besides declarations. -/
def others (root : Outline) : List Outline := root.children.filter fun part => !part.isOneOf declarationKinds

/-- A module with its declarations in the first function that it exports. -/
def hoisted (root : Outline) : Outline :=
  match firstIn exportedIn root.others with
  | some target => root.withChildren (target.around (target.part.refilled root.declarations))
  | none => root

variable {function body : Outline} {focus : Focus Outline} {moved : List Outline} {role : Role}

theorem exists_of_inRoleOf (found : inRoleOf role function = some focus) :
    ∃ front back, function.children = front ++ focus.part :: back ∧
      (∀ other ∈ front, (other.role == some role) = false) ∧ focus.part.role = some role ∧
      focus.around = fun part => function.withChildren (front ++ part :: back) := by
  obtain ⟨inner, among, rfl⟩ := Option.map_eq_some_iff.1 found
  obtain ⟨front, back, parts, before, passes, around⟩ := exists_of_firstOf among
  refine ⟨front, back, parts, before, eq_of_beq passes, ?_⟩
  rw [Focus.map, around]

theorem child_around (found : inRoleOf role function = some focus) {part : Outline}
    (plays : part.role = some role) : (focus.around part).child? role = some part := by
  obtain ⟨front, back, -, before, -, around⟩ := exists_of_inRoleOf found
  rw [around, child?, children_withChildren, List.find?_append, List.find?_eq_none.2 fun _ member => by
      rw [before _ member]
      exact Bool.false_ne_true,
    Option.none_or, List.find?_cons, plays, beq_self_eq_true]

theorem child_around_of_ne (found : inRoleOf role function = some focus) {part : Outline}
    (plays : part.role = some role) {other : Role} (apart : role ≠ other) :
    (focus.around part).child? other = function.child? other := by
  obtain ⟨front, back, parts, -, played, around⟩ := exists_of_inRoleOf found
  rw [around, child?, child?, children_withChildren, parts, List.find?_append, List.find?_append,
    List.find?_cons, List.find?_cons, plays, played]
  have differs : (some role == some other) = false := by simpa using apart
  rw [differs]

theorem part_inRoleOf (role : Role) (outline : Outline) :
    (inRoleOf role outline).map Focus.part = outline.child? role :=
  part_within (fun child => child.role == some role) outline

theorem refilled_eq (found : inRoleOf .body function = some focus) :
    function.refilled moved = focus.around (focus.part.newBody moved) := by
  rw [refilled, found]

theorem role_newBody (moved : List Outline) (body : Outline) : (body.newBody moved).role = body.role := by
  rw [newBody]
  split
  · exact (Prod.mk.inj (face_withChildren _ body)).2
  · rw [Repair.answering]
    rfl

theorem spelledNames_inRole (outline : Outline) (role : Option Role) :
    (outline.inRole role).spelledNames = outline.spelledNames := by
  cases outline
  rw [spelledNames_eq, spelledNames_eq]
  rfl

theorem spelledNames_part (kind : Kind) (children : List Outline) :
    (part kind children).spelledNames = children.flatMap spelledNames := by
  rw [spelledNames_eq]
  have none : (part kind children).name? = none := by
    rw [name?]
    split <;> rfl
  rw [none]
  rfl

theorem count_newBody (moved : List Outline) (body : Outline) (name : String) :
    (body.newBody moved).spelledNames.count name =
      (moved.flatMap spelledNames).count name + body.spelledNames.count name := by
  rw [newBody]
  split
  · have counts := count_withChildren (moved ++ body.children) body name
    rw [List.flatMap_append, List.count_append] at counts
    omega
  · rw [Repair.answering, spelledNames_inRole, spelledNames_part, List.flatMap_append,
      List.flatMap_singleton, spelledNames_part, List.flatMap_singleton, spelledNames_inRole,
      List.count_append]

/-- Nothing but the declarations brings names into the function. -/
theorem count_refilled (found : inRoleOf .body function = some focus) (moved : List Outline)
    (name : String) :
    (function.refilled moved).spelledNames.count name =
      (moved.flatMap spelledNames).count name + function.spelledNames.count name := by
  have balance := (soundAt_inRoleOf .body function).balanced found (focus.part.newBody moved) name
  rw [refilled_eq found]
  rw [count_newBody] at balance
  omega

theorem face_refilled (moved : List Outline) (function : Outline) :
    (function.refilled moved).face = function.face := by
  rw [refilled]
  split
  · rename_i body found
    obtain ⟨front, back, -, -, -, around⟩ := exists_of_inRoleOf found
    rw [around, face_withChildren]
  · rfl

theorem bodyNames_refilled (found : inRoleOf .body function = some focus) (moved : List Outline) :
    (function.refilled moved).bodyNames = moved.flatMap statementNames ++ function.bodyNames := by
  obtain ⟨-, -, -, -, played, -⟩ := exists_of_inRoleOf found
  have plays : (focus.part.newBody moved).role = some .body := (role_newBody moved _).trans played
  have old : function.child? .body = some focus.part := by
    rw [← part_inRoleOf, found]
    rfl
  rw [refilled_eq found, bodyNames, child_around found plays, bodyNames, old, newBody]
  dsimp only
  by_cases block : (focus.part.kind? == some .statementBlock) = true
  · have same : (focus.part.withChildren (moved ++ focus.part.children)).kind? = focus.part.kind? := by
      rw [kind?, kind?, (Prod.mk.inj (face_withChildren _ _)).1]
    rw [if_pos block, if_pos block, same, if_pos block, children_withChildren, List.flatMap_append]
  · rw [if_neg block, if_neg block]
    change (moved ++ [part .returnStatement [focus.part.inRole none]]).flatMap statementNames = _
    rw [List.flatMap_append]
    rfl

/-- The declarations' names are bound in the function, besides those that were. -/
theorem boundNames_refilled (found : inRoleOf .body function = some focus) (moved : List Outline) :
    (function.refilled moved).boundNames.Perm (moved.flatMap statementNames ++ function.boundNames) := by
  obtain ⟨-, -, -, -, played, -⟩ := exists_of_inRoleOf found
  have plays : (focus.part.newBody moved).role = some .body := (role_newBody moved _).trans played
  have same : (function.refilled moved).parameterNames = function.parameterNames := by
    rw [refilled_eq found, parameterNames, child_around_of_ne found plays (by decide),
      child_around_of_ne found plays (by decide), parameterNames]
  rw [boundNames, boundNames, same, bodyNames_refilled found]
  exact List.perm_append_comm_assoc ..

variable {root : Outline} {target : Focus (List Outline)}

theorem hoisted_eq (found : firstIn exportedIn root.others = some target) :
    root.hoisted =
      root.withChildren (target.around (target.part.refilled root.declarations)) := by
  rw [hoisted, found]

/-- The function is found again, with the declarations in it. -/
theorem firstIn_hoisted (found : firstIn exportedIn root.others = some target) :
    firstIn exportedIn root.hoisted.children =
      some ⟨target.part.refilled root.declarations, target.around⟩ := by
  have sound : SoundAmong (firstIn exportedIn) root.others :=
    soundAmong_firstIn fun outline _ => soundAt_exportedIn outline
  rw [hoisted_eq found, children_withChildren]
  exact (sound.again found (face_refilled _ _)).1

/-- No name is lost, and none is brought in. -/
theorem count_hoisted (found : firstIn exportedIn root.others = some target)
    (answered : inRoleOf .body target.part = some focus) (name : String) :
    root.hoisted.spelledNames.count name = root.spelledNames.count name := by
  have sound : SoundAmong (firstIn exportedIn) root.others :=
    soundAmong_firstIn fun outline _ => soundAt_exportedIn outline
  have whole := count_withChildren (target.around (target.part.refilled root.declarations)) root name
  have around := sound.balanced found (target.part.refilled root.declarations) name
  have inside := count_refilled answered root.declarations name
  have split : (root.children.flatMap spelledNames).count name =
      (root.declarations.flatMap spelledNames).count name +
        (root.others.flatMap spelledNames).count name := by
    have parts := List.filter_append_perm (·.isOneOf declarationKinds) root.children
    rw [← (parts.flatMap_right spelledNames).count_eq, List.flatMap_append, List.count_append]
    rfl
  rw [hoisted_eq found]
  omega

end Refilling

end Outline

open Outline

/-- Whether a node is a name: that of an identifier, a class or a type. -/
def Syntax.Tree.isWord (tree : Tree) : Bool := tree.isOneOf (.typeIdentifier :: Document.identifierKinds)

namespace Document

/-- A tree's outline with its names. -/
def wording (document : Document) : Tree → Outline := document.grafted Tree.isWord .none

/-- Whether a name is spelled by an identifier outside some parts of a document: more often in the whole than in
the parts. -/
def SpelledOutside (document : Document) (parts : List Tree) (name : String) : Prop :=
  (parts.flatMap document.identifierNames).count name < (document.identifierNames document.root).count name

instance (document : Document) (parts : List Tree) (name : String) :
    Decidable (document.SpelledOutside parts name) :=
  inferInstanceAs (Decidable (_ < _))

/-- The names that parameters of a function and the statements of its body bind. -/
def boundNames (document : Document) (function : Tree) : List String := (document.wording function).boundNames

end Document

open Document

namespace Repair

section Names

/-- The names that the module's own declarations declare. -/
def movedNames (document : Document) : List String :=
  (moduleDeclarations document).flatMap fun tree => (document.wording tree).statementNames

variable {document : Document} {tree : Tree}

theorem name_wording (document : Document) (tree : Tree) :
    (document.wording tree).name? =
      if tree.isOneOf identifierKinds then some (document.text tree) else none := by
  rw [Outline.name?, wording, isOneOf_grafted, text_grafted]
  by_cases named : tree.isOneOf identifierKinds = true
  · have word : tree.isWord = true := by
      rw [Tree.isOneOf] at named
      rw [Tree.isWord, Tree.isOneOf]
      cases given : tree.kind? with
      | none =>
        rw [given] at named
        cases named
      | some kind =>
        rw [given] at named
        dsimp only at named ⊢
        rw [List.contains_cons, named, Bool.or_true]
    rw [if_pos named, if_pos named, if_pos word]
  · rw [if_neg named, if_neg named]

theorem identifierNames_eq (document : Document) (tree : Tree) :
    document.identifierNames tree =
      (if tree.isOneOf identifierKinds then some (document.text tree) else none).toList ++
        tree.children.flatMap document.identifierNames := by
  have below : tree.children.flatMap document.identifierNames =
      ((tree.children.flatMap Tree.preorder).filter (·.isOneOf identifierKinds)).map document.text := by
    rw [List.filter_flatMap, List.map_flatMap]
    apply List.flatMap_congr
    intro child _
    rw [identifierNames, Tree.nodes_eq_preorder]
  rw [identifierNames, Tree.nodes_eq_preorder, Tree.preorder_eq, List.filter_cons, below]
  split <;> rfl

/-- Comments and mere pieces of text spell no names. -/
theorem identifierNames_of_unheard (plain : tree.isPlain = true) (unheard : tree.isHeard = false) :
    document.identifierNames tree = [] := by
  have leaf : tree.children.isEmpty = true := by
    have own := List.all_eq_true.1 plain tree tree.mem_preorder_self
    rwa [unheard, Bool.false_or] at own
  have other : tree.isOneOf identifierKinds = false := by
    by_contra named
    rw [isHeard_of_isOneOf (eq_true_of_ne_false named) (by decide)] at unheard
    cases unheard
  rw [identifierNames_eq, other, List.isEmpty_iff.1 leaf]
  rfl

/-- An outline keeps the names that identifiers spell. -/
theorem spelledNames_wording (plain : tree.isPlain = true) :
    (document.wording tree).spelledNames = document.identifierNames tree := by
  induction tree using Tree.induction_on_children with
  | step tree ih =>
    have parts : (document.wording tree).children =
        (tree.children.filter Tree.isHeard).map document.wording := children_view document _ tree
    rw [spelledNames_eq, name_wording, identifierNames_eq, parts, List.flatMap_map,
      ← flatMap_filter_of_nil (p := Tree.isHeard) fun child member =>
        identifierNames_of_unheard (isPlain_of_mem_children plain member)]
    congr 1
    apply List.flatMap_congr
    intro child member
    have inside := (List.mem_filter.1 member).1
    exact ih child inside (isPlain_of_mem_children plain inside)

theorem declarations_wording (document : Document) :
    (document.wording document.root).declarations =
      (moduleDeclarations document).map document.wording := by
  have parts : (document.wording document.root).children =
      (document.root.children.filter Tree.isHeard).map document.wording :=
    children_view document _ document.root
  rw [declarations, parts, List.filter_map, List.filter_filter, moduleDeclarations, Tree.namedChildren,
    List.filter_filter]
  congr 2
  funext child
  rw [Function.comp_apply, wording, isOneOf_grafted, Tree.isDeclaration]
  cases declares : child.isOneOf declarationKinds with
  | false => rfl
  | true =>
    have named : child.isNamed = true := by
      by_contra unnamed
      rw [Tree.isOneOf_of_unnamed (eq_false_of_ne_true unnamed)] at declares
      cases declares
    rw [isHeard_of_isOneOf declares (by decide), named]

theorem exists_target_wording {target : ExportedFunction} (found : hoistTarget? document = some target) :
    ∃ focus, firstIn exportedIn (document.wording document.root).others = some focus ∧
      focus.part = document.wording target.function := by
  have all := targetIn_view document Tree.isWord
  rw [found, Option.map_some, part_firstIn] at all
  have kept : (firstIn exportedIn (document.wording document.root).others).map Focus.part =
      some (document.wording target.function) := by
    rw [part_firstIn, others, findSome_filter]
    · exact all
    · intro part declares
      have other : (part.kind? == some .exportStatement) = false := by
        by_contra exports
        rw [Outline.isOneOf, eq_of_beq (eq_true_of_ne_false exports)] at declares
        exact absurd declares (by decide)
      rw [exportedIn, other]
      rfl
  obtain ⟨focus, among, same⟩ := Option.map_eq_some_iff.1 kept
  exact ⟨focus, among, same⟩

theorem exists_body_wording {function body : Tree} (answered : function.functionBody? = some body) :
    ∃ focus, inRoleOf .body (document.wording function) = some focus := by
  have found : function.child? .body = some body := by
    rw [Tree.functionBody?] at answered
    split at answered
    · exact answered
    · cases answered
  have part := part_inRoleOf_view document Tree.isWord .body function
  rw [found, Option.map_some] at part
  obtain ⟨focus, chosen, -⟩ := Option.map_eq_some_iff.1 part
  exact ⟨focus, chosen⟩

/-- Where the parser makes of the edited text the tree that is meant, the names of a document stay what they
are, those in the function come to be those of the declarations besides its own, and so do the names that are
bound in it. -/
theorem names_of_hoisting {document' : Document} {target : ExportedFunction} {body : Tree}
    (found : hoistTarget? document = some target) (answered : target.function.functionBody? = some body)
    (plain : document.root.isPlain = true) (plain' : document'.root.isPlain = true)
    (met : document'.wording document'.root = (document.wording document.root).hoisted) :
    ∃ target', hoistTarget? document' = some target' ∧
      (∀ name, (document'.identifierNames document'.root).count name =
        (document.identifierNames document.root).count name) ∧
      (∀ name, (document'.identifierNames target'.function).count name =
        ((moduleDeclarations document).flatMap document.identifierNames).count name +
          (document.identifierNames target.function).count name) ∧
      (document'.boundNames target'.function).Perm
        (movedNames document ++ document.boundNames target.function) := by
  obtain ⟨focus, among, part⟩ := exists_target_wording found
  obtain ⟨inner, bodied⟩ := exists_body_wording answered
  rw [← part] at bodied
  have again := targetIn_view document' Tree.isWord
  change (firstIn exportedIn (document'.wording document'.root).children).map Focus.part = _ at again
  rw [met, firstIn_hoisted among, Option.map_some] at again
  obtain ⟨target', found', function⟩ := Option.map_eq_some_iff.1 again.symm
  change document'.wording target'.function =
    focus.part.refilled (document.wording document.root).declarations at function
  have moved : (document.wording document.root).declarations.flatMap spelledNames =
      (moduleDeclarations document).flatMap document.identifierNames := by
    rw [declarations_wording, List.flatMap_map]
    apply List.flatMap_congr
    intro tree member
    exact spelledNames_wording (isPlain_of_mem_children plain
      (mem_children_of_mem_moduleDeclarations member).1)
  have own : (document.wording target.function).spelledNames = document.identifierNames target.function :=
    spelledNames_wording (isPlain_of_mem_preorder plain (mem_preorder_of_hoistTarget found))
  have own' : (document'.wording target'.function).spelledNames =
      document'.identifierNames target'.function :=
    spelledNames_wording (isPlain_of_mem_preorder plain' (mem_preorder_of_hoistTarget found'))
  refine ⟨target', found', fun name => ?_, fun name => ?_, ?_⟩
  · rw [← spelledNames_wording plain', ← spelledNames_wording plain, met]
    exact count_hoisted among bodied name
  · rw [← own', function, ← own, ← part, ← moved]
    exact count_refilled bodied _ name
  · have bound := boundNames_refilled bodied (document.wording document.root).declarations
    rw [← function, part, declarations_wording, List.flatMap_map] at bound
    exact bound

/-- Whether moving a module's declarations into a function keeps their names in scope and apart from others: no
identifier outside the function spells one, and the function binds each as often as the declarations do. -/
def ScopeSafe (names : List String) (document : Document) (function : Tree) : Prop :=
  ∀ name ∈ names, ¬document.SpelledOutside [function] name ∧
    (document.boundNames function).count name = names.count name

instance (names : List String) (document : Document) (function : Tree) :
    Decidable (ScopeSafe names document function) :=
  inferInstanceAs (Decidable (∀ name ∈ names, _ ∧ _))

/-- Hoisting is scope-safe exactly if it is so by the source: if no identifier outside the function and the
declarations spells a name of theirs, and the function has not bound one. -/
theorem scopeSafe_hoisting_iff {parse : Parse} {document' : Document} {after : String}
    (made : attempt? parse document (hoistDeclarations.plan document).edits = some (after, document'))
    (plain : document.root.isPlain = true) (plain' : document'.root.isPlain = true)
    (met : document'.wording document'.root = (document.wording document.root).hoisted) :
    ∃ target target', hoistTarget? document = some target ∧ hoistTarget? document' = some target' ∧
      (ScopeSafe (movedNames document) document' target'.function ↔
        ∀ name ∈ movedNames document,
          ¬document.SpelledOutside (target.function :: moduleDeclarations document) name ∧
            name ∉ document.boundNames target.function) := by
  have planned : (hoistDeclarations.plan document).edits ≠ [] := by
    intro nothing
    rw [nothing] at made
    cases made
  obtain ⟨target, body, found, answered, -⟩ := plan_of_edits planned
  obtain ⟨target', found', root, function, bound⟩ := names_of_hoisting found answered plain plain' met
  refine ⟨target, target', found, found', forall₂_congr fun name member => ?_⟩
  have outside : document'.SpelledOutside [target'.function] name ↔
      document.SpelledOutside (target.function :: moduleDeclarations document) name := by
    rw [SpelledOutside, SpelledOutside, List.flatMap_singleton, List.flatMap_cons, List.count_append,
      root name, function name, Nat.add_comm]
  have twice : (document'.boundNames target'.function).count name = (movedNames document).count name ↔
      name ∉ document.boundNames target.function := by
    rw [bound.count_eq, List.count_append, ← List.count_eq_zero]
    omega
  rw [outside, twice]

/-- A declaration that takes its value apart, in front of a function that takes its parameter apart. -/
def takenApart : String :=
  "const \x7b a, b: [c] \x7d = d, e = 1;\nexport const F = (\x7b g \x7d) => <ul>\x7ba\x7d</ul>;\n"

theorem takenApart_scopeSafe_iff :
    ∃ made, attempt? Syntax.parse (.read Syntax.parse takenApart)
        (hoistDeclarations.plan (.read Syntax.parse takenApart)).edits = some made ∧
      movedNames (.read Syntax.parse takenApart) = ["a", "c", "e"] ∧
      (Document.read Syntax.parse takenApart).root.isPlain = true ∧ made.2.root.isPlain = true ∧
      made.2.wording made.2.root = ((Document.read Syntax.parse takenApart).wording
        (Document.read Syntax.parse takenApart).root).hoisted ∧
      ∃ target target', hoistTarget? (.read Syntax.parse takenApart) = some target ∧
        hoistTarget? made.2 = some target' ∧
        (ScopeSafe (movedNames (.read Syntax.parse takenApart)) made.2 target'.function ↔
          ∀ name ∈ movedNames (.read Syntax.parse takenApart),
            ¬(Document.read Syntax.parse takenApart).SpelledOutside
                (target.function :: moduleDeclarations (.read Syntax.parse takenApart)) name ∧
              name ∉ (Document.read Syntax.parse takenApart).boundNames target.function) := by
  -- evaluated together, so that each text is parsed once
  obtain ⟨names, plain, met⟩ : movedNames (.read Syntax.parse takenApart) = ["a", "c", "e"] ∧
      (Document.read Syntax.parse takenApart).root.isPlain = true ∧
      ((attempt? Syntax.parse (.read Syntax.parse takenApart)
        (hoistDeclarations.plan (.read Syntax.parse takenApart)).edits).any fun made =>
          made.2.root.isPlain && decide (made.2.wording made.2.root =
            ((Document.read Syntax.parse takenApart).wording
              (Document.read Syntax.parse takenApart).root).hoisted)) = true := by
    decide +kernel
  obtain ⟨⟨after, document⟩, made, both⟩ := (Option.any_eq_true _ _).1 met
  rw [Bool.and_eq_true, decide_eq_true_eq] at both
  exact ⟨(after, document), made, names, plain, both.1, both.2,
    scopeSafe_hoisting_iff made plain both.1 both.2⟩

/-- A declaration whose name is in use behind the function that it is moved into. -/
def usedOutside : String := "const a = 1;\nexport default () => 1;\na;\n"

/-- The move takes effect, and the name behind the function refers to nothing any more. -/
theorem usedOutside_unsafe :
    ∃ made ∈ attempt? Syntax.parse (.read Syntax.parse usedOutside)
        (hoistDeclarations.plan (.read Syntax.parse usedOutside)).edits,
      made.1 = "export default () => \x7b\n  const a = 1;\n  return 1;\n\x7d;\na;\n" ∧
        ∃ target ∈ hoistTarget? made.2,
          ¬ScopeSafe (movedNames (.read Syntax.parse usedOutside)) made.2 target.function := by
  decide +kernel

end Names

end Repair

end ComponentGate
