import ComponentGate.Proofs.Review.Focus
import ComponentGate.Repair.Hoisting

/-! The function that declarations are moved into, found in an outline. The search follows the one in the tree,
and it is sound: a function that is put in the place of the one found is found again. -/

namespace ComponentGate

open Syntax

namespace Outline

section Targets

/-- A construct other than a comment. -/
def isMeant (outline : Outline) : Bool := outline.kind?.isSome && outline.kind? != some .comment

mutual

/-- The function that stands in any number of parentheses. -/
def functionIn : Outline → Option (Focus Outline)
  | node symbol role text children =>
    if symbol == .construct .parenthesized then
      (functionInFirst children).map (Focus.map (node symbol role text))
    else if (node symbol role text children).isOneOf functionKinds then
      some (.here (node symbol role text children))
    else none

def functionInFirst : List Outline → Option (Focus (List Outline))
  | [] => none
  | first :: rest =>
    if first.isMeant then (functionIn first).map (Focus.map (· :: rest))
    else (functionInFirst rest).map (Focus.map (first :: ·))

end

/-- The function that a declarator binds. -/
def boundIn : Search := fun declarator =>
  if declarator.kind? == some .variableDeclarator then andThen (inRoleOf .value) functionIn declarator
  else none

/-- The function that a declaration declares, or binds first. -/
def declaredIn : Search := fun declaration =>
  if declaration.isOneOf [.functionDeclaration, .generatorFunctionDeclaration] then
    some (.here declaration)
  else if declaration.isOneOf declarationKinds then within (firstIn boundIn) declaration
  else none

/-- The function that an export statement defines. -/
def exportedIn : Search := fun statement =>
  if statement.kind? == some .exportStatement then
    if (inRoleOf .declaration statement).isSome then
      andThen (inRoleOf .declaration) declaredIn statement
    else andThen (inRoleOf .value) functionIn statement
  else none

theorem functionInFirst_eq (outlines : List Outline) :
    functionInFirst outlines =
      (firstOf isMeant outlines).bind fun outer => (functionIn outer.part).map outer.deeper := by
  induction outlines with
  | nil => rfl
  | cons first rest ih =>
    rw [functionInFirst, firstOf, ih]
    cases first.isMeant with
    | true =>
      rw [if_pos rfl, if_pos rfl]
      rfl
    | false =>
      rw [if_neg Bool.false_ne_true, if_neg Bool.false_ne_true]
      cases firstOf isMeant rest with
      | none => rfl
      | some outer =>
        simp only [Option.map_some, Option.bind_some, Option.map_map]
        rfl

theorem functionIn_eq : functionIn = fun outline =>
    if outline.symbol == .construct .parenthesized then
      andThen (within (firstOf isMeant)) functionIn outline
    else if outline.isOneOf functionKinds then some (.here outline) else none := by
  funext outline
  obtain ⟨symbol, role, text, children⟩ := outline
  have own : (node symbol role text children).symbol = symbol := rfl
  have parts : (node symbol role text children).children = children := rfl
  rw [own, functionIn, functionInFirst_eq]
  by_cases parenthesized : (symbol == .construct .parenthesized) = true
  · rw [if_pos parenthesized, if_pos parenthesized, andThen, within, parts]
    cases firstOf isMeant children with
    | none => rfl
    | some outer =>
      simp only [Option.map_some, Option.bind_some, Option.map_map]
      rfl
  · rw [if_neg parenthesized, if_neg parenthesized]

/-- What holds of an outline once it holds of its parts holds of every outline. -/
@[elab_as_elim] theorem induction_on_children {motive : Outline → Prop} (outline : Outline)
    (step : ∀ outline, (∀ child ∈ outline.children, motive child) → motive outline) : motive outline :=
  match outline with
  | node symbol role text children => step (node symbol role text children) fun child member =>
    have _ : child ∈ children := member
    induction_on_children child step

theorem isOneOf_congr {one other : Outline} (same : one.face = other.face) (kinds : List Kind) :
    one.isOneOf kinds = other.isOneOf kinds := by
  have symbol : one.symbol = other.symbol := (Prod.mk.inj same).1
  rw [isOneOf, isOneOf, kind?, kind?, symbol]

theorem mem_children_of_within {test : Outline → Bool} {whole : Outline} {outer : Focus Outline}
    (found : within (firstOf test) whole = some outer) : outer.part ∈ whole.children := by
  have part := part_within test whole
  rw [found] at part
  exact List.mem_of_find?_eq_some part.symm

theorem soundAt_functionIn (whole : Outline) : Search.SoundAt functionIn whole := by
  induction whole using induction_on_children with
  | step whole ih =>
    rw [functionIn_eq]
    have meant : SoundAmong (firstOf isMeant) whole.children := by
      apply soundAmong_firstOf
      intro one other same
      rw [isMeant, isMeant, kind?, kind?, (Prod.mk.inj same).1]
    have inner : (andThen (within (firstOf isMeant)) functionIn).SoundAt whole :=
      soundAt_andThen (soundAt_within meant) fun outer found => ih _ (mem_children_of_within found)
    have own : Search.SoundAt (fun outline =>
        if outline.isOneOf functionKinds then some (.here outline) else none) whole := by
      apply soundAt_ite (fun _ => soundAt_here whole) fun _ => soundAt_none whole
      intro focus found part same
      split at found
      · cases found
        exact isOneOf_congr same _
      · cases found
    apply soundAt_ite (fun _ => inner) fun _ => own
    intro focus found part same
    have face : (focus.around part).face = whole.face := by
      split at found
      · exact (inner.again found same).2
      · exact (own.again found same).2
    rw [(Prod.mk.inj face).1]

theorem soundAt_boundIn (whole : Outline) : boundIn.SoundAt whole := by
  have inner : (andThen (inRoleOf .value) functionIn).SoundAt whole :=
    soundAt_andThen (soundAt_inRoleOf .value whole) fun outer _ => soundAt_functionIn outer.part
  apply soundAt_ite (fun _ => inner) fun _ => soundAt_none whole
  intro focus found part same
  split at found
  · rw [kind?, kind?, (Prod.mk.inj (inner.again found same).2).1]
  · cases found

theorem soundAt_declaredIn (whole : Outline) : declaredIn.SoundAt whole := by
  have inner : (within (firstIn boundIn)).SoundAt whole :=
    soundAt_within (soundAmong_firstIn fun outline _ => soundAt_boundIn outline)
  have bound : Search.SoundAt (fun declaration =>
      if declaration.isOneOf declarationKinds then within (firstIn boundIn) declaration else none)
      whole := by
    apply soundAt_ite (fun _ => inner) fun _ => soundAt_none whole
    intro focus found part same
    split at found
    · exact isOneOf_congr (inner.again found same).2 _
    · cases found
  apply soundAt_ite (fun _ => soundAt_here whole) fun _ => bound
  intro focus found part same
  split at found
  · cases found
    exact isOneOf_congr same _
  · exact isOneOf_congr (bound.again found same).2 _

theorem isSome_inRoleOf (role : Role) (outline : Outline) :
    (inRoleOf role outline).isSome = (outline.children.map face).any (·.2 == some role) := by
  rw [← Option.isSome_map (f := Focus.part), inRoleOf, part_within, List.isSome_find?, List.any_map]
  rfl

theorem soundAt_exportedIn (whole : Outline) : exportedIn.SoundAt whole := by
  have declared : (andThen (inRoleOf .declaration) declaredIn).SoundAt whole :=
    soundAt_andThen (soundAt_inRoleOf .declaration whole) fun outer _ => soundAt_declaredIn outer.part
  have given : (andThen (inRoleOf .value) functionIn).SoundAt whole :=
    soundAt_andThen (soundAt_inRoleOf .value whole) fun outer _ => soundAt_functionIn outer.part
  have roles (role : Role) : SoundAmong (firstOf fun child => child.role == some role) whole.children := by
    apply soundAmong_firstOf
    intro one other same
    rw [(Prod.mk.inj same).2]
  have either : Search.SoundAt (fun statement =>
      if (inRoleOf .declaration statement).isSome then andThen (inRoleOf .declaration) declaredIn statement
      else andThen (inRoleOf .value) functionIn statement) whole := by
    apply soundAt_ite (fun _ => declared) fun _ => given
    intro focus found part same
    rw [isSome_inRoleOf, isSome_inRoleOf]
    split at found
    · rw [faces_of_andThen (roles _) soundAt_declaredIn found same]
    · rw [faces_of_andThen (roles _) soundAt_functionIn found same]
  apply soundAt_ite (fun _ => either) fun _ => soundAt_none whole
  intro focus found part same
  split at found
  · rw [kind?, kind?, (Prod.mk.inj (either.again found same).2).1]
  · cases found

end Targets

section Views

variable (document : Document) (spelled : Tree → Bool)

theorem children_view (tree : Tree) :
    (document.grafted spelled .none tree).children =
      (tree.children.filter Tree.isHeard).map (document.grafted spelled .none) :=
  children_of_spares (Graft.spares_none tree)

theorem find_isMeant_view (children : List Tree) :
    ((children.filter Tree.isHeard).map (document.grafted spelled .none)).find? isMeant =
      (children.find? fun tree => tree.isNamed && !tree.isComment).map
        (document.grafted spelled .none) := by
  rw [List.find?_map, List.find?_filter]
  congr 2
  funext tree
  rw [Function.comp_apply, isMeant, kind_grafted]
  cases kind : tree.kind? with
  | none => simp [Tree.isNamed, kind]
  | some found =>
    by_cases comment : found = .comment
    · simp [Tree.isComment, Tree.isKind, kind, comment]
    · simp [Tree.isHeard, Tree.isNamed, Tree.isComment, Tree.isKind, kind, comment]

theorem functionIn_view (tree : Tree) :
    (functionIn (document.grafted spelled .none tree)).map Focus.part =
      if tree.unwrapped.isFunction then some (document.grafted spelled .none tree.unwrapped) else none := by
  induction tree using Tree.induction_on_children with
  | step tree ih =>
    cases tree with
    | node label children =>
      rw [congrFun functionIn_eq, symbol_grafted, Tree.label_node, Tree.unwrapped]
      by_cases parenthesized : (label.symbol == .construct .parenthesized) = true
      · rw [if_pos parenthesized, if_pos parenthesized, part_andThen, part_within, children_view,
          Tree.children_node, find_isMeant_view, Tree.unwrappedFirst_eq]
        cases found : children.find? fun tree => tree.isNamed && !tree.isComment with
        | some child => exact ih child (List.mem_of_find?_eq_some found)
        | none =>
          have plain : (Syntax.Tree.node label children).isFunction = false := by
            simp [Tree.isFunction, Tree.isOneOf, Tree.kind?, eq_of_beq parenthesized, functionKinds]
          rw [Option.map_none, Option.map_none, Option.getD_none, plain]
          rfl
      · rw [if_neg parenthesized, if_neg parenthesized, isOneOf_grafted, Tree.isFunction]
        split <;> rfl

theorem part_inRoleOf_view (role : Role) (tree : Tree) :
    (inRoleOf role (document.grafted spelled .none tree)).map Focus.part =
      (tree.child? role).map (document.grafted spelled .none) := by
  rw [inRoleOf, part_within]
  exact child_grafted (Graft.spares_none tree) role

theorem findSome_filter {f : α → Option β} {p : α → Bool}
    (quiet : ∀ element, p element = false → f element = none) (elements : List α) :
    (elements.filter p).findSome? f = elements.findSome? f := by
  induction elements with
  | nil => rfl
  | cons first rest ih =>
    rw [List.filter_cons, List.findSome?_cons]
    cases kept : p first with
    | true => rw [if_pos rfl, List.findSome?_cons, ih]
    | false => rw [if_neg Bool.false_ne_true, quiet first kept, ih]

theorem isKind_of_left_out {tree : Tree} (out : tree.isNamed = false ∨ tree.isHeard = false)
    (kind : Kind) (meant : kind ≠ .comment) : tree.isKind kind = false := by
  by_contra same
  have found : tree.kind? = some kind := by simpa [Tree.isKind] using same
  simp [Tree.isHeard, Tree.isNamed, Tree.isComment, Tree.isKind, found, meant] at out

open Repair

theorem boundIn_view (declarator : Tree) :
    (boundIn (document.grafted spelled .none declarator)).map Focus.part =
      (boundFunction? document declarator).map fun target =>
        document.grafted spelled .none target.function := by
  rw [boundIn, kind_grafted, boundFunction?, Tree.isKind]
  by_cases kind : (declarator.kind? == some .variableDeclarator) = true
  · rw [if_pos kind, kind, part_andThen, part_inRoleOf_view]
    cases declarator.child? .value with
    | none => rfl
    | some value =>
      rw [Option.map_some, Option.bind_some, functionIn_view]
      simp only [Bool.not_true, Bool.false_eq_true, if_false]
      split <;> rfl
  · rw [if_neg kind, Bool.eq_false_iff.2 kind]
    rfl

theorem declaredIn_view (declaration : Tree) :
    (declaredIn (document.grafted spelled .none declaration)).map Focus.part =
      (if isFunctionDeclaration declaration then some declaration
        else if declaration.isDeclaration then
          (declaration.namedChildren.findSome? (boundFunction? document)).map ExportedFunction.function
        else none).map (document.grafted spelled .none) := by
  rw [declaredIn, isOneOf_grafted, isOneOf_grafted, isFunctionDeclaration, Tree.isDeclaration]
  split
  · rfl
  split
  · rw [within, Option.map_map]
    change (firstIn boundIn (document.grafted spelled .none declaration).children).map Focus.part = _
    rw [part_firstIn, children_view, List.findSome?_map, Option.map_map]
    simp only [Function.comp_def, boundIn_view]
    have quiet (declarator : Tree) (other : declarator.isKind .variableDeclarator = false) :
        boundFunction? document declarator = none := by
      rw [boundFunction?, other]
      rfl
    rw [Tree.namedChildren,
      findSome_filter fun declarator unnamed =>
        quiet declarator (isKind_of_left_out (.inl unnamed) _ (by decide)),
      findSome_filter fun declarator unheard => by
        rw [quiet declarator (isKind_of_left_out (.inr unheard) _ (by decide))]
        rfl,
      List.map_findSome?]
    rfl
  · rfl

theorem exportedIn_view (statement : Tree) :
    (exportedIn (document.grafted spelled .none statement)).map Focus.part =
      if statement.isKind .exportStatement then
        (exportedFunction? document statement).map fun target =>
          document.grafted spelled .none target.function
      else none := by
  rw [exportedIn, kind_grafted, Tree.isKind, exportedFunction?]
  split
  · have declared := part_inRoleOf_view document spelled .declaration statement
    rw [← Option.isSome_map (f := Focus.part), declared, Option.isSome_map]
    cases found : statement.child? .declaration with
    | some declaration =>
      rw [Option.isSome_some, if_pos rfl, part_andThen, declared, found, Option.map_some, Option.bind_some,
        declaredIn_view]
      dsimp only
      split
      · rfl
      split
      · rw [Option.map_map]
        rfl
      · rfl
    | none =>
      rw [Option.isSome_none, if_neg Bool.false_ne_true, part_andThen, part_inRoleOf_view]
      cases statement.child? .value with
      | none => rfl
      | some value =>
        rw [Option.map_some, Option.bind_some, functionIn_view]
        dsimp only
        split <;> rfl
  · rfl

/-- The function that declarations are moved into is that of the first export statement with one. -/
theorem targetIn_view :
    (firstIn exportedIn (document.grafted spelled .none document.root).children).map Focus.part =
      (hoistTarget? document).map fun target => document.grafted spelled .none target.function := by
  rw [part_firstIn, children_view, List.findSome?_map, hoistTarget?, Tree.namedChildren, List.map_findSome?]
  simp only [Function.comp_def, exportedIn_view]
  rw [findSome_filter fun statement unheard => by
      rw [isKind_of_left_out (.inr unheard) .exportStatement (by decide), if_neg Bool.false_ne_true],
    ← List.head?_filterMap, ← List.head?_filterMap, List.filterMap_filter, List.filterMap_filter]
  congr 2
  funext statement
  cases named : statement.isNamed with
  | true => rw [if_pos rfl]
  | false =>
    rw [isKind_of_left_out (.inl named) .exportStatement (by decide), if_neg Bool.false_ne_true,
      if_neg Bool.false_ne_true]

end Views

end Outline

end ComponentGate
