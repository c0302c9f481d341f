import ComponentGate.Document.Names
import Mathlib.Data.List.Basic
import Mathlib.Data.List.Flatten

/-! A walk visits the places of a tree in pre-order, without those below a place that it does not go on to;
and a full walk its nodes. -/

namespace ComponentGate.Syntax

namespace Tree

/-- What holds of a tree once it holds of its children holds of every tree. -/
@[elab_as_elim] theorem induction_on_children {motive : Tree → Prop} (tree : Tree)
    (step : ∀ tree, (∀ child ∈ tree.children, motive child) → motive tree) : motive tree :=
  match tree with
  | node label children => step (node label children) fun child member =>
    have _ : child ∈ children := member
    induction_on_children child step

mutual

def decideEq : (one other : Tree) → Decidable (one = other)
  | .node label children, .node label' children' =>
    if same : label = label' then
      match decideEqAll children children' with
      | .isTrue alike => .isTrue (by rw [same, alike])
      | .isFalse different => .isFalse fun equal => different (node.inj equal).2
    else .isFalse fun equal => same (node.inj equal).1

def decideEqAll : (trees others : List Tree) → Decidable (trees = others)
  | [], [] => .isTrue rfl
  | [], _ :: _ => .isFalse nofun
  | _ :: _, [] => .isFalse nofun
  | tree :: rest, tree' :: rest' =>
    match decideEq tree tree', decideEqAll rest rest' with
    | .isTrue same, .isTrue alike => .isTrue (by rw [same, alike])
    | .isFalse different, _ => .isFalse fun equal => different (List.cons.inj equal).1
    | _, .isFalse different => .isFalse fun equal => different (List.cons.inj equal).2

end

instance : DecidableEq Tree := decideEq

theorem size_eq (tree : Tree) : tree.size = 1 + sizeAll tree.children := by
  cases tree with
  | node label children => rw [size, children_node]

theorem size_le_sizeAll {tree : Tree} {trees : List Tree} (member : tree ∈ trees) :
    tree.size ≤ sizeAll trees := by
  induction trees with
  | nil => cases member
  | cons first rest ih =>
    rw [sizeAll]
    rcases List.mem_cons.1 member with rfl | later
    · omega
    · have behind := ih later
      omega

theorem sizeAll_le_of_sublist {some all : List Tree} (among : some.Sublist all) :
    sizeAll some ≤ sizeAll all := by
  induction among with
  | slnil => exact Nat.le_refl _
  | cons tree _ ih =>
    rw [sizeAll]
    omega
  | cons_cons tree _ ih =>
    rw [sizeAll, sizeAll]
    omega

theorem mem_preorder_self (tree : Tree) : tree ∈ tree.preorder := by
  simp [preorder_eq tree]

theorem preorder_sublist_of_mem_children {tree child : Tree} (member : child ∈ tree.children) :
    child.preorder.Sublist tree.preorder := by
  have below := (List.singleton_sublist.2 member).flatMap preorder
  rw [List.flatMap_singleton] at below
  rw [preorder_eq tree]
  exact below.cons tree

theorem preorder_subset_of_mem_children {tree child : Tree} (member : child ∈ tree.children) :
    child.preorder ⊆ tree.preorder :=
  (preorder_sublist_of_mem_children member).subset

theorem mem_preorder_of_mem_children {root tree child : Tree} (visited : tree ∈ root.preorder)
    (member : child ∈ tree.children) : child ∈ root.preorder := by
  induction root using induction_on_children with
  | step root ih =>
    rw [preorder_eq, List.mem_cons] at visited
    rcases visited with rfl | inside
    · exact preorder_subset_of_mem_children member child.mem_preorder_self
    · obtain ⟨branch, present, below⟩ := List.mem_flatMap.1 inside
      exact preorder_subset_of_mem_children present (ih branch present below)

theorem preorder_sublist_of_mem_preorder {root tree : Tree} (visited : tree ∈ root.preorder) :
    tree.preorder.Sublist root.preorder := by
  induction root using induction_on_children with
  | step root ih =>
    rw [preorder_eq, List.mem_cons] at visited
    rcases visited with rfl | inside
    · exact List.Sublist.refl _
    · obtain ⟨branch, present, below⟩ := List.mem_flatMap.1 inside
      exact (ih branch present below).trans (preorder_sublist_of_mem_children present)

theorem preorder_subset_of_mem_preorder {root tree : Tree} (visited : tree ∈ root.preorder) :
    tree.preorder ⊆ root.preorder :=
  (preorder_sublist_of_mem_preorder visited).subset

theorem mem_preorder_of_child {root tree child : Tree} {role : Role} (visited : tree ∈ root.preorder)
    (found : tree.child? role = some child) : child ∈ root.preorder :=
  mem_preorder_of_mem_children visited (List.mem_of_find?_eq_some found)

theorem mem_children_of_mem_significantChildren {tree child : Tree}
    (member : child ∈ tree.significantChildren) : child ∈ tree.children :=
  (List.mem_filter.1 (List.mem_filter.1 member).1).1

theorem mem_preorder_of_mem_significantChildren {root tree child : Tree}
    (visited : tree ∈ root.preorder) (member : child ∈ tree.significantChildren) :
    child ∈ root.preorder :=
  mem_preorder_of_mem_children visited (mem_children_of_mem_significantChildren member)

theorem openingTag_eq_or_mem_children (element : Tree) :
    element.openingTag = element ∨ element.openingTag ∈ element.children := by
  rw [openingTag]
  split
  · cases tagged : element.child? .openTag with
    | some opening => exact .inr (List.mem_of_find?_eq_some tagged)
    | none =>
      cases first : element.children.head? with
      | some opening => exact .inr (List.mem_of_head? first)
      | none => exact .inl rfl
  · exact .inl rfl

theorem openingTag_mem_preorder {root element : Tree} (visited : element ∈ root.preorder) :
    element.openingTag ∈ root.preorder := by
  rcases element.openingTag_eq_or_mem_children with same | below
  · rw [same]
    exact visited
  · exact mem_preorder_of_mem_children visited below

theorem isKind_iff {tree : Tree} {kind : Kind} :
    tree.isKind kind = true ↔ tree.label.symbol = .construct kind := by
  rw [isKind, kind?]
  cases tree.label.symbol <;> simp

theorem isOneOf_of_isKind {tree : Tree} {kind : Kind} (same : tree.isKind kind = true)
    {kinds : List Kind} (listed : kind ∈ kinds) : tree.isOneOf kinds = true := by
  rw [isKind, beq_iff_eq] at same
  simpa [isOneOf, same] using listed

theorem isOneOf_of_unnamed {tree : Tree} (unnamed : tree.isNamed = false) (kinds : List Kind) :
    tree.isOneOf kinds = false := by
  have kind : tree.kind? = none := by simpa [isNamed] using unnamed
  rw [isOneOf, kind]

theorem isOneOf_singleton (tree : Tree) (kind : Kind) : tree.isOneOf [kind] = tree.isKind kind := by
  rw [isOneOf, isKind]
  cases tree.kind? with
  | none => rfl
  | some found =>
    rw [Bool.eq_iff_iff, List.contains_iff_mem, List.mem_singleton, beq_iff_eq, Option.some.injEq]

theorem isKind_of_unnamed {tree : Tree} (unnamed : tree.isNamed = false) (kind : Kind) :
    tree.isKind kind = false := by
  rw [← isOneOf_singleton, isOneOf_of_unnamed unnamed]

theorem isOneOf_mono {tree : Tree} {kinds more : List Kind} (among : kinds ⊆ more)
    (listed : tree.isOneOf kinds = true) : tree.isOneOf more = true := by
  cases kind : tree.kind? with
  | none => simp [isOneOf, kind] at listed
  | some found =>
    have member : found ∈ kinds := by simpa [isOneOf, kind] using listed
    simpa [isOneOf, kind] using among member

theorem isOneOf_of_subset {tree : Tree} {kinds more : List Kind} (among : kinds ⊆ more)
    (other : tree.isOneOf more = false) : tree.isOneOf kinds = false := by
  cases listed : tree.isOneOf kinds with
  | false => rfl
  | true =>
    rw [isOneOf_mono among listed] at other
    cases other

theorem isOneOf_append (tree : Tree) (kinds more : List Kind) :
    tree.isOneOf (kinds ++ more) = (tree.isOneOf kinds || tree.isOneOf more) := by
  rw [isOneOf, isOneOf, isOneOf]
  cases tree.kind? with
  | none => rfl
  | some kind => exact List.contains_append

theorem isOneOf_of_apart {tree : Tree} {kinds others : List Kind} (listed : tree.isOneOf kinds = true)
    (apart : ∀ kind ∈ kinds, kind ∉ others) : tree.isOneOf others = false := by
  cases kind : tree.kind? with
  | none => simp [isOneOf, kind] at listed
  | some found =>
    have member : found ∈ kinds := by simpa [isOneOf, kind] using listed
    simp [isOneOf, kind, apart found member]

theorem unwrappedFirst_eq (trees : List Tree) :
    unwrappedFirst trees =
      (trees.find? fun tree => tree.isNamed && !tree.isComment).map unwrapped := by
  induction trees with
  | nil => rfl
  | cons tree rest ih =>
    rw [unwrappedFirst, List.find?_cons, ih]
    cases tree.isNamed && !tree.isComment <;> rfl

theorem unwrapped_mem_preorder (tree : Tree) : tree.unwrapped ∈ tree.preorder := by
  induction tree using induction_on_children with
  | step tree ih =>
    cases tree with
    | node label children =>
      rw [unwrapped]
      split
      · rw [unwrappedFirst_eq]
        cases found : children.find? fun tree => tree.isNamed && !tree.isComment with
        | none => exact mem_preorder_self _
        | some child =>
          have member := List.mem_of_find?_eq_some found
          have below : child.preorder ⊆ (node label children).preorder :=
            preorder_subset_of_mem_children member
          exact below (ih child member)
      · exact mem_preorder_self _

theorem unwrapped_mem_preorder_of_child {tree child : Tree} {role : Role}
    (found : tree.child? role = some child) : child.unwrapped ∈ tree.preorder :=
  preorder_subset_of_mem_children (List.mem_of_find?_eq_some found) child.unwrapped_mem_preorder

end Tree

namespace Place

@[simp] theorem map_tree_siblings (ancestors trees : List Tree) :
    (siblings ancestors trees).map tree = trees := by
  induction trees with
  | nil => rfl
  | cons first rest ih => simp [siblings, ih]

@[simp] theorem map_tree_children (place : Place) :
    place.children.map tree = place.tree.children :=
  map_tree_siblings _ _

theorem ancestors_of_mem_siblings {ancestors trees : List Tree} {place : Place}
    (member : place ∈ siblings ancestors trees) : place.ancestors = ancestors := by
  induction trees with
  | nil => cases member
  | cons tree rest ih =>
    rcases List.mem_cons.1 member with rfl | later
    · rfl
    · exact ih later

theorem tree_mem_children {place child : Place} (under : child ∈ place.children) :
    child.tree ∈ place.tree.children := by
  rw [← map_tree_children]
  exact List.mem_map_of_mem under

/-- What holds of a place once it holds of those right below it holds of every place. -/
@[elab_as_elim] theorem induction_on_children {motive : Place → Prop} (place : Place)
    (step : ∀ place, (∀ child ∈ place.children, motive child) → motive place) : motive place := by
  generalize shape : place.tree = tree
  induction tree using Tree.induction_on_children generalizing place with
  | step tree ih => exact step place fun child under => ih child.tree (shape ▸ tree_mem_children under) child rfl

theorem size_lt_of_mem_children {place child : Place} (under : child ∈ place.children) :
    child.tree.size < place.tree.size := by
  have within := Tree.size_le_sizeAll (tree_mem_children under)
  rw [Tree.size_eq place.tree]
  omega

/-- Which of the places right below each place a walk goes on to. -/
structure Pruning where
  next : Place → List Place
  below : ∀ place, (next place).Sublist place.children

namespace Pruning

def whole : Pruning := ⟨children, fun _ => List.Sublist.refl _⟩

def descending (descends : Place → Place → Bool) : Pruning :=
  ⟨fun place => place.children.filter (descends place), fun _ => List.filter_sublist⟩

theorem descending_always : descending (fun _ _ => true) = whole := by
  simp only [descending, whole, mk.injEq]
  funext place
  exact List.filter_eq_self.2 fun _ _ => rfl

variable (pruning : Pruning)

/-- A place and all below it that a walk comes to, in pre-order. -/
def preorder (place : Place) : List Place :=
  place :: (pruning.next place).flatMap fun child => preorder child
termination_by place.tree.size
decreasing_by
  rename_i member
  exact size_lt_of_mem_children ((pruning.below place).subset member)

theorem preorder_eq (place : Place) :
    pruning.preorder place = place :: (pruning.next place).flatMap pruning.preorder := by
  rw [preorder]

theorem mem_preorder_self (place : Place) : place ∈ pruning.preorder place := by
  rw [preorder_eq]
  exact List.mem_cons_self

theorem length_preorder_le (place : Place) : (pruning.preorder place).length ≤ place.tree.size := by
  induction place using induction_on_children with
  | step place ih =>
    have each (places : List Place) (among : places ⊆ place.children) :
        (places.flatMap pruning.preorder).length ≤ Tree.sizeAll (places.map tree) := by
      induction places with
      | nil => exact Nat.le_refl _
      | cons first rest ih' =>
        obtain ⟨own, others⟩ := List.cons_subset.1 among
        have one := ih first own
        have more := ih' others
        rw [List.flatMap_cons, List.length_append, List.map_cons, Tree.sizeAll]
        omega
    have below := each (pruning.next place) (pruning.below place).subset
    have fewer := Tree.sizeAll_le_of_sublist ((pruning.below place).map tree)
    rw [map_tree_children] at fewer
    rw [preorder_eq, List.length_cons, Tree.size_eq]
    omega

/-- Where two walks go on to the same places, they come to the same. -/
theorem preorder_congr {one other : Pruning} {holds : Place → Prop}
    (down : ∀ place, holds place → ∀ child ∈ place.children, holds child)
    (same : ∀ place, holds place → one.next place = other.next place) {place : Place}
    (start : holds place) : one.preorder place = other.preorder place := by
  induction place using induction_on_children with
  | step place ih =>
    rw [preorder_eq, preorder_eq, same place start]
    congr 1
    apply List.flatMap_congr
    intro child member
    have under := (other.below place).subset member
    exact ih child under (down place start child under)

end Pruning

/-- A visit takes as many of the places to come as it has fuel. -/
theorem visit_eq (descends : Place → Place → Bool) (fuel : Nat) (pending : List Place) :
    visit descends fuel pending =
      (pending.flatMap (Pruning.descending descends).preorder).take fuel := by
  induction fuel generalizing pending with
  | zero => rfl
  | succ fuel ih =>
    cases pending with
    | nil => rfl
    | cons place rest =>
      rw [visit, ih, List.flatMap_append, List.flatMap_cons, Pruning.preorder_eq, List.cons_append,
        List.take_succ_cons]
      rfl

theorem walkWhere_eq_preorder (descends : Place → Place → Bool) (place : Place) :
    place.walkWhere descends = (Pruning.descending descends).preorder place := by
  rw [walkWhere, visit_eq, List.flatMap_singleton,
    List.take_of_length_le (Pruning.length_preorder_le _ place)]

theorem walk_eq_preorder (place : Place) : place.walk = Pruning.whole.preorder place := by
  rw [walk, walkWhere_eq_preorder, Pruning.descending_always]

theorem map_walk {view : Place → α} {below : Place → List α}
    (step : ∀ place, below place = view place :: place.children.flatMap below) (place : Place) :
    place.walk.map view = below place := by
  rw [walk_eq_preorder]
  induction place using induction_on_children with
  | step place ih =>
    rw [Pruning.preorder_eq, List.map_cons, List.map_flatMap, step place]
    exact congrArg _ (List.flatMap_congr ih)

theorem map_tree_walk (place : Place) : place.walk.map tree = place.tree.preorder := by
  refine @map_walk _ tree (fun place => place.tree.preorder) (fun place => ?_) place
  rw [Tree.preorder_eq, ← map_tree_children, List.flatMap_map]

/-- What holds where a walk begins, and of the places below each place of which it holds, holds wherever
the walk comes to. -/
theorem forall_mem_walkWhere {descends : Place → Place → Bool} {holds : Place → Prop}
    (down : ∀ place, holds place → ∀ child ∈ place.children, holds child) {place : Place}
    (start : holds place) : ∀ visited ∈ place.walkWhere descends, holds visited := by
  rw [walkWhere_eq_preorder]
  induction place using induction_on_children with
  | step place ih =>
    rw [Pruning.preorder_eq, List.forall_mem_cons]
    refine ⟨start, fun visited member => ?_⟩
    obtain ⟨child, next, inside⟩ := List.mem_flatMap.1 member
    have under := (List.mem_filter.1 next).1
    exact ih child under (down place start child under) visited inside

theorem mem_preorder_of_mem_walkWhere {root : Tree} {descends : Place → Place → Bool} {visited : Place}
    (member : visited ∈ (ofRoot root).walkWhere descends) : visited.tree ∈ root.preorder := by
  refine @forall_mem_walkWhere descends (fun place => place.tree ∈ root.preorder)
    (fun place here child below => ?_) (ofRoot root) root.mem_preorder_self visited member
  exact Tree.mem_preorder_of_mem_children here (tree_mem_children below)

theorem mem_walkWhere_self (descends : Place → Place → Bool) (place : Place) :
    place ∈ place.walkWhere descends := by
  rw [walkWhere_eq_preorder]
  exact Pruning.mem_preorder_self _ place

/-- A walk comes from each place to those below it that it descends to. -/
theorem mem_walkWhere_of_mem_children {descends : Place → Place → Bool} {start place child : Place}
    (visited : place ∈ start.walkWhere descends) (member : child ∈ place.children)
    (down : descends place child = true) : child ∈ start.walkWhere descends := by
  rw [walkWhere_eq_preorder] at visited ⊢
  induction start using induction_on_children with
  | step start ih =>
    rw [Pruning.preorder_eq] at visited ⊢
    apply List.mem_cons_of_mem
    apply List.mem_flatMap.2
    rcases List.mem_cons.1 visited with rfl | inside
    · exact ⟨child, List.mem_filter.2 ⟨member, down⟩, Pruning.mem_preorder_self _ child⟩
    · obtain ⟨branch, next, below⟩ := List.mem_flatMap.1 inside
      exact ⟨branch, next, ih branch (List.mem_filter.1 next).1 below⟩

theorem following_of_mem_siblings {ancestors trees : List Tree} {related : Tree → Tree → Prop}
    (ordered : trees.Pairwise related) {place : Place} (member : place ∈ siblings ancestors trees) :
    ∀ following ∈ place.following, following ∈ trees ∧ related place.tree following := by
  induction trees with
  | nil => cases member
  | cons first rest ih =>
    obtain ⟨later, ordered⟩ := List.pairwise_cons.1 ordered
    intro following next
    rcases List.mem_cons.1 member with rfl | member
    · have behind := List.mem_of_head? next
      exact ⟨List.mem_cons_of_mem _ behind, later following behind⟩
    · obtain ⟨there, behind⟩ := ih ordered member following next
      exact ⟨List.mem_cons_of_mem _ there, behind⟩

theorem exists_mem_children {place : Place} {part : Tree} (member : part ∈ place.tree.children) :
    ∃ child ∈ place.children, child.tree = part ∧ child.ancestors = place.tree :: place.ancestors := by
  rw [← map_tree_children] at member
  obtain ⟨child, under, rfl⟩ := List.mem_map.1 member
  exact ⟨child, under, rfl, ancestors_of_mem_siblings under⟩

/-- A node below a place that a walk comes to is visited, or stands below a place that the walk does not
descend to. -/
theorem visited_or_skipped {descends : Place → Place → Bool} {start place : Place} {node : Tree}
    (visited : place ∈ start.walkWhere descends) (below : node ∈ place.tree.preorder) :
    (∃ inner ∈ start.walkWhere descends, inner.tree = node) ∨
      ∃ outer ∈ start.walkWhere descends, ∃ child ∈ outer.children,
        descends outer child = false ∧ node ∈ child.tree.preorder := by
  induction place using induction_on_children with
  | step place ih =>
    rw [Tree.preorder_eq, List.mem_cons] at below
    rcases below with rfl | deeper
    · exact .inl ⟨place, visited, rfl⟩
    · obtain ⟨part, member, inside⟩ := List.mem_flatMap.1 deeper
      obtain ⟨child, under, rfl, -⟩ := exists_mem_children member
      cases down : descends place child with
      | true => exact ih child under (mem_walkWhere_of_mem_children visited under down) inside
      | false => exact .inr ⟨place, visited, child, under, down, inside⟩

end Place

theorem Tree.nodes_eq_preorder (root : Tree) : root.nodes = root.preorder :=
  (Place.ofRoot root).map_tree_walk

end ComponentGate.Syntax
