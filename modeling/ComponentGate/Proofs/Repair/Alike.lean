import ComponentGate.Proofs.Repair.Resemblance
import ComponentGate.Proofs.Review.Graft

/-! Documents that look alike to the passes: they agree in constructs, roles and the names that a pass reads,
whatever comments there are and wherever things stand. A pass finds work in both or in neither. -/

namespace ComponentGate

open Syntax

/-- Whether all nodes of a tree are tidy. -/
def Syntax.Tree.AllTidy (tree : Tree) : Prop := ∀ node ∈ tree.preorder, node.Tidy

instance (tree : Tree) : Decidable tree.AllTidy := inferInstanceAs (Decidable (∀ node ∈ _, _))

/-- All of a tree that a pass can see. -/
def Document.impression (document : Document) : Tree → Outline := document.grafted Tree.isRead .none

section Rel

variable {f : α → γ} {g : β → γ} {related : α → β → Prop}

theorem rel_of_map {one : Option α} {other : Option β} (same : one.map f = other.map g)
    (relate : ∀ a ∈ one, ∀ b ∈ other, f a = g b → related a b) : Option.Rel related one other := by
  cases one with
  | none =>
    cases other with
    | none => exact .none
    | some _ => cases same
  | some a =>
    cases other with
    | none => cases same
    | some b => exact .some (relate a rfl b rfl (Option.some.inj same))

theorem forall₂_of_map {one : List α} {other : List β} (same : one.map f = other.map g)
    (relate : ∀ a ∈ one, ∀ b ∈ other, f a = g b → related a b) : List.Forall₂ related one other := by
  induction one generalizing other with
  | nil =>
    rw [List.map_nil, eq_comm, List.map_eq_nil_iff] at same
    rw [same]
    exact .nil
  | cons a rest ih =>
    cases other with
    | nil => cases same
    | cons b more =>
      rw [List.map_cons, List.map_cons, List.cons.injEq] at same
      refine .cons (relate a List.mem_cons_self b List.mem_cons_self same.1) (ih same.2 ?_)
      intro a here b there
      exact relate a (List.mem_cons_of_mem _ here) b (List.mem_cons_of_mem _ there)

theorem exists_of_forall₂ {one : List α} {other : List β} (rel : List.Forall₂ related one other)
    {a : α} (member : a ∈ one) : ∃ b ∈ other, related a b := by
  induction rel with
  | nil => cases member
  | cons holds _ ih =>
    rcases List.mem_cons.1 member with rfl | later
    · exact ⟨_, List.mem_cons_self, holds⟩
    · obtain ⟨b, there, holds⟩ := ih later
      exact ⟨b, List.mem_cons_of_mem _ there, holds⟩

theorem any_of_forall₂ {p : α → Bool} {q : β → Bool} {one : List α} {other : List β}
    (agree : ∀ a b, related a b → p a = q b) (rel : List.Forall₂ related one other) :
    one.any p = other.any q := by
  induction rel with
  | nil => rfl
  | cons holds _ ih => rw [List.any_cons, List.any_cons, ih, agree _ _ holds]

end Rel

/-- Whether two trees have one outline with the texts that are asked for. -/
def Mirrors (spelled : Tree → Bool) (first second : Document) (one other : Tree) : Prop :=
  first.grafted spelled .none one = second.grafted spelled .none other

namespace Mirrors

variable {spelled : Tree → Bool} {first second : Document} {one other : Tree}

section Faces

variable (same : Mirrors spelled first second one other)
include same

theorem symbol : one.label.symbol = other.label.symbol := by
  simpa using congrArg Outline.symbol same

theorem role : one.role = other.role := by
  simpa using congrArg Outline.role same

theorem kind : one.kind? = other.kind? := by rw [Tree.kind?, Tree.kind?, same.symbol]

theorem isKind (kind : Kind) : one.isKind kind = other.isKind kind := by
  rw [Tree.isKind, Tree.isKind, same.kind]

theorem isOneOf (kinds : List Kind) : one.isOneOf kinds = other.isOneOf kinds := by
  rw [Tree.isOneOf, Tree.isOneOf, same.kind]

theorem text (asked : spelled one = true) : first.text one = second.text other := by
  have texts := congrArg Outline.text same
  rw [text_grafted, text_grafted, if_pos asked] at texts
  split at texts
  · exact Option.some.inj texts
  · cases texts

theorem stringValue (asked : ∀ literal : Tree, literal.isSpelledString = true → spelled literal = true) :
    first.stringValue? one = second.stringValue? other := by
  have literal : one.isSpelledString = other.isSpelledString :=
    isSpelledString_of_symbol (congrArg Erasure.keptSymbol same.symbol)
  rw [Document.stringValue?, Document.stringValue?, ← literal]
  split
  · rename_i quoted
    rw [same.text (asked one quoted)]
  · rfl

theorem map_child (role : Role) :
    (one.child? role).map (first.grafted spelled .none) =
      (other.child? role).map (second.grafted spelled .none) := by
  have below := congrArg (Outline.child? · role) same
  simpa only [child_grafted (Graft.spares_none _)] using below

theorem map_significantChildren :
    one.significantChildren.map (first.grafted spelled .none) =
      other.significantChildren.map (second.grafted spelled .none) := by
  have below := congrArg Outline.significantChildren same
  simpa only [significantChildren_grafted (Graft.spares_none _)] using below

theorem map_heardChildren :
    (one.children.filter Tree.isHeard).map (first.grafted spelled .none) =
      (other.children.filter Tree.isHeard).map (second.grafted spelled .none) := by
  have below := congrArg Outline.children same
  simpa only [children_of_spares (Graft.spares_none _)] using below

theorem child (role : Role) :
    Option.Rel (Mirrors spelled first second) (one.child? role) (other.child? role) :=
  rel_of_map (same.map_child role) fun _ _ _ _ => id

theorem any_child {role : Role} {p q : Tree → Bool}
    (agree : ∀ child child', child.role = some role → Mirrors spelled first second child child' →
      p child = q child') :
    (one.child? role).any p = (other.child? role).any q := by
  rcases rel_cases (same.child role) with ⟨here, there⟩ | ⟨child, child', here, there, near⟩
  · rw [here, there]
    rfl
  · rw [here, there]
    exact agree child child' (role_of_child here) near

theorem unwrapped : Mirrors spelled first second one.unwrapped other.unwrapped := by
  induction one using Tree.induction_on_children generalizing other with
  | step one ih =>
    have parts := forall₂_of_map same.map_significantChildren fun _ _ _ _ => id
    rw [one.unwrapped_eq, other.unwrapped_eq, ← same.isKind]
    split
    · rcases rel_cases (rel_head parts) with ⟨here, there⟩ | ⟨inner, inner', here, there, near⟩
      · rw [here, there]
        exact same
      · rw [here, there]
        exact ih inner (Tree.mem_children_of_mem_significantChildren (List.mem_of_head? here)) near
    · exact same

end Faces

/-- The constructs of one kind in a plain tree are in its outline, in order. -/
theorem map_filter_preorder (document : Document) (spelled : Tree → Bool) {kind : Kind}
    (meant : kind ≠ .comment) {tree : Tree} (plain : tree.isPlain = true) :
    (tree.preorder.filter (·.isKind kind)).map (document.grafted spelled .none) =
      (document.grafted spelled .none tree).preorder.filter (·.kind? == some kind) := by
  induction tree using Tree.induction_on_children with
  | step tree ih =>
    have below : ((tree.children.flatMap Tree.preorder).filter (·.isKind kind)).map
          (document.grafted spelled .none) =
        ((document.grafted spelled .none tree).children.flatMap Outline.preorder).filter
          (·.kind? == some kind) := by
      rw [children_of_spares (Graft.spares_none _), List.flatMap_map, List.filter_flatMap,
        List.map_flatMap, List.filter_flatMap, ← @flatMap_filter_of_nil _ _ _ Tree.isHeard]
      · refine List.flatMap_congr fun child member => ?_
        have present := (List.mem_filter.1 member).1
        exact ih child present (isPlain_of_mem_children plain present)
      · intro child member silent
        -- what is not heard has nothing below it
        have leaf := List.all_eq_true.1 (isPlain_of_mem_children plain member) child child.mem_preorder_self
        have bottom : child.children = [] := by simpa [silent] using leaf
        have other : child.isKind kind = false := by
          refine Bool.eq_false_iff.2 fun same => Bool.eq_false_iff.1 silent ?_
          exact isHeard_of_isOneOf (Tree.isOneOf_of_isKind same (List.mem_singleton_self kind))
            (by simpa using meant.symm)
        rw [Tree.preorder_eq, bottom, List.flatMap_nil, List.filter_cons_of_neg (by simp [other])]
        rfl
    rw [Tree.preorder_eq, Outline.preorder_eq, List.filter_cons, List.filter_cons, kind_grafted, ← below,
      Tree.isKind]
    split <;> rfl

/-- Plain trees with one outline have the same constructs of each kind, in the same order. -/
theorem map_filter_preorder_eq (same : Mirrors spelled first second one other) {kind : Kind}
    (meant : kind ≠ .comment) (plain : one.isPlain = true) (plain' : other.isPlain = true) :
    (one.preorder.filter (·.isKind kind)).map (first.grafted spelled .none) =
      (other.preorder.filter (·.isKind kind)).map (second.grafted spelled .none) := by
  rw [map_filter_preorder first spelled meant plain, map_filter_preorder second spelled meant plain', same]

end Mirrors

/-- Whether two tidy trees look alike to a pass. -/
structure Alike (first second : Document) (one other : Tree) : Prop where
  same : first.impression one = second.impression other
  clean : one.AllTidy
  clean' : other.AllTidy

namespace Alike

variable {first second : Document} {one other : Tree}

theorem symm (alike : Alike first second one other) : Alike second first other one :=
  ⟨alike.same.symm, alike.clean', alike.clean⟩

section Faces

variable (alike : Alike first second one other)
include alike

theorem mirrors : Mirrors Tree.isRead first second one other := alike.same

theorem symbol : one.label.symbol = other.label.symbol := alike.mirrors.symbol

theorem isKind (kind : Kind) : one.isKind kind = other.isKind kind := alike.mirrors.isKind kind

theorem isOneOf (kinds : List Kind) : one.isOneOf kinds = other.isOneOf kinds :=
  alike.mirrors.isOneOf kinds

theorem text (read : one.isRead = true) : first.text one = second.text other :=
  alike.mirrors.text read

/-- What stands directly below two trees that look alike may look alike. -/
theorem of_children {child child' : Tree} (here : child ∈ one.children)
    (there : child' ∈ other.children)
    (same : first.impression child = second.impression child') : Alike first second child child' :=
  ⟨same, fun node below => alike.clean node (Tree.preorder_subset_of_mem_children here below),
    fun node below => alike.clean' node (Tree.preorder_subset_of_mem_children there below)⟩

theorem child (role : Role) :
    Option.Rel (Alike first second) (one.child? role) (other.child? role) := by
  refine rel_of_map (alike.mirrors.map_child role) fun child here child' there =>
    alike.of_children ?_ ?_
  · exact List.mem_of_find?_eq_some here
  · exact List.mem_of_find?_eq_some there

theorem significantChildren :
    List.Forall₂ (Alike first second) one.significantChildren other.significantChildren := by
  refine forall₂_of_map alike.mirrors.map_significantChildren fun child here child' there =>
    alike.of_children ?_ ?_
  · exact Tree.mem_children_of_mem_significantChildren here
  · exact Tree.mem_children_of_mem_significantChildren there

theorem heardChildren :
    List.Forall₂ (Alike first second) (one.children.filter Tree.isHeard)
      (other.children.filter Tree.isHeard) := by
  refine forall₂_of_map alike.mirrors.map_heardChildren fun child here child' there =>
    alike.of_children ?_ ?_
  · exact (List.mem_filter.1 here).1
  · exact (List.mem_filter.1 there).1

theorem picked (kinds : List Kind) :
    List.Forall₂ (Alike first second) (one.significantChildren.filter (·.isOneOf kinds))
      (other.significantChildren.filter (·.isOneOf kinds)) :=
  List.rel_filter (fun _ _ near => iff_of_eq (congrArg (· = true) (near.isOneOf kinds)))
    alike.significantChildren

theorem self_tidy : one.Tidy := alike.clean one one.mem_preorder_self

theorem attributeName (markup : one.isKind .markupAttribute = true) :
    Option.Rel (Alike first second) one.namedChildren.head? other.namedChildren.head? := by
  have markup' : other.isKind .markupAttribute = true := by rw [← alike.isKind]; exact markup
  rw [← Tree.significantChildren_head_of_attribute alike.self_tidy markup,
    ← Tree.significantChildren_head_of_attribute alike.symm.self_tidy markup']
  exact rel_head alike.significantChildren

end Faces

theorem resemblance (first second : Document) : Resemblance first second (Alike first second) where
  tidy alike := ⟨alike.self_tidy, alike.symm.self_tidy⟩
  symbol alike := congrArg Erasure.keptSymbol alike.symbol
  text alike := alike.text
  child alike role _ := alike.child role
  listed alike _ := alike.significantChildren
  picked alike kinds _ := alike.picked kinds
  attributeName alike := alike.attributeName

/-- What can be heard of a tree is found in one that looks alike. -/
theorem exists_alike (alike : Alike first second one other) {node : Tree} (heard : node.isHeard = true)
    (visited : node ∈ one.preorder) : ∃ seen ∈ other.preorder, Alike first second node seen := by
  induction one using Tree.induction_on_children generalizing other with
  | step one ih =>
    rw [Tree.preorder_eq, List.mem_cons] at visited
    rcases visited with rfl | below
    · exact ⟨other, other.mem_preorder_self, alike⟩
    obtain ⟨child, member, inside⟩ := List.mem_flatMap.1 below
    cases audible : child.isHeard with
    | true =>
      obtain ⟨child', there, near⟩ :=
        exists_of_forall₂ alike.heardChildren (List.mem_filter.2 ⟨member, audible⟩)
      obtain ⟨seen, inside, same⟩ := ih child member near inside
      exact ⟨seen, Tree.preorder_subset_of_mem_children (List.mem_filter.1 there).1 inside, same⟩
    | false =>
      -- a piece of text, or a comment, has nothing below it
      have tidy := alike.clean child (Tree.preorder_subset_of_mem_children member child.mem_preorder_self)
      have leaf : child.children = [] := by
        rw [Tree.isHeard, Bool.or_eq_false_iff] at audible
        simpa [audible.1] using tidy.leaf
      rw [Tree.preorder_eq, leaf, List.flatMap_nil, List.mem_singleton] at inside
      rw [inside, audible] at heard
      cases heard

/-- Of two trees that look alike, all nodes of certain kinds are in order in both or in neither. -/
theorem forall_preorder_iff (alike : Alike first second one other) (kinds : List Kind)
    {fine fine' : Tree → Prop} (meant : Kind.comment ∉ kinds)
    (agree : ∀ node seen, Alike first second node seen → node.isOneOf kinds = true →
      (fine node ↔ fine' seen)) :
    (∀ node ∈ one.preorder, node.isOneOf kinds = true → fine node) ↔
      ∀ node ∈ other.preorder, node.isOneOf kinds = true → fine' node := by
  constructor
  · intro all node visited listed
    obtain ⟨seen, there, near⟩ := alike.symm.exists_alike (isHeard_of_isOneOf listed meant) visited
    have listed' : seen.isOneOf kinds = true := (near.isOneOf kinds).symm.trans listed
    exact (agree seen node near.symm listed').1 (all seen there listed')
  · intro all node visited listed
    obtain ⟨seen, there, near⟩ := alike.exists_alike (isHeard_of_isOneOf listed meant) visited
    exact (agree node seen near listed).2 (all seen there ((near.isOneOf kinds).symm.trans listed))

/-- Trees that look alike are both in order for a parser, or neither is. -/
theorem hasError_eq (alike : Alike first second one other) : one.hasError = other.hasError := by
  have none (tree : Tree) : tree.hasError = false ↔
      ∀ node ∈ tree.preorder, node.isOneOf [.error] = true → False := by
    rw [Tree.hasError, List.any_eq_false]
    simp only [Tree.isOneOf_singleton]
  have same : one.hasError = false ↔ other.hasError = false := by
    rw [none, none]
    exact alike.forall_preorder_iff [.error] (by decide) fun _ _ _ _ => Iff.rfl
  rw [Bool.eq_iff_iff, ← not_iff_not, Bool.not_eq_true, Bool.not_eq_true, same]

end Alike

namespace Repair

section Plans

variable {first second : Document} (alike : Alike first second first.root second.root)
include alike

theorem hasMarkup_eq_false_iff_of_alike : hasMarkup first = false ↔ hasMarkup second = false := by
  rw [hasMarkup_eq_false_iff, hasMarkup_eq_false_iff]
  exact alike.forall_preorder_iff elementKinds (by decide) fun _ _ _ _ => Iff.rfl

theorem listKeys_iff : (listKeys.plan first).edits = [] ↔ (listKeys.plan second).edits = [] := by
  rw [listKeys, concat_edits_eq_nil_iff, concat_edits_eq_nil_iff]
  simp only [← Tree.isOneOf_singleton]
  exact alike.forall_preorder_iff [.callExpression] (by decide)
    fun _ _ near _ => (Alike.resemblance first second).keyRepairs_iff near

theorem eventHandlers_iff :
    (eventHandlers.plan first).edits = [] ↔ (eventHandlers.plan second).edits = [] := by
  rw [eventHandlers, concat_edits_eq_nil_iff, concat_edits_eq_nil_iff]
  simp only [← Tree.isOneOf_singleton]
  refine alike.forall_preorder_iff [.markupAttribute] (by decide) fun node _ near markup => ?_
  rw [node.isOneOf_singleton] at markup
  exact (Alike.resemblance first second).handlerRepairs_iff near markup

theorem filter_root_of_alike (kinds : List Kind) (meant : Kind.comment ∉ kinds) :
    List.Forall₂ (Alike first second) (first.root.namedChildren.filter (·.isOneOf kinds))
      (second.root.namedChildren.filter (·.isOneOf kinds)) := by
  rw [Tree.filter_namedChildren _ meant, Tree.filter_namedChildren _ meant]
  exact alike.picked kinds

theorem hoistTarget_of_alike :
    Option.Rel (fun mine yours => Alike first second mine.function yours.function)
      (hoistTarget? first) (hoistTarget? second) := by
  have exports := filter_root_of_alike alike [.exportStatement] (by decide)
  simp only [Tree.isOneOf_singleton] at exports
  exact rel_findSome (fun _ _ near => (Alike.resemblance first second).exportedFunction near) exports

theorem importsBase_eq : importsBase first = importsBase second := by
  have imports := filter_root_of_alike alike [.importStatement] (by decide)
  simp only [Tree.isOneOf_singleton] at imports
  rw [importsBase, importsBase, ← List.any_filter, ← List.any_filter]
  exact any_of_forall₂ (fun _ _ near => (Alike.resemblance first second).namesBase near) imports

/-- Documents that look alike need the same passes. -/
theorem plan_eq_nil_iff {pass : Pass} (member : pass ∈ passes) :
    (pass.plan first).edits = [] ↔ (pass.plan second).edits = [] := by
  simp only [passes, List.mem_cons, List.not_mem_nil, or_false] at member
  rcases member with rfl | rfl | rfl | rfl
  · exact (Alike.resemblance first second).hoistDeclarations_iff
      (filter_root_of_alike alike declarationKinds (by decide)) (hoistTarget_of_alike alike)
  · exact listKeys_iff alike
  · exact eventHandlers_iff alike
  · rw [ensureBaseImport_eq_nil_iff, ensureBaseImport_eq_nil_iff,
      hasMarkup_eq_false_iff_of_alike alike, importsBase_eq alike]

end Plans

end Repair

end ComponentGate
