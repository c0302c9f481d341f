import ComponentGate.Proofs.Review.Graft

/-! Allowed outlines. Where no blocking rule looks below a node, its kind and its word decide. So a tree
in which nothing is refused stays so under every graft that puts in nothing but allowed parts. -/

namespace ComponentGate

open Syntax

/-- Whether nodes that look so are refused. -/
def Sight.Refused (policy : Policy) (sight : Sight) : Prop :=
  ∃ (document : Document) (node : Tree), document.sight node = sight ∧
    ComponentGate.Refused document policy node

/-- Whether nothing is refused in an outline. -/
def Outline.Allowed (policy : Policy) (outline : Outline) : Prop :=
  ∀ part ∈ outline.preorder, ¬part.sight.Refused policy

/-- Whether a graft turns allowed parts into allowed parts. -/
def Graft.Harmless (policy : Policy) (graft : Graft) : Prop :=
  ∀ tree below, (∀ part ∈ below, part.Allowed policy) →
    ∀ part ∈ graft tree below, part.Allowed policy

theorem Graft.harmless_none (policy : Policy) : Graft.none.Harmless policy :=
  fun _ _ allowed => allowed

/-- Harmless grafts are harmless one after the other. -/
theorem Graft.harmless_foldl {policy : Policy} {graft : α → Graft} {all : List α}
    (each : ∀ item ∈ all, (graft item).Harmless policy) :
    Harmless policy fun tree below =>
      all.foldl (fun below item => graft item tree below) below := by
  intro tree below fine
  induction all generalizing below with
  | nil => exact fine
  | cons item rest ih =>
    have next := each item List.mem_cons_self tree below fine
    exact ih (fun later member => each later (List.mem_cons_of_mem _ member)) _ next

theorem refused_sight_iff {document : Document} {policy : Policy} {node : Tree} :
    (document.sight node).Refused policy ↔ Refused document policy node := by
  constructor
  · rintro ⟨other, twin, same, refused⟩
    exact refused_of_sight same refused
  · intro refused
    exact ⟨document, node, rfl, refused⟩

/-- Only the rule on bare names inspects a construct that is not searched. -/
theorem eq_noPrivilegedGlobal_of_mem {rule : Rule} {kind : Kind} (member : rule ∈ Rule.blocking)
    (inspected : kind ∈ rule.kinds) (outside : kind ∉ searchedKinds) :
    rule = Rule.noPrivilegedGlobal := by
  have listed : Rule.noPrivilegedGlobal ∈ Rule.blocking := by simp [Rule.blocking_eq]
  have others : ∀ other ∈ Rule.blocking, other.name ≠ Rule.noPrivilegedGlobal.name →
      ∀ kind ∈ other.kinds, kind ∈ searchedKinds := by
    rw [Rule.blocking_eq]
    decide
  by_cases name : rule.name = Rule.noPrivilegedGlobal.name
  · exact Rule.eq_of_name member listed name
  · exact absurd (others rule member name kind inspected) outside

section Unsearched

variable {document : Document} {policy : Policy} {node : Tree}

theorem refused_iff_of_unsearched (outside : node.isOneOf searchedKinds = false) :
    Refused document policy node ↔
      node.kind? = some .error ∨
        (document.sight node).word.any Rule.privilegedGlobals.contains = true := by
  constructor
  · rintro (error | ⟨rule, member, inspected, message, said⟩)
    · left
      simpa [Tree.isKind] using error
    · right
      cases found : node.kind? with
      | none => simp [Tree.isOneOf, found] at inspected
      | some kind =>
        have rest : kind ∉ searchedKinds := by simpa [Tree.isOneOf, found] using outside
        have listed : kind ∈ rule.kinds := by simpa [Tree.isOneOf, found] using inspected
        obtain rfl := eq_noPrivilegedGlobal_of_mem member listed rest
        have bare : node.isOneOf bareNameKinds = true := inspected
        simp only [Rule.noPrivilegedGlobal, Rule.onNodes, Place.ofRoot] at said
        rw [Document.sight, if_pos bare, Option.any_some]
        by_cases privileged : Rule.privilegedGlobals.contains (document.text node) = true
        · exact privileged
        · rw [if_neg privileged] at said
          cases said
  · rintro (error | privileged)
    · left
      simpa [Tree.isKind] using error
    · right
      by_cases bare : node.isOneOf bareNameKinds = true
      · rw [Document.sight, if_pos bare, Option.any_some] at privileged
        refine ⟨Rule.noPrivilegedGlobal, by simp [Rule.blocking_eq], bare,
          Rule.privilegedMessage (document.text node), ?_⟩
        simp only [Rule.noPrivilegedGlobal, Rule.onNodes, Place.ofRoot]
        rw [if_pos privileged]
        rfl
      · rw [Document.sight, if_neg bare] at privileged
        cases privileged

theorem Sight.word_of_refused {sight : Sight} (refused : sight.Refused policy)
    (outside : sight.kind.any searchedKinds.contains = false) :
    sight.kind = some .error ∨ sight.word.any Rule.privilegedGlobals.contains = true := by
  obtain ⟨document, node, rfl, refused⟩ := refused
  apply (refused_iff_of_unsearched ?_).1 refused
  rw [Tree.isOneOf]
  rw [Document.sight] at outside
  cases kind : node.kind? with
  | none => rfl
  | some kind => simpa [kind] using outside

end Unsearched

namespace Outline

variable {policy : Policy} {outline : Outline}

theorem allowed_iff :
    outline.Allowed policy ↔
      ¬outline.sight.Refused policy ∧ ∀ part ∈ outline.children, part.Allowed policy := by
  rw [Allowed, preorder_eq]
  simp only [List.mem_cons, List.mem_flatMap, forall_eq_or_imp, forall_exists_index, and_imp]
  apply and_congr_right
  intro _
  constructor
  · intro below child member part inside
    exact below part child member inside
  · intro below part child member inside
    exact below child member part inside

/-- A construct into which no rule looks is allowed if its word and its parts are. -/
theorem allowed_of_unsearched (outside : outline.kind?.any searchedKinds.contains = false)
    (sound : outline.kind? ≠ some .error)
    (word : outline.text.any Rule.privilegedGlobals.contains = false)
    (below : ∀ part ∈ outline.children, part.Allowed policy) : outline.Allowed policy := by
  refine allowed_iff.2 ⟨?_, below⟩
  intro refused
  rcases Sight.word_of_refused refused outside with error | privileged
  · exact sound error
  · rw [sight] at privileged
    dsimp only at privileged
    split at privileged
    · rw [word] at privileged
      cases privileged
    · cases privileged

end Outline

section Grafted

variable {document : Document} {policy : Policy} {spelled : Tree → Bool} {graft : Graft} {root : Tree}

theorem refused_of_refused_grafted (tells : Telling spelled)
    (refused : (document.grafted spelled graft root).sight.Refused policy) :
    Refused document policy root := by
  by_cases searched : root.isOneOf searchedKinds = true
  · rw [sight_grafted tells (.inl (by simp [Tree.isSearched, searched]))] at refused
    exact refused_sight_iff.1 refused
  · rw [Bool.not_eq_true] at searched
    have word : (document.grafted spelled graft root).sight.word = (document.sight root).word := by
      rw [Outline.sight, Document.sight, isOneOf_grafted]
      exact word_grafted document graft tells root
    have kind : (document.grafted spelled graft root).sight.kind = root.kind? :=
      kind_grafted document spelled graft root
    have outside : root.kind?.any searchedKinds.contains = false := by
      rw [Tree.isOneOf] at searched
      cases kind : root.kind? with
      | none => rfl
      | some kind => simpa [kind] using searched
    have reasons := Sight.word_of_refused refused (by rw [kind, outside])
    rw [kind, word] at reasons
    exact (refused_iff_of_unsearched searched).2 reasons

/-- Where nothing is refused, nothing is under a harmless graft. -/
theorem allowed_grafted (tells : Telling spelled)
    (harmless : graft.Harmless policy)
    (allowed : ∀ node ∈ root.preorder, ¬Refused document policy node) :
    (document.grafted spelled graft root).Allowed policy := by
  induction root using Tree.induction_on_children with
  | step root ih =>
    have parts : ∀ part ∈ (root.children.filter Tree.isHeard).map (document.grafted spelled graft),
        part.Allowed policy := by
      intro part member
      obtain ⟨child, kept, rfl⟩ := List.mem_map.1 member
      have present := (List.mem_filter.1 kept).1
      apply ih child present
      intro node below
      exact allowed node (Tree.preorder_subset_of_mem_children present below)
    refine Outline.allowed_iff.2 ⟨?_, ?_⟩
    · intro refused
      exact allowed root root.mem_preorder_self (refused_of_refused_grafted tells refused)
    · rw [children_grafted]
      split
      · exact parts
      · exact harmless root _ parts

/-- Where nothing is refused in an outline, nothing is in the tree. -/
theorem not_refused_of_allowed (tells : Telling spelled)
    (plain : root.isPlain = true) (allowed : (document.grafted spelled .none root).Allowed policy) :
    ∀ node ∈ root.preorder, ¬Refused document policy node := by
  induction root using Tree.induction_on_children with
  | step root ih =>
    obtain ⟨clear, below⟩ := Outline.allowed_iff.1 allowed
    intro node visited
    rw [Tree.preorder_eq, List.mem_cons] at visited
    rcases visited with rfl | inside
    · rw [sight_grafted tells (Graft.spares_none _)] at clear
      exact fun refused => clear (refused_sight_iff.2 refused)
    · obtain ⟨child, member, inside⟩ := List.mem_flatMap.1 inside
      have childPlain := isPlain_of_mem_children plain member
      by_cases heard : child.isHeard = true
      · refine ih child member childPlain (below _ ?_) node inside
        rw [children_of_spares (Graft.spares_none _)]
        exact List.mem_map_of_mem (List.mem_filter.2 ⟨member, heard⟩)
      · -- An unheard child is a leaf, so the node is the child itself.
        have leaf := List.all_eq_true.1 childPlain child child.mem_preorder_self
        have bottom : child.children = [] := by simpa [heard] using leaf
        rw [Tree.preorder_eq, bottom, List.flatMap_nil, List.mem_singleton] at inside
        rw [inside]
        exact fun refused => heard (isHeard_of_refused refused)

end Grafted

/-- Nothing is refused in a tree if nothing is in one with the same outline. -/
theorem allowed_of_outline {first second : Document} {policy : Policy} {one other : Tree}
    (plain : other.isPlain = true) (same : first.outline one = second.outline other)
    (allowed : ∀ node ∈ one.preorder, ¬Refused first policy node) :
    ∀ node ∈ other.preorder, ¬Refused second policy node := by
  apply not_refused_of_allowed telling_isSpelled plain
  rw [Document.grafted_none, ← same, ← Document.grafted_none]
  exact allowed_grafted telling_isSpelled (Graft.harmless_none policy) allowed

end ComponentGate
