import ComponentGate.Proofs.Review.Concern
import ComponentGate.Proofs.Review.Loading
import Mathlib.Data.List.Forall2
import Mathlib.Data.List.Perm.Basic

/-! Imports and exports that a policy rejects. The review finds them wherever they stand; the list of a
source's specifiers has those of the module's own statements only. -/

namespace ComponentGate

open Syntax

/-- The nodes of a tree other than its children: the tree itself and what stands below the children. -/
def Syntax.Tree.inner (tree : Tree) : List Tree :=
  tree :: tree.children.flatMap fun child => child.children.flatMap Tree.preorder

theorem Syntax.Tree.preorder_perm (tree : Tree) : tree.preorder.Perm (tree.children ++ tree.inner) := by
  have below : (tree.children.flatMap Tree.preorder).Perm
      (tree.children ++ tree.children.flatMap fun child => child.children.flatMap Tree.preorder) := by
    have split : tree.children.flatMap Tree.preorder =
        tree.children.flatMap fun child => child :: child.children.flatMap Tree.preorder :=
      List.flatMap_congr fun child _ => child.preorder_eq
    have apart := List.map_append_flatMap_perm tree.children id fun child : Tree =>
      child.children.flatMap Tree.preorder
    rw [List.map_id] at apart
    rw [split]
    exact apart.symm
  rw [Tree.preorder_eq, Tree.inner]
  exact (below.cons tree).trans List.perm_middle.symm

theorem Syntax.Tree.children_sublist_preorder (tree : Tree) :
    tree.children.Sublist tree.preorder := by
  have beside (trees : List Tree) : trees.Sublist (trees.flatMap Tree.preorder) := by
    induction trees with
    | nil => exact List.Sublist.refl _
    | cons first rest ih =>
      rw [List.flatMap_cons, first.preorder_eq, List.cons_append]
      exact (ih.trans (List.sublist_append_right _ _)).cons_cons first
  rw [tree.preorder_eq]
  exact (beside tree.children).cons tree

namespace Document

/-- An import or export with its specifier, if the policy does not accept that. -/
def rejected? (document : Document) (policy : Policy) (statement : Tree) : Option (Tree × String) :=
  if statement.isOneOf loadingKinds then
    ((document.specifier? statement).filter (!Specifier.isAllowed policy ·)).map (statement, ·)
  else none

/-- The imports and exports among `nodes` that a policy rejects. -/
def rejected (document : Document) (policy : Policy) (nodes : List Tree) : List (Tree × String) :=
  nodes.filterMap (document.rejected? policy)

end Document

/-- What the rule on imports finds of a rejected statement. -/
def Policy.importFinding (policy : Policy) (rejected : Tree × String) : Finding :=
  Rule.importPolicy.finding (Specifier.violation policy rejected.2) (some rejected.1.line)

/-- Whether a finding tells that a specifier is not allowed. -/
def Policy.Forbids (policy : Policy) (finding : Finding) (specifier : String) : Prop :=
  ∃ line, finding = Rule.importPolicy.finding (Specifier.violation policy specifier) (some line)

section Statements

variable {document : Document} {policy : Policy}

theorem remarks_importPolicy (node : Tree) :
    remarks document policy [Rule.importPolicy] (.ofRoot node) =
      ((document.rejected? policy node).map policy.importFinding).toList := by
  have specifier : (document.sight node).concern.specifier =
      if node.isOneOf loadingKinds then document.specifier? node else none := by
    simp only [Sight.concern, isOneOf_sight]
    rfl
  have remark : Rule.importPolicy.remark? document policy (.ofRoot node) =
      (document.rejected? policy node).map policy.importFinding := by
    rw [Rule.remark?, message_import, specifier, Document.rejected?]
    split
    · rw [Option.map_map, Option.map_map]
      rfl
    · rfl
  rw [remarks, List.filterMap_cons, remark]
  cases document.rejected? policy node <;> rfl

/-- The forbidden imports of a review are the rejected statements, wherever they stand. -/
theorem ofCategory_forbiddenImport_eq (readable : document.hasErrors = false) :
    (reviewDocument document policy Rule.standard).ofCategory .forbiddenImport =
      (document.rejected policy document.root.preorder).map policy.importFinding := by
  rw [ofCategory_forbiddenImport readable, Document.rejected, List.map_filterMap,
    List.filterMap_eq_flatMap_toList]
  exact List.flatMap_congr fun node _ => remarks_importPolicy node

/-- The specifiers that are listed and rejected are those of the root's children. -/
theorem filter_importedSpecifiers (parse : Parse) (source : String)
    (readable : (Document.ofSource parse source).hasErrors = false) :
    (importedSpecifiers parse source).filter (!Specifier.isAllowed policy ·) =
      ((Document.ofSource parse source).rejected policy
        (Document.ofSource parse source).root.children).map Prod.snd := by
  have chosen (child : Tree) : (if child.isNamed then
      if child.isOneOf loadingKinds then
        ((Document.ofSource parse source).specifier? child).filter (!Specifier.isAllowed policy ·)
      else none
      else none) = ((Document.ofSource parse source).rejected? policy child).map Prod.snd := by
    rw [Document.rejected?]
    by_cases loading : child.isOneOf loadingKinds = true
    · have named : child.isNamed = true := by
        rw [Tree.isOneOf] at loading
        cases kind : child.kind? <;> simp_all [Tree.isNamed]
      rw [if_pos named, if_pos loading, if_pos loading, Option.map_map]
      simp [Function.comp_def]
    · simp [loading]
  change List.filter _ (if (Document.ofSource parse source).hasErrors then _ else _) = _
  rw [readable, if_neg (by simp), List.filter_filterMap, List.filterMap_filter, Tree.namedChildren,
    List.filterMap_filter, Document.rejected, List.map_filterMap]
  simp only [← chosen]
  rfl

theorem length_rejected_preorder (document : Document) (policy : Policy) (root : Tree) :
    (document.rejected policy root.preorder).length =
      (document.rejected policy root.children).length +
        (document.rejected policy root.inner).length := by
  rw [← List.length_append, Document.rejected, Document.rejected, Document.rejected,
    ← List.filterMap_append]
  exact (root.preorder_perm.filterMap _).length_eq

theorem rejected_sublist (document : Document) (policy : Policy) (root : Tree) :
    (document.rejected policy root.children).Sublist (document.rejected policy root.preorder) :=
  root.children_sublist_preorder.filterMap _

theorem forall₂_forbids (policy : Policy) (rejected : List (Tree × String)) :
    List.Forall₂ policy.Forbids (rejected.map policy.importFinding) (rejected.map Prod.snd) := by
  rw [List.forall₂_map_left_iff, List.forall₂_map_right_iff, List.forall₂_same]
  exact fun entry _ => ⟨entry.1.line, rfl⟩

end Statements

/-- What is listed and rejected is always found to be forbidden. It is all that is found, one for one and
in order, exactly when no import or export is rejected but the module's own statements. -/
theorem forbidden_correspond_iff (parse : Parse) (source : String) (policy : Policy)
    (readable : (Document.ofSource parse source).hasErrors = false) :
    (∃ found : List Finding,
      found.Sublist
          ((review parse source policy Rule.standard).ofCategory .forbiddenImport) ∧
        List.Forall₂ policy.Forbids found
          ((importedSpecifiers parse source).filter (!Specifier.isAllowed policy ·))) ∧
      (List.Forall₂ policy.Forbids
          ((review parse source policy Rule.standard).ofCategory .forbiddenImport)
          ((importedSpecifiers parse source).filter (!Specifier.isAllowed policy ·)) ↔
        (Document.ofSource parse source).rejected policy
          (Document.ofSource parse source).root.inner = []) := by
  have own := rejected_sublist (.ofSource parse source) policy (Document.ofSource parse source).root
  have lengths :=
    length_rejected_preorder (.ofSource parse source) policy (Document.ofSource parse source).root
  rw [review_eq, ofCategory_forbiddenImport_eq readable, filter_importedSpecifiers parse source readable]
  refine ⟨⟨_, own.map _, forall₂_forbids policy _⟩, ?_⟩
  constructor
  · intro corresponds
    have same := corresponds.length_eq
    rw [List.length_map, List.length_map] at same
    exact List.eq_nil_of_length_eq_zero (by omega)
  · intro none
    rw [none, List.length_nil, Nat.add_zero] at lengths
    rw [own.eq_of_length lengths.symm]
    exact forall₂_forbids policy _

def nestedImports : String :=
  "import fs from 'fs';\n\x7b import b from './b'; \x7d\nexport * from './c';\n"

theorem nestedImports_correspond :
    importedSpecifiers Syntax.parse nestedImports = ["fs", "./c"] ∧
      List.Forall₂ Policy.standard.Forbids
        ((review Syntax.parse nestedImports .standard Rule.standard).ofCategory .forbiddenImport)
        ((importedSpecifiers Syntax.parse nestedImports).filter (!Specifier.isAllowed .standard ·)) := by
  -- evaluated together, so that the text is parsed once
  obtain ⟨readable, listed, none⟩ :
      (Document.ofSource Syntax.parse nestedImports).hasErrors = false ∧
        importedSpecifiers Syntax.parse nestedImports = ["fs", "./c"] ∧
        ((Document.ofSource Syntax.parse nestedImports).rejected .standard
          (Document.ofSource Syntax.parse nestedImports).root.inner).length = 0 := by
    decide +kernel
  exact ⟨listed, (forbidden_correspond_iff Syntax.parse nestedImports .standard readable).2.2
    (List.eq_nil_of_length_eq_zero none)⟩

def ambientImports : String :=
  "declare module 'm' \x7b import x from 'fs'; export * from 'os'; \x7d\n"

/-- What an ambient module imports and re-exports is forbidden, but it is not listed. -/
theorem ambientImports_unlisted :
    (Document.ofSource Syntax.parse ambientImports).hasErrors = false ∧
      importedSpecifiers Syntax.parse ambientImports = [] ∧
      ¬List.Forall₂ Policy.standard.Forbids
        ((review Syntax.parse ambientImports .standard Rule.standard).ofCategory .forbiddenImport)
        ((importedSpecifiers Syntax.parse ambientImports).filter
          (!Specifier.isAllowed .standard ·)) := by
  -- evaluated together, so that the text is parsed once
  obtain ⟨readable, unlisted, found⟩ :
      (Document.ofSource Syntax.parse ambientImports).hasErrors = false ∧
        importedSpecifiers Syntax.parse ambientImports = [] ∧
        ((review Syntax.parse ambientImports .standard Rule.standard).ofCategory
          .forbiddenImport).length = 2 := by
    decide +kernel
  refine ⟨readable, unlisted, fun corresponds => ?_⟩
  have same := corresponds.length_eq
  rw [found, unlisted] at same
  cases same

end ComponentGate
