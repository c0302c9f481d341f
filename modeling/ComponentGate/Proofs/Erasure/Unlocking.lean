import ComponentGate.Erasure.Basic
import ComponentGate.Proofs.Erasure.Exposure
import ComponentGate.Proofs.Review.Allowed
import ComponentGate.Syntax.Parse

/-! When erasing types unlocks what the review forbids: exactly when something forbidden comes to light
behind a cast. The parser has to read the text without types as the tree without types. -/

namespace ComponentGate

open Syntax

namespace Erasure

/-- The body that a source is reviewed by. -/
def reviewed (parse : Parse) (source : String) : Document :=
  .read parse (Preamble.split source).body

/-- The text without types is read as the tree without types. -/
structure ReadsBack (parse : Parse) (source : String) : Prop where
  plain : (reviewed parse (eraseTypes parse source)).root.isPlain = true
  same : (bare (reviewed parse source).root).map (reviewed parse source).outline =
    some ((reviewed parse (eraseTypes parse source)).outline
      (reviewed parse (eraseTypes parse source)).root)

/-- Whether a construct whose name stood behind a cast, or what was given to it first, is refused once
the types are gone. -/
def Exposes (document : Document) (policy : Policy) : Prop :=
  ∃ node ∈ survivors document.root, isVeiled node = true ∧
    ∃ left, bare node = some left ∧ Refused document policy left

theorem sight_inRole (document : Document) (role : Option Role) (tree : Tree) :
    document.sight (tree.inRole role) = document.sight tree := by
  obtain ⟨label, children⟩ := tree
  have dotted : document.dottedName? (.node { label with role := role } children) =
      document.dottedName? (.node label children) := by
    rw [Document.dottedName?, Document.dottedName?]
    rfl
  simp only [Tree.inRole, Document.sight, dotted]
  rfl

/-- What erasing leaves is allowed unless it exposes something. -/
theorem forall_bare_allowed_iff (document : Document) {policy : Policy}
    (allowed : ∀ node ∈ document.root.preorder, ¬Refused document policy node) :
    (∀ left, bare document.root = some left → ∀ node ∈ left.preorder,
        ¬Refused document policy node) ↔ ¬Exposes document policy := by
  have blind (role : Option Role) (tree : Tree) :
      ¬Refused document policy (tree.inRole role) ↔ ¬Refused document policy tree :=
    not_congr (refused_iff_of_sight (sight_inRole document role tree))
  rw [forall_bare_iff blind]
  constructor
  · rintro each ⟨node, survived, -, left, eq, refused⟩
    exact each node survived left eq refused
  · intro hidden node survived left eq refused
    cases veiled : isVeiled node with
    | true => exact hidden ⟨node, survived, veiled, left, eq, refused⟩
    | false =>
      have named : node.isNamed = true := by
        cases named : node.isNamed with
        | true => rfl
        | false =>
          rw [bare_of_unnamed named, Option.some.injEq] at eq
          have construct := (meant_of_refused refused).1
          rw [← eq, Tree.isNamed] at construct
          rw [Tree.isNamed] at named
          exact named.symm.trans construct
      have before := refused_of_sight (sight_of_unveiled named veiled eq) refused
      exact allowed node (survivors_subset_preorder _ survived) before

/-- The review of a text without types finds what is left of the tree. -/
theorem review_eraseTypes_iff {parse : Parse} {source : String} (reads : ReadsBack parse source)
    (policy : Policy) :
    (review parse (eraseTypes parse source) policy Rule.standard).isValid = true ↔
      ∀ left, bare (reviewed parse source).root = some left → ∀ node ∈ left.preorder,
        ¬Refused (reviewed parse source) policy node := by
  obtain ⟨left, eq, same⟩ := Option.map_eq_some_iff.1 reads.same
  rw [isValid_review_iff]
  constructor
  · intro allowed other other_eq
    rw [eq, Option.some.injEq] at other_eq
    rw [← other_eq]
    exact allowed_of_outline (isPlain_of_bare eq) same.symm allowed
  · intro allowed
    exact allowed_of_outline reads.plain same (allowed left eq)

/-- Whether all that the rules see in the second document only is allowed there. -/
def NewsAllowed (before after : Document) (policy : Policy) : Prop :=
  ∀ node ∈ after.root.preorder,
    (∀ seen ∈ before.root.preorder, before.sight seen ≠ after.sight node) → ¬Refused after policy node

theorem forall_allowed_iff_newsAllowed (before after : Document) {policy : Policy}
    (allowed : ∀ node ∈ before.root.preorder, ¬Refused before policy node) :
    (∀ node ∈ after.root.preorder, ¬Refused after policy node) ↔
      NewsAllowed before after policy := by
  constructor
  · intro all node visited _
    exact all node visited
  · intro news node visited refused
    refine news node visited ?_ refused
    intro seen known same
    exact allowed seen known (refused_of_sight same.symm refused)

/-- A valid source stays valid without its types if and only if all that comes to light is allowed.
Where the text without types is read as the tree without types, that is to say: if and only if the
source stays as it is or exposes nothing. -/
theorem isValid_eraseTypes_iff (parse : Parse) (source : String) (policy : Policy)
    (valid : (review parse source policy Rule.standard).isValid = true) :
    ((review parse (eraseTypes parse source) policy Rule.standard).isValid = true ↔
      NewsAllowed (reviewed parse source) (reviewed parse (eraseTypes parse source)) policy) ∧
    ((eraseTypes parse source ≠ source → ReadsBack parse source) →
      ((review parse (eraseTypes parse source) policy Rule.standard).isValid = true ↔
        eraseTypes parse source = source ∨ ¬Exposes (reviewed parse source) policy)) := by
  have allowed := (isValid_review_iff parse source policy).1 valid
  constructor
  · rw [isValid_review_iff]
    exact forall_allowed_iff_newsAllowed (reviewed parse source)
      (reviewed parse (eraseTypes parse source)) allowed
  · intro reads
    by_cases unchanged : eraseTypes parse source = source
    · rw [unchanged]
      simp [valid]
    · have exact := forall_bare_allowed_iff (reviewed parse source) allowed
      rw [review_eraseTypes_iff (reads unchanged), exact]
      simp [unchanged]

/-- A call behind a mark that says that its callee is there. -/
def assuredCall : String := "eval!('x')\n"

theorem assuredCall_unlocked :
    (review Syntax.parse assuredCall .standard Rule.standard).isValid = true ∧
      (review Syntax.parse (eraseTypes Syntax.parse assuredCall) .standard
        Rule.standard).isValid = false := by
  decide +kernel

def assuredItems : String := "const total: number = (items as number[])!.length;\n"

theorem assuredItems_isValid_iff :
    (review Syntax.parse assuredItems .standard Rule.standard).isValid = true ∧
      eraseTypes Syntax.parse assuredItems = "const total = (items).length;\n" ∧
      ReadsBack Syntax.parse assuredItems ∧
      ((review Syntax.parse (eraseTypes Syntax.parse assuredItems) .standard
        Rule.standard).isValid = true ↔ eraseTypes Syntax.parse assuredItems = assuredItems ∨
          ¬Exposes (reviewed Syntax.parse assuredItems) .standard) := by
  have valid : (review Syntax.parse assuredItems .standard Rule.standard).isValid = true := by
    decide +kernel
  have reads : ReadsBack Syntax.parse assuredItems := ⟨by decide +kernel, by decide +kernel⟩
  have erased : eraseTypes Syntax.parse assuredItems = "const total = (items).length;\n" := by
    decide +kernel
  exact ⟨valid, erased, reads, (isValid_eraseTypes_iff _ _ _ valid).2 fun _ => reads⟩

end Erasure

end ComponentGate
