import ComponentGate.Proofs.Review.Remarks
import ComponentGate.Syntax.Parse

/-! Loading. A module names the modules that it needs in four forms. The rule on imports looks at three
of them; a clause that requires a module is none of them, so what it names is never checked. -/

namespace ComponentGate

open Syntax

/-- The forms in which a module names another one that is loaded before it runs. -/
inductive LoadingForm where
  /-- An import for its effect alone. -/
  | effect
  /-- An import of names. -/
  | clause
  /-- An export of another module's names. -/
  | reExport
  /-- A name that stands for a required module. -/
  | required
  deriving DecidableEq, Repr

namespace LoadingForm

/-- Whether a node is the one under which this form has its specifier. -/
def isHeldBy (form : LoadingForm) (node : Tree) : Bool :=
  match form with
  | effect => node.isKind .importStatement && !node.children.any (·.isKind .importClause)
  | clause => node.isKind .importStatement && node.children.any (·.isKind .importClause)
  | reExport => node.isKind .exportStatement
  | required => node.isKind .importRequireClause

end LoadingForm

namespace Document

/-- The specifiers that a module loads in one form, wherever they stand. -/
def loaded (document : Document) (form : LoadingForm) : List String :=
  (document.root.preorder.filter form.isHeldBy).filterMap document.specifier?

/-- Whether a policy accepts all that a module loads in one form. -/
def LoadsAllowed (document : Document) (policy : Policy) (form : LoadingForm) : Prop :=
  ∀ specifier ∈ document.loaded form, Specifier.isAllowed policy specifier = true

end Document

section Statements

variable {document : Document} {policy : Policy} {node : Tree}

theorem isOneOf_loadingKinds :
    node.isOneOf loadingKinds = true ↔
      ∃ form, form ≠ LoadingForm.required ∧ form.isHeldBy node = true := by
  constructor
  · intro loading
    by_cases statement : node.isKind .importStatement = true
    · by_cases names : node.children.any (·.isKind .importClause) = true
      · exact ⟨.clause, by decide, by simp [LoadingForm.isHeldBy, statement, names]⟩
      · exact ⟨.effect, by decide, by simp [LoadingForm.isHeldBy, statement, names]⟩
    · refine ⟨.reExport, by decide, ?_⟩
      cases kind : node.kind? with
      | none => simp [Tree.isOneOf, kind] at loading
      | some kind =>
        simp_all [Tree.isOneOf, Tree.isKind, loadingKinds, LoadingForm.isHeldBy]
  · rintro ⟨form, other, held⟩
    cases form <;>
      simp_all [LoadingForm.isHeldBy, Tree.isKind, Tree.isOneOf, loadingKinds]

theorem remark_importPolicy_eq_none_iff :
    Rule.importPolicy.remark? document policy (.ofRoot node) = none ↔
      (node.isOneOf loadingKinds = true → ∀ specifier, document.specifier? node = some specifier →
        Specifier.isAllowed policy specifier = true) := by
  rw [remark_eq_none_iff]
  apply imp_congr_right
  intro _
  simp only [Rule.importPolicy, Place.ofRoot]
  cases document.specifier? node with
  | none => simp
  | some specifier =>
    cases allowed : Specifier.isAllowed policy specifier <;> simp [allowed]

theorem standard_forbiddenImport :
    (Rule.standard.filter fun rule => rule.category == .forbiddenImport) = [Rule.importPolicy] := rfl

theorem ofCategory_forbiddenImport (readable : document.hasErrors = false) :
    (reviewDocument document policy Rule.standard).ofCategory .forbiddenImport =
      document.root.preorder.flatMap fun node =>
        remarks document policy [Rule.importPolicy] (.ofRoot node) := by
  have prompt : ∀ rule ∈ Rule.standard, (rule.category == .forbiddenImport) = true →
      ∀ place target message, rule.check document policy place ≠ .unlessLabelled target message := by
    intro rule member category place target message waits
    have listed : rule ∈ Rule.standard.filter fun rule => rule.category == .forbiddenImport :=
      List.mem_filter.2 ⟨member, category⟩
    rw [standard_forbiddenImport, List.mem_singleton] at listed
    rw [listed] at waits
    rcases Rule.clean_or_report_importPolicy document policy place with clean | ⟨_, said⟩
    · rw [clean] at waits
      cases waits
    · rw [said] at waits
      cases waits
  rw [Report.ofCategory, filter_findings (fun _ _ _ => rfl) prompt readable,
    standard_forbiddenImport, ← flatMap_places]
  rfl

/-- No import is forbidden if and only if all that is loaded in the forms other than requiring is
allowed. -/
theorem ofCategory_forbiddenImport_eq_nil_iff (policy : Policy) (readable : document.hasErrors = false) :
    (reviewDocument document policy Rule.standard).ofCategory .forbiddenImport = [] ↔
      ∀ form, form ≠ .required → document.LoadsAllowed policy form := by
  rw [ofCategory_forbiddenImport readable, List.flatMap_eq_nil_iff]
  simp only [remarks, List.filterMap_eq_nil_iff, List.mem_singleton, forall_eq,
    remark_importPolicy_eq_none_iff, isOneOf_loadingKinds]
  constructor
  · intro clean form other specifier member
    obtain ⟨node, held, found⟩ := List.mem_filterMap.1 member
    obtain ⟨visited, held⟩ := List.mem_filter.1 held
    exact clean node visited ⟨form, other, held⟩ specifier found
  · rintro allowed node visited ⟨form, other, held⟩ specifier found
    exact allowed form other specifier
      (List.mem_filterMap.2 ⟨node, List.mem_filter.2 ⟨visited, held⟩, found⟩)

end Statements

/-- The review forbids no import exactly when all that is loaded in the forms other than requiring is
allowed. So where it forbids none, all that is loaded is allowed if and only if all that is required
is. -/
theorem loadsAllowed_iff (parse : Parse) (source : String) (policy : Policy)
    (readable : (Document.ofSource parse source).hasErrors = false) :
    ((review parse source policy Rule.standard).ofCategory .forbiddenImport = [] ↔
      ∀ form, form ≠ .required → (Document.ofSource parse source).LoadsAllowed policy form) ∧
    ((review parse source policy Rule.standard).ofCategory .forbiddenImport = [] →
      ((∀ form, (Document.ofSource parse source).LoadsAllowed policy form) ↔
        (Document.ofSource parse source).LoadsAllowed policy .required)) := by
  rw [review_eq]
  have checked := ofCategory_forbiddenImport_eq_nil_iff policy readable
  refine ⟨checked, ?_⟩
  intro clean
  constructor
  · intro all
    exact all .required
  · intro required form
    by_cases same : form = .required
    · rw [same]
      exact required
    · exact checked.1 clean form same

def everyForm : String :=
  "import './a.css';\nimport React from 'react';\nexport * from './b';\n" ++
    "namespace N \x7b import c = require('./c'); \x7d\n"

theorem everyForm_loadsAllowed_iff :
    (Document.ofSource Syntax.parse everyForm).hasErrors = false ∧
      (Document.ofSource Syntax.parse everyForm).loaded .required = ["./c"] ∧
      ((∀ form, (Document.ofSource Syntax.parse everyForm).LoadsAllowed .standard form) ↔
        (Document.ofSource Syntax.parse everyForm).LoadsAllowed .standard .required) := by
  -- evaluated together, so that the text is parsed once
  obtain ⟨readable, required, clean⟩ :
      (Document.ofSource Syntax.parse everyForm).hasErrors = false ∧
        (Document.ofSource Syntax.parse everyForm).loaded .required = ["./c"] ∧
        (review Syntax.parse everyForm .standard Rule.standard).ofCategory .forbiddenImport = [] := by
    decide +kernel
  exact ⟨readable, required, (loadsAllowed_iff _ _ _ readable).2 clean⟩

def requiredSystem : String := "import fs = require('fs');\n"

/-- A module that the policy does not allow is required, and the review finds nothing. -/
theorem requiredSystem_escapes :
    (review Syntax.parse requiredSystem .standard Rule.standard).findings = [] ∧
      (Document.ofSource Syntax.parse requiredSystem).loaded .required = ["fs"] ∧
      Specifier.isAllowed .standard "fs" = false := by
  decide +kernel

end ComponentGate
