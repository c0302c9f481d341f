import ComponentGate.Proofs.Erasure.Uncast
import ComponentGate.Proofs.Erasure.Unlocking
import ComponentGate.Proofs.Repair.Rounds

/-! When a source that needs no repair needs one without its types: exactly when a pass finds work in the tree
without types and succeeds with it. A handler's name is never news. A missing import is, where all imports of
the library were imports of types; a missing key, or a function to move declarations to, may stand behind a
cast. -/

namespace ComponentGate

open Syntax Repair

namespace Erasure

section Survivors

variable {tree node : Tree}

/-- A construct that survives stays in its place. -/
theorem bare_of_survivor (survived : node ∈ survivors tree) (named : node.isNamed = true) :
    bare node = some (kept node) := by
  obtain ⟨stays, uncast⟩ := stays_of_survivor survived named
  rw [bare_of_named named uncast, stays]
  rfl

/-- What holds of the constructs that are left holds of each construct that survives, and the other way
round. -/
theorem forall_left_iff {holds : Tree → Prop} {left : Tree} (erased : bare tree = some left)
    (blind : ∀ role tree, holds (Tree.inRole role tree) ↔ holds tree)
    (silent : ∀ tree, tree.isNamed = false → holds tree) :
    (∀ node ∈ left.preorder, holds node) ↔
      ∀ node ∈ survivors tree, node.isNamed = true → holds (kept node) := by
  have each := forall_bare_iff blind tree
  rw [erased] at each
  simp only [Option.some.injEq, forall_eq'] at each
  rw [each]
  constructor
  · intro all node survived named
    exact all node survived _ (bare_of_survivor survived named)
  · intro all node survived other left
    cases named : node.isNamed with
    | true =>
      rw [bare_of_survivor survived named, Option.some.injEq] at left
      rw [← left]
      exact all node survived named
    | false => exact silent other ((isNamed_of_bare left).trans named)

end Survivors

section News

variable {document : Document} {left : Tree}

/-- What is left of a tidy construct that is no cast, if anything is. -/
theorem eq_kept {tree : Tree} (tidy : tree.Tidy) (uncast : tree.isOneOf unwrappedKinds = false)
    (erased : bare tree = some left) : left = kept tree := by
  rw [bare_of_uncast tidy uncast] at erased
  split at erased
  · cases erased
  · exact (Option.some.inj erased).symm

theorem handlerRepairs_kept {given : Tree} (tidy : given.Tidy)
    (markup : given.isKind .markupAttribute = true) (clean : ∀ child ∈ given.children, child.Tidy)
    (quiet : (handlerRepairs document given).edits = []) :
    (handlerRepairs (document.rooted left) (kept given)).edits = [] := by
  obtain ⟨name, begins, naming⟩ := Tree.exists_attributeName tidy markup
  have member : name ∈ given.children := (List.mem_filter.1 (List.mem_of_head? begins)).1
  have uncast : name.isOneOf unwrappedKinds = false := Tree.isOneOf_of_apart naming (by decide)
  have stays : isGone name = false :=
    isGone_of_picked (Tree.isOneOf_mono (List.subset_append_left _ _) naming)
  have erased : bare name = some (kept name) := by
    rw [bare_of_uncast (clean name member) uncast, stays]
    simp
  have begins' := head_namedChildren_kept begins erased
  have text : (document.rooted left).text (kept name) = document.text name := rfl
  rw [handlerRepairs, begins] at quiet
  rw [handlerRepairs, begins']
  dsimp only at quiet ⊢
  rw [isKind_kept name (by decide), text]
  split at quiet
  · rename_i other
    rw [if_pos other]
    rfl
  · rename_i proper
    rw [if_neg proper]
    cases found : Entries.get? handlerNames (document.text name) with
    | none => rfl
    | some proper =>
      rw [found] at quiet
      cases quiet

/-- A handler's name that is not spelled wrong before is not spelled wrong without the types. -/
theorem eventHandlers_of_bare (clean : document.root.AllTidy) (erased : bare document.root = some left)
    (quiet : (eventHandlers.plan document).edits = []) :
    (eventHandlers.plan (document.rooted left)).edits = [] := by
  rw [eventHandlers, concat_edits_eq_nil_iff] at quiet ⊢
  refine (forall_left_iff erased ?_ ?_).2 ?_
  · intro role tree
    simp [handlerRepairs, Tree.namedChildren, Tree.isKind]
  · intro tree unnamed markup
    rw [Tree.isKind_of_unnamed unnamed] at markup
    cases markup
  · intro node survived named markup
    have visited := survivors_subset_preorder _ survived
    rw [isKind_kept node (by decide)] at markup
    refine handlerRepairs_kept (clean node visited) markup ?_ (quiet node visited markup)
    exact fun child member => clean child (Tree.mem_preorder_of_mem_children visited member)

/-- Whether a statement imports the base library. -/
def isLibraryImport (document : Document) (statement : Tree) : Bool :=
  statement.isKind .importStatement &&
    (statement.child? .source).any fun source => document.stringValue? source == some baseLibrary

/-- A literal string stays what it is. -/
theorem stringValue_kept (document : Document) (left : Tree) {literal : Tree} (tidy : literal.Tidy)
    (quoted : literal.isSpelledString = true) :
    bare literal = some (kept literal) ∧
      (document.rooted left).stringValue? (kept literal) = document.stringValue? literal := by
  have kind : literal.kind? = some .string ∨ literal.kind? = none := by
    rw [Tree.isSpelledString, Bool.or_eq_true, Tree.isKind, Tree.isToken, beq_iff_eq, beq_iff_eq] at quoted
    refine quoted.imp_right fun word => ?_
    rw [Tree.kind?, word]
  have uncast : literal.isOneOf unwrappedKinds = false := by
    rcases kind with kind | kind <;> simp [Tree.isOneOf, kind, unwrappedKinds, castKinds]
  have stays : isGone literal = false := by
    rcases kind with kind | kind <;>
      simp [isGone, isSpecifier, Tree.isOneOf, Tree.isKind, kind, goneKinds, erasedKinds,
        modifierKinds, typeStatementKinds]
  constructor
  · rw [bare_of_uncast tidy uncast, stays]
    simp
  · have quoted' : (kept literal).isSpelledString = literal.isSpelledString :=
      isSpelledString_of_symbol (keptSymbol_keptSymbol _)
    rw [Document.stringValue?, Document.stringValue?, quoted']
    rfl

/-- An import of the library that does not go with the types is still there without them. -/
theorem importsBase_of_bare (clean : document.root.AllTidy)
    (program : document.root.isKind .program = true) (erased : bare document.root = some left)
    {statement : Tree} (member : statement ∈ document.root.namedChildren)
    (imports : isLibraryImport document statement = true) (stays : isGone statement = false) :
    importsBase (document.rooted left) = true := by
  obtain ⟨isImport, names⟩ := Bool.and_eq_true_iff.1 imports
  obtain ⟨source, found, value⟩ := (Option.any_eq_true _ _).1 names
  have here : statement ∈ document.root.children := (List.mem_filter.1 member).1
  have visited := Tree.mem_preorder_of_mem_children document.root.mem_preorder_self here
  have inside := Tree.mem_preorder_of_child visited found
  have quoted : source.isSpelledString = true := by
    cases quoted : source.isSpelledString with
    | true => rfl
    | false => simp [Document.stringValue?, quoted] at value
  obtain ⟨literal, same⟩ := stringValue_kept document left (clean source inside) quoted
  have root : left = kept document.root := by
    refine eq_kept (clean _ document.root.mem_preorder_self) ?_ erased
    rw [← Tree.isOneOf_singleton] at program
    exact Tree.isOneOf_of_apart program (by decide)
  have imported : bare statement = some (kept statement) := by
    have uncast : statement.isOneOf unwrappedKinds = false := by
      rw [← Tree.isOneOf_singleton] at isImport
      exact Tree.isOneOf_of_apart isImport (by decide)
    rw [bare_of_uncast (clean statement visited) uncast, stays]
    simp
  rw [importsBase, Document.root_rooted, root, namedChildren_kept, List.any_eq_true]
  refine ⟨kept statement, List.mem_filterMap.2 ⟨statement, member, imported⟩, ?_⟩
  have child : (kept statement).child? .source = some (kept source) := by
    rw [child_kept, found, Option.bind_some, literal]
    intro child first
    rw [found, Option.mem_some_iff] at first
    rw [← first, literal, Option.isSome_some]
  rw [isKind_kept statement (by decide), isImport, Bool.true_and, child, Option.any_some, ← root, same]
  exact value

/-- Markup that is left has survived. -/
theorem exists_element_of_bare (erased : bare document.root = some left)
    (markup : hasMarkup (document.rooted left) = true) :
    ∃ node ∈ survivors document.root, node.isElement = true := by
  by_contra none
  have silent : hasMarkup (document.rooted left) = false := by
    rw [hasMarkup_eq_false_iff]
    refine (forall_left_iff erased ?_ ?_).2 ?_
    · intro role tree
      rw [Tree.isElement, Tree.isElement, Tree.isOneOf, Tree.isOneOf, Tree.kind_inRole]
    · intro tree unnamed element
      rw [Tree.isElement, Tree.isOneOf_of_unnamed unnamed] at element
      cases element
    · intro node survived _ element
      rw [Tree.isElement, isOneOf_kept node (by decide)] at element
      exact none ⟨node, survived, element⟩
  rw [silent] at markup
  cases markup

end News

/-- Whether a pass finds work in what is left of a document without its types. -/
def Wanted (document : Document) (pass : Pass) : Prop :=
  ∃ left, bare document.root = some left ∧ (pass.plan (document.rooted left)).edits ≠ []

/-- What a parser is relied on for: a whole module of tidy nodes, with types only where no pass looks. -/
structure Regular (document : Document) : Prop where
  program : document.root.isKind .program = true
  clean : document.root.AllTidy
  left : ∀ left ∈ bare document.root, left.AllTidy
  placed : ∀ node ∈ survivors document.root, Placed node
  exported : ∀ statement ∈ document.root.namedChildren, statement.isKind .exportStatement = true →
    isGone statement = true → (exportedFunction? document statement).isNone = true

instance (document : Document) : Decidable (Regular document) :=
  decidable_of_iff
    (document.root.isKind .program = true ∧ document.root.AllTidy ∧
      (∀ left ∈ bare document.root, left.AllTidy) ∧
      (∀ node ∈ survivors document.root, Placed node) ∧
      ∀ statement ∈ document.root.namedChildren, statement.isKind .exportStatement = true →
        isGone statement = true → (exportedFunction? document statement).isNone = true)
    ⟨fun ⟨program, clean, left, placed, exported⟩ => ⟨program, clean, left, placed, exported⟩,
      fun regular =>
        ⟨regular.program, regular.clean, regular.left, regular.placed, regular.exported⟩⟩

/-- The text without types looks to the passes like the tree without types. -/
structure LooksBare (parse : Parse) (source : String) : Prop where
  before : Regular (reviewed parse source)
  after : (reviewed parse (eraseTypes parse source)).root.AllTidy
  same : (bare (reviewed parse source).root).map
      (fun left => ((reviewed parse source).rooted left).impression left) =
    some ((reviewed parse (eraseTypes parse source)).impression
      (reviewed parse (eraseTypes parse source)).root)

section Settling

variable {parse : Parse} {source : String}

/-- Only a source that can be parsed changes without its types. -/
theorem readable_of_erased (erased : eraseTypes parse source ≠ source) :
    (reviewed parse source).hasErrors = false := by
  cases erroneous : (reviewed parse source).hasErrors with
  | false => rfl
  | true =>
    refine absurd ?_ erased
    rw [eraseTypes]
    exact if_pos erroneous

theorem exists_alike_of_looksBare (looks : LooksBare parse source) :
    ∃ left, bare (reviewed parse source).root = some left ∧
      Alike ((reviewed parse source).rooted left) (reviewed parse (eraseTypes parse source)) left
        (reviewed parse (eraseTypes parse source)).root := by
  obtain ⟨left, erased, same⟩ := Option.map_eq_some_iff.1 looks.same
  exact ⟨left, erased, same, looks.before.left left erased, looks.after⟩

/-- A pass finds work in the text without types if and only if it is wanted. -/
theorem wanted_iff (looks : LooksBare parse source) {pass : Pass} (member : pass ∈ passes) :
    Wanted (reviewed parse source) pass ↔
      (pass.plan (reviewed parse (eraseTypes parse source))).edits ≠ [] := by
  obtain ⟨left, erased, alike⟩ := exists_alike_of_looksBare looks
  have same := plan_eq_nil_iff alike member
  constructor
  · rintro ⟨other, erased', wanted⟩
    obtain rfl : left = other := Option.some.inj (erased.symm.trans erased')
    exact mt same.2 wanted
  · intro needed
    exact ⟨left, erased, mt same.1 needed⟩

/-- What is left of a document without errors has none. -/
theorem readable_of_looksBare (looks : LooksBare parse source)
    (readable : (reviewed parse source).hasErrors = false) :
    (reviewed parse (eraseTypes parse source)).hasErrors = false := by
  obtain ⟨left, erased, alike⟩ := exists_alike_of_looksBare looks
  rw [Document.hasErrors, ← alike.hasError_eq, Tree.hasError, List.any_eq_false]
  refine (forall_left_iff erased ?_ ?_).2 ?_
  · intro role tree
    rw [Tree.isKind, Tree.isKind, Tree.kind_inRole]
  · intro tree unnamed error
    rw [Tree.isKind_of_unnamed unnamed] at error
    cases error
  · intro node survived _ error
    rw [isKind_kept node (by decide)] at error
    exact List.any_eq_false.1 readable node (survivors_subset_preorder _ survived) error

theorem idle_of_quiet {document : Document} {pass : Pass} (quiet : (pass.plan document).edits = []) :
    Idle parse document pass := by
  rw [Idle, quiet]
  rfl

theorem fixes_eq_nil_iff : (repair parse source).fixes = [] ↔
    Settled parse (Preamble.split source).body := by
  rw [← repair_eq_self_iff]
  constructor
  · exact repair_of_fixes_eq_nil
  · intro same
    rw [same]

/-- What settles a text without types: none of the passes that are wanted comes to anything. -/
theorem settled_iff (looks : LooksBare parse source)
    (readable : (reviewed parse source).hasErrors = false) :
    Settled parse (Preamble.split (eraseTypes parse source)).body ↔
      ∀ pass ∈ passes, Wanted (reviewed parse source) pass →
        Idle parse (reviewed parse (eraseTypes parse source)) pass := by
  have readable' := readable_of_looksBare looks readable
  rw [Settled, ← reviewed, or_iff_right (by rw [readable']; decide)]
  constructor
  · intro idle pass member _
    exact idle pass member
  · intro idle pass member
    by_cases wanted : Wanted (reviewed parse source) pass
    · exact idle pass member wanted
    · rw [wanted_iff looks member, not_not] at wanted
      exact idle_of_quiet wanted

end Settling

section Regular

variable {document : Document} (regular : Regular document)
include regular

theorem eventHandlers_of_wanted (wanted : Wanted document eventHandlers) :
    (eventHandlers.plan document).edits ≠ [] := by
  obtain ⟨left, erased, needed⟩ := wanted
  exact mt (eventHandlers_of_bare regular.clean erased) needed

theorem imports_gone_of_wanted (wanted : Wanted document ensureBaseImport) :
    (∃ node ∈ survivors document.root, node.isElement = true) ∧
      ∀ statement ∈ document.root.namedChildren,
        isLibraryImport document statement = true → isGone statement = true := by
  obtain ⟨left, erased, needed⟩ := wanted
  rw [Ne, ensureBaseImport_eq_nil_iff, not_or, Bool.not_eq_false, Bool.not_eq_true] at needed
  refine ⟨exists_element_of_bare erased needed.1, fun statement member imports => ?_⟩
  cases gone : isGone statement with
  | true => rfl
  | false =>
    have stays := importsBase_of_bare regular.clean regular.program erased member imports gone
    rw [needed.2] at stays
    cases stays

theorem bared_of_uncast (uncast : Uncast document.root) {left : Tree}
    (erased : bare document.root = some left) : Bared document.root left :=
  ⟨erased, uncast, regular.clean, regular.left left erased, regular.placed⟩

/-- Where there are no casts, no key and no declaration is out of order that was in order before. -/
theorem plan_of_wanted (uncast : Uncast document.root) {pass : Pass}
    (member : pass ∈ [hoistDeclarations, listKeys]) (wanted : Wanted document pass) :
    (pass.plan document).edits ≠ [] := by
  obtain ⟨left, erased, needed⟩ := wanted
  have bared := bared_of_uncast regular uncast erased
  simp only [List.mem_cons, List.not_mem_nil, or_false] at member
  rcases member with rfl | rfl
  · exact mt (hoistDeclarations_of_uncast bared regular.exported).1 needed
  · exact mt (listKeys_of_uncast bared) needed

end Regular

/-- A source that needs no repair needs none without its types if and only if it has none, or no pass that
finds work in the tree without types comes to anything on the text. A handler's name is never found that was
not found before. An import of the library is only missing where each was one of types. Where there are no
casts, no key and no declaration is out of order that was not out of order before. -/
theorem repair_eraseTypes_iff (parse : Parse) (source : String)
    (quiet : (repair parse source).fixes = [])
    (looks : eraseTypes parse source ≠ source → LooksBare parse source) :
    ((repair parse (eraseTypes parse source)).fixes = [] ↔
      eraseTypes parse source = source ∨
        ∀ pass ∈ passes, Wanted (reviewed parse source) pass →
          Idle parse (reviewed parse (eraseTypes parse source)) pass) ∧
    (eraseTypes parse source ≠ source →
      (Wanted (reviewed parse source) eventHandlers →
        (eventHandlers.plan (reviewed parse source)).edits ≠ []) ∧
      (Wanted (reviewed parse source) ensureBaseImport →
        (∃ node ∈ survivors (reviewed parse source).root, node.isElement = true) ∧
        ∀ statement ∈ (reviewed parse source).root.namedChildren,
          isLibraryImport (reviewed parse source) statement = true → isGone statement = true) ∧
      (Uncast (reviewed parse source).root →
        ∀ pass ∈ [hoistDeclarations, listKeys], Wanted (reviewed parse source) pass →
          (pass.plan (reviewed parse source)).edits ≠ [])) := by
  constructor
  · by_cases unchanged : eraseTypes parse source = source
    · rw [unchanged]
      exact iff_of_true quiet (.inl rfl)
    · rw [fixes_eq_nil_iff, settled_iff (looks unchanged) (readable_of_erased unchanged)]
      simp only [unchanged, false_or]
  · intro changed
    have regular := (looks changed).before
    refine ⟨eventHandlers_of_wanted regular, imports_gone_of_wanted regular, ?_⟩
    intro uncast pass member wanted
    exact plan_of_wanted regular uncast member wanted

/-- An import of types stands for an import of the library; casts hide an element that is mapped to, and a
function that is exported. -/
def veiledNeeds : List String :=
  ["import type R from 'react';\n<a/>;\n", "import 'react';\nxs.map(x => <li/> as T);\n",
    "let n;\nexport default (() => n)!;\n"]

theorem veiledNeeds_repaired_later :
    (∀ source ∈ veiledNeeds, (repair Syntax.parse source).fixes = []) ∧
      veiledNeeds.map (fun source => (repair Syntax.parse (eraseTypes Syntax.parse source)).fixes) =
        [["Added missing React import"], ["Added key to <li> rendered by map()"],
          ["Hoisted top-level let declaration of n into default"]] := by
  decide +kernel

def annotatedMarkup : String := "import 'react';\nlet b: T = <a/>;\n"

def plainMarkup : String := "import 'react';\nlet b = <a/>;\n"

theorem eraseTypes_annotatedMarkup : eraseTypes Syntax.parse annotatedMarkup = plainMarkup := by
  decide +kernel

theorem looksBare_annotatedMarkup : LooksBare Syntax.parse annotatedMarkup := by
  have before : Regular (reviewed Syntax.parse annotatedMarkup) := by decide +kernel
  have after : (reviewed Syntax.parse plainMarkup).root.AllTidy := by decide +kernel
  have same : (bare (reviewed Syntax.parse annotatedMarkup).root).map
        (fun left => ((reviewed Syntax.parse annotatedMarkup).rooted left).impression left) =
      some ((reviewed Syntax.parse plainMarkup).impression (reviewed Syntax.parse plainMarkup).root) := by
    decide +kernel
  rw [← eraseTypes_annotatedMarkup] at after same
  exact ⟨before, after, same⟩

theorem annotatedMarkup_fixes_iff :
    (repair Syntax.parse annotatedMarkup).fixes = [] ∧ LooksBare Syntax.parse annotatedMarkup ∧
      eraseTypes Syntax.parse annotatedMarkup = plainMarkup ∧
      ((repair Syntax.parse (eraseTypes Syntax.parse annotatedMarkup)).fixes = [] ↔
        eraseTypes Syntax.parse annotatedMarkup = annotatedMarkup ∨
          ∀ pass ∈ passes, Wanted (reviewed Syntax.parse annotatedMarkup) pass →
            Idle Syntax.parse (reviewed Syntax.parse (eraseTypes Syntax.parse annotatedMarkup)) pass) := by
  have quiet : (repair Syntax.parse annotatedMarkup).fixes = [] := by decide +kernel
  exact ⟨quiet, looksBare_annotatedMarkup, eraseTypes_annotatedMarkup,
    (repair_eraseTypes_iff _ _ quiet fun _ => looksBare_annotatedMarkup).1⟩

end Erasure

end ComponentGate
