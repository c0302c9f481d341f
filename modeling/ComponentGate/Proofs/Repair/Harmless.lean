import ComponentGate.Proofs.Repair.Naming
import ComponentGate.Proofs.Repair.Plans
import ComponentGate.Proofs.Repair.Prospect
import ComponentGate.Proofs.Review.Allowed

/-! What the passes put into a tree. The declarations that move, the keys and the names for a position
bring nothing that a blocking rule objects to; only the import is a matter of the policy. -/

namespace ComponentGate

open Syntax

section Parts

variable {policy : Policy}

theorem sight_inRole_outline (role : Option Role) (outline : Outline) :
    (outline.inRole role).sight = outline.sight := by
  obtain ⟨symbol, own, text, children⟩ := outline
  have dotted : (Outline.node symbol role text children).dotted? =
      (Outline.node symbol own text children).dotted? := by
    rw [Outline.dotted_eq, Outline.dotted_eq]
    rfl
  simp only [Outline.inRole, Outline.sight, dotted]
  rfl

theorem children_inRole (role : Option Role) (outline : Outline) :
    (outline.inRole role).children = outline.children := by
  cases outline
  rfl

@[simp] theorem allowed_inRole_iff {role : Option Role} {outline : Outline} :
    (outline.inRole role).Allowed policy ↔ outline.Allowed policy := by
  rw [Outline.allowed_iff, Outline.allowed_iff, sight_inRole_outline, children_inRole]

/-- A construct without a name, into which no rule looks, is allowed if its parts are. -/
theorem allowed_part {kind : Kind} {children : List Outline} (outside : kind ∉ .error :: searchedKinds)
    (below : ∀ part ∈ children, part.Allowed policy) : (Outline.part kind children).Allowed policy := by
  rw [List.mem_cons, not_or] at outside
  refine Outline.allowed_of_unsearched ?_ ?_ rfl below
  · simpa [Outline.part, Outline.kind?, Outline.symbol] using outside.2
  · simpa [Outline.part, Outline.kind?, Outline.symbol] using outside.1

theorem allowed_named {name : String} (common : name ∉ Rule.privilegedGlobals) :
    (Outline.named name).Allowed policy := by
  refine Outline.allowed_of_unsearched rfl nofun ?_ nofun
  simpa [Outline.named, Outline.text] using common

end Parts

namespace Repair

open Outline

variable {document : Document} {policy : Policy}

/-- Whether nothing in a document is refused. -/
def AllAllowed (document : Document) (policy : Policy) : Prop :=
  ∀ node ∈ document.root.preorder, ¬Refused document policy node

section Hoisting

theorem allowed_answering {moved : List Outline} {value : Outline}
    (others : ∀ part ∈ moved, part.Allowed policy) (own : value.Allowed policy) :
    (answering moved value).Allowed policy := by
  rw [answering, allowed_inRole_iff]
  apply allowed_part (by decide)
  intro part member
  rcases List.mem_append.1 member with before | last
  · exact others part before
  · obtain rfl := List.mem_singleton.1 last
    apply allowed_part (by decide)
    intro part member
    obtain rfl := List.mem_singleton.1 member
    exact allowed_inRole_iff.2 own

theorem harmless_hoistGraft (allowed : AllAllowed document policy) :
    (hoistGraft document).Harmless policy := by
  have moved : ∀ part ∈ (document.root.namedChildren.filter (·.isDeclaration)).map document.sketch,
      part.Allowed policy := by
    intro part member
    obtain ⟨declaration, kept, rfl⟩ := List.mem_map.1 member
    have child : declaration ∈ document.root.children :=
      (List.mem_filter.1 (List.mem_filter.1 kept).1).1
    apply allowed_grafted telling_isTold (Graft.harmless_none policy)
    intro node below
    exact allowed node (Tree.preorder_subset_of_mem_children child below)
  intro tree below fine part member
  simp only [hoistGraft] at member
  split at member
  · exact fine part (List.mem_filter.1 member).1
  split at member
  · rcases List.mem_append.1 member with added | old
    · exact moved part added
    · exact fine part old
  split at member
  · obtain ⟨old, present, rfl⟩ := List.mem_map.1 member
    split
    · exact allowed_answering moved (fine old present)
    · exact fine old present
  · exact fine part member

end Hoisting

section Keys

theorem mem_withKey {name : String} {below : List Outline} {part : Outline}
    (member : part ∈ withKey name below) : part = keyPart name ∨ part ∈ below := by
  rw [withKey.eq_def] at member
  split at member
  · split at member
    · simp only [List.mem_cons] at member ⊢
      grind
    · simp only [List.mem_cons] at member ⊢
      grind
  · simp only [List.mem_append, List.mem_singleton] at member
    exact member.symm

theorem allowed_keyPart {name : String} (common : name ∉ Rule.privilegedGlobals) :
    (keyPart name).Allowed policy := by
  have name : (named name).Allowed policy := allowed_named common
  have fragment : (part .stringFragment []).Allowed policy := allowed_part (by decide) nofun
  have identifier : (part .propertyIdentifier []).Allowed policy := allowed_part (by decide) nofun
  refine allowed_part (by decide) (List.forall_mem_cons.2 ⟨identifier, List.forall_mem_singleton.2 ?_⟩)
  refine allowed_part (by decide) (List.forall_mem_singleton.2 ?_)
  refine allowed_part (by decide) (List.forall_mem_cons.2 ⟨fragment, List.forall_mem_singleton.2 ?_⟩)
  exact allowed_part (by decide) (List.forall_mem_singleton.2 name)

theorem allowed_parameterPart {name : Outline} {more : List Outline} (own : name.Allowed policy)
    (others : ∀ part ∈ more, part.Allowed policy) : (parameterPart name more).Allowed policy :=
  allowed_part (by decide) (List.forall_mem_cons.2 ⟨allowed_inRole_iff.2 own, others⟩)

theorem allowed_numberPart : numberPart.Allowed policy := by
  rw [numberPart, allowed_inRole_iff]
  exact allowed_part (by decide) (List.forall_mem_singleton.2 (allowed_part (by decide) nofun))

theorem allowed_of_mem_withPosition {parameters : Tree} {name : String} {below : List Outline}
    (common : name ∉ Rule.privilegedGlobals) (fine : ∀ part ∈ below, part.Allowed policy) :
    ∀ part ∈ withPosition parameters name below, part.Allowed policy := by
  have position (more : List Outline) (others : ∀ part ∈ more, part.Allowed policy) :
      (parameterPart (named name) more).Allowed policy :=
    allowed_parameterPart (allowed_named common) others
  rw [withPosition]
  split
  · have item : (parameterPart (named "_item") []).Allowed policy :=
      allowed_parameterPart (allowed_named (by decide)) nofun
    exact List.forall_mem_append.2
      ⟨fine, List.forall_mem_cons.2 ⟨item, List.forall_mem_singleton.2 (position [] nofun)⟩⟩
  · refine List.forall_mem_append.2 ⟨fine, List.forall_mem_singleton.2 (position _ ?_)⟩
    split
    · exact List.forall_mem_singleton.2 allowed_numberPart
    · exact nofun
  · exact fine

theorem allowed_listed {name : String} {bare : Outline} (common : name ∉ Rule.privilegedGlobals)
    (own : bare.Allowed policy) : (listed name bare).Allowed policy := by
  rw [listed, allowed_inRole_iff]
  apply allowed_part (by decide)
  exact List.forall_mem_cons.2 ⟨allowed_parameterPart own nofun,
    List.forall_mem_singleton.2 (allowed_parameterPart (allowed_named common) nofun)⟩

theorem harmless_keying {keying : Keying} (common : keying.name ∉ Rule.privilegedGlobals) :
    keying.graft.Harmless policy := by
  intro tree below fine part member
  rw [Keying.graft] at member
  split at member
  · rcases mem_withKey member with rfl | old
    · exact allowed_keyPart common
    · exact fine part old
  split at member
  · obtain ⟨old, present, rfl⟩ := List.mem_map.1 member
    split
    · exact allowed_listed common (fine old present)
    · exact fine old present
  split at member
  · exact allowed_of_mem_withPosition common fine part member
  · exact fine part member

theorem text_not_privileged {node : Tree} (allowed : AllAllowed document policy)
    (visited : node ∈ document.root.preorder) (identifier : node.isKind .identifier = true) :
    document.text node ∉ Rule.privilegedGlobals := by
  have kind : node.kind? = some .identifier := by simpa [Tree.isKind] using identifier
  have outside : node.isOneOf searchedKinds = false := by
    rw [Tree.isOneOf, kind]
    decide
  have bare : node.isOneOf bareNameKinds = true := by
    rw [Tree.isOneOf, kind]
    decide
  intro privileged
  apply allowed node visited
  apply (refused_iff_of_unsearched outside).2
  right
  rw [Document.sight, if_pos bare]
  simpa using privileged

theorem position_not_privileged {callback : Tree} {position : PositionName}
    (allowed : AllAllowed document policy) (visited : callback ∈ document.root.preorder)
    (found : position? document callback = some position) :
    position.name ∉ Rule.privilegedGlobals := by
  have others : ∀ name ∈ Rule.privilegedGlobals, name.toList.head? ≠ some 'i' := by decide
  rcases fresh_or_text_of_position visited found with
    ⟨taken, fresh⟩ | ⟨node, present, identifier, old⟩
  · intro privileged
    rw [fresh] at privileged
    exact others _ privileged (head_freshName taken)
  · rw [old]
    exact text_not_privileged allowed present identifier

theorem harmless_keyGraft (allowed : AllAllowed document policy) :
    (keyGraft document).Harmless policy := by
  apply Graft.harmless_foldl
  intro keying member
  obtain ⟨call, kept, made⟩ := List.mem_filterMap.1 member
  have visited : call ∈ document.root.preorder := by
    rw [← Tree.nodes_eq_preorder]
    exact (List.mem_filter.1 kept).1
  simp only [keying?, Option.bind_eq_bind, Option.bind_eq_some_iff] at made
  obtain ⟨callback, mapped, element, answered, tag, tagged, made⟩ := made
  split at made
  · cases made
  obtain ⟨position, placed, made⟩ := Option.bind_eq_some_iff.1 made
  cases made
  exact harmless_keying
    (position_not_privileged allowed (mem_preorder_of_mapCallback visited mapped) placed)

end Keys

section BaseImport

theorem eq_importPolicy_of_mem {rule : Rule} (member : rule ∈ Rule.blocking)
    (inspected : Kind.importStatement ∈ rule.kinds) : rule = Rule.importPolicy := by
  have listed : Rule.importPolicy ∈ Rule.blocking := by simp [Rule.blocking_eq]
  have others : ∀ other ∈ Rule.blocking, other.name ≠ Rule.importPolicy.name →
      Kind.importStatement ∉ other.kinds := by
    rw [Rule.blocking_eq]
    decide
  by_cases name : rule.name = Rule.importPolicy.name
  · exact Rule.eq_of_name member listed name
  · exact absurd inspected (others rule member name)

/-- An import is refused if and only if the policy does not allow what it loads. -/
theorem refused_import_iff {node : Tree} {specifier : String}
    (kind : node.kind? = some .importStatement) (loads : document.specifier? node = some specifier) :
    Refused document policy node ↔ Specifier.isAllowed policy specifier = false := by
  constructor
  · rintro (error | ⟨rule, member, inspected, message, said⟩)
    · simp [Tree.isKind, kind] at error
    · have listed : Kind.importStatement ∈ rule.kinds := by
        simpa [Tree.isOneOf, kind] using inspected
      obtain rfl := eq_importPolicy_of_mem member listed
      by_cases free : Specifier.isAllowed policy specifier = true
      · simp [Rule.importPolicy, Place.ofRoot, loads, free] at said
      · simpa using free
  · intro forbidden
    refine .inr ⟨Rule.importPolicy, by simp [Rule.blocking_eq], ?_,
      Specifier.violation policy specifier, ?_⟩
    · simp [Tree.isOneOf, kind, Rule.importPolicy, loadingKinds]
    · simp [Rule.importPolicy, Place.ofRoot, loads, forbidden]

theorem kind_of_importPart {node : Tree} (same : document.sight node = importPart.sight) :
    node.kind? = some .importStatement :=
  congrArg Sight.kind same

theorem specifier_of_importPart {node : Tree} (same : document.sight node = importPart.sight) :
    document.specifier? node = some baseLibrary := by
  have specifier := congrArg Sight.specifier same
  have shown : importPart.sight.specifier = some baseLibrary := by decide +kernel
  exact specifier.trans shown

theorem allowed_importPart (free : Specifier.isAllowed policy baseLibrary = true) :
    importPart.Allowed policy := by
  refine Outline.allowed_iff.2 ⟨?_, ?_⟩
  · rintro ⟨document, node, same, refused⟩
    rw [refused_import_iff (kind_of_importPart same) (specifier_of_importPart same), free] at refused
    cases refused
  · have fragment : (part .stringFragment []).Allowed policy := allowed_part (by decide) nofun
    have clause : (part .importClause [named "React"]).Allowed policy :=
      allowed_part (by decide) (List.forall_mem_singleton.2 (allowed_named (by decide)))
    refine List.forall_mem_cons.2 ⟨clause, List.forall_mem_singleton.2 ?_⟩
    exact Outline.allowed_of_unsearched rfl nofun (by decide) (List.forall_mem_singleton.2 fragment)

theorem harmless_importGraft (free : Specifier.isAllowed policy baseLibrary = true) :
    (importGraft document).Harmless policy := by
  intro tree below fine part member
  rw [importGraft] at member
  split at member
  · rcases List.mem_append.1 member with before | behind
    · exact fine part (List.mem_of_mem_take before)
    · rcases List.mem_cons.1 behind with rfl | old
      · exact allowed_importPart free
      · exact fine part (List.mem_of_mem_drop old)
  · exact fine part member

end BaseImport

end Repair

end ComponentGate
