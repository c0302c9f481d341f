import ComponentGate.Proofs.Repair.Moving

/-! Shifting the lines of a declaration. What is put in stands behind line feeds, so that a literal keeps its
text where none of its own line feeds gets anything. Template strings keep theirs; a string literal that goes
over several lines does not, unless a template string is around it. -/

namespace ComponentGate

open Syntax Preamble Document

namespace Repair

section Lines

/-- Characters from `offset` on, in front of `behind`, with what indents a line behind each line feed; lines
that are blank, or begin at a place that is `kept`, get nothing. -/
def shifted (indent : List Char) (kept : Nat → Bool) : Nat → List Char → List Char → List Char
  | _, [], _ => []
  | offset, c :: rest, behind =>
    let line := (rest ++ behind).takeWhile (· ≠ '\n')
    let still := c ≠ '\n' || kept (offset + 1) || line.all Text.isBlank
    c :: ((if still then [] else indent) ++
      shifted indent kept (offset + c.utf8Size) rest behind)

variable {indent : List Char} {kept : Nat → Bool}

theorem splitAt_eq (separator : Char) (text : List Char) :
    ∃ more, Text.splitAt separator text = text.takeWhile (· ≠ separator) :: more := by
  induction text with
  | nil => exact ⟨[], rfl⟩
  | cons c rest ih =>
    obtain ⟨more, parts⟩ := ih
    rw [Text.splitAt]
    by_cases ends : c = separator
    · rw [if_pos ends]
      exact ⟨Text.splitAt separator rest, by simp [ends]⟩
    · rw [if_neg ends, parts]
      exact ⟨more, by simp [ends]⟩

theorem toList_intercalate_lineFeed (first : String) (lines : List String) :
    ("\n".intercalate (first :: lines)).toList =
      first.toList ++ lines.flatMap fun line => '\n' :: line.toList := by
  induction lines generalizing first with
  | nil => simp
  | cons second rest ih =>
    rw [String.intercalate_cons_cons, String.toList_append, String.toList_append, ih, List.flatMap_cons,
      List.append_assoc]
    rfl

/-- Shifting lines is putting something behind line feeds. -/
theorem toList_shiftLines (indent : String) (literals : List (Nat × Nat)) (offset : Nat)
    (text : List Char) {first : List Char} {rest : List (List Char)}
    (lines : Text.splitAt '\n' text = first :: rest) :
    (first ++ (shiftLines indent literals (offset + (encoded first).length + 1) rest).flatMap
        fun line => '\n' :: line.toList) =
      shifted indent.toList
        (fun place => literals.any fun range => range.1 < place && place < range.2) offset text [] := by
  induction text generalizing offset first rest with
  | nil =>
    cases lines
    rfl
  | cons c text ih =>
    obtain ⟨more, parts⟩ := splitAt_eq '\n' text
    rw [Text.splitAt] at lines
    by_cases ends : c = '\n'
    · rw [if_pos ends, parts] at lines
      obtain ⟨rfl, rfl⟩ := List.cons.inj lines
      have below := ih (offset + 1) parts
      have width : c.utf8Size = 1 := by
        rw [ends]
        rfl
      have breaks : decide (c ≠ '\n') = false := by simp [ends]
      have none : (encoded []).length = 0 := rfl
      rw [shifted, width, ← below, List.append_nil, breaks, Bool.false_or, shiftLines, List.flatMap_cons,
        utf8ByteSize_ofList, ends, List.nil_append, none, Nat.add_zero]
      cases (literals.any fun range => decide (range.1 < offset + 1) && decide (offset + 1 < range.2)) ||
          (text.takeWhile (fun x => decide (x ≠ '\n'))).all Text.isBlank with
      | true =>
        rw [if_pos rfl, if_pos rfl, String.toList_ofList]
        rfl
      | false =>
        rw [if_neg Bool.false_ne_true, if_neg Bool.false_ne_true, String.toList_append,
          String.toList_ofList, List.cons_append, List.append_assoc]
    · rw [if_neg ends, parts] at lines
      obtain ⟨rfl, rfl⟩ := List.cons.inj lines
      have below := ih (offset + c.utf8Size) parts
      have still : decide (c ≠ '\n') = true := decide_eq_true ends
      rw [shifted, still, Bool.true_or, Bool.true_or, if_pos rfl, ← below, length_encoded_cons,
        ← Nat.add_assoc offset]
      rfl

theorem shifted_append (indent : List Char) (kept : Nat → Bool) (offset : Nat)
    (first second behind : List Char) :
    shifted indent kept offset (first ++ second) behind =
      shifted indent kept offset first (second ++ behind) ++
        shifted indent kept (offset + (encoded first).length) second behind := by
  induction first generalizing offset with
  | nil => rfl
  | cons c rest ih =>
    rw [List.cons_append, shifted, shifted, ih, length_encoded_cons, Nat.add_assoc, List.append_assoc,
      List.cons_append, List.append_assoc]

theorem length_le_length_shifted (indent : List Char) (kept : Nat → Bool) (offset : Nat)
    (chars behind : List Char) :
    chars.length ≤ (shifted indent kept offset chars behind).length := by
  induction chars generalizing offset with
  | nil => exact Nat.zero_le _
  | cons c rest ih =>
    have shorter := ih (offset + c.utf8Size)
    rw [shifted, List.length_cons, List.length_cons, List.length_append]
    omega

/-- Where every line that begins among some characters is kept, they stay as they are. -/
theorem shifted_of_kept {offset : Nat} {chars behind : List Char}
    (still : ∀ front back, chars = front ++ '\n' :: back →
      kept (offset + (encoded front).length + 1) = true) :
    shifted indent kept offset chars behind = chars := by
  induction chars generalizing offset with
  | nil => rfl
  | cons c rest ih =>
    have below : shifted indent kept (offset + c.utf8Size) rest behind = rest := by
      apply ih
      intro front back parts
      have later := still (c :: front) back (by rw [parts, List.cons_append])
      rwa [length_encoded_cons, ← Nat.add_assoc] at later
    rw [shifted, below]
    by_cases ends : c = '\n'
    · have first := still [] rest (by rw [ends, List.nil_append])
      have none : (encoded []).length = 0 := rfl
      rw [none, Nat.add_zero] at first
      rw [first, Bool.or_true, Bool.true_or, if_pos rfl, List.nil_append]
    · rw [decide_eq_true ends, Bool.true_or, Bool.true_or, if_pos rfl, List.nil_append]

theorem shifted_nil (offset : Nat) (chars behind : List Char) :
    shifted [] kept offset chars behind = chars := by
  induction chars generalizing offset with
  | nil => rfl
  | cons c rest ih => rw [shifted, ih, ite_self, List.nil_append]

/-- A line feed gets something behind it where the line that follows is not blank and not kept. -/
theorem indent_eq_nil_of_shifted {offset : Nat} {front back behind : List Char}
    (moved : kept (offset + (encoded front).length + 1) = false)
    (shows : ((back ++ behind).takeWhile (· ≠ '\n')).all Text.isBlank = false)
    (same : shifted indent kept offset (front ++ '\n' :: back) behind = front ++ '\n' :: back) :
    indent = [] := by
  have breaks : decide ('\n' ≠ '\n') = false := by decide
  rw [shifted_append, shifted, moved, shows, breaks] at same
  have lengths := congrArg List.length same
  have one := length_le_length_shifted indent kept offset front
    ('\n' :: back ++ behind)
  have two := length_le_length_shifted indent kept
    (offset + (encoded front).length + ('\n').utf8Size) back behind
  simp only [Bool.or_self, Bool.false_eq_true, if_false, List.length_append, List.length_cons] at lengths
  have three : indent.length = 0 := by omega
  exact List.length_eq_zero_iff.1 three

/-- What ends with a mark that shows ends with a line that shows. -/
theorem exists_last_line {chars : List Char} (breaks : '\n' ∈ chars)
    (closed : (chars.getLast?.any fun c => !Text.isBlank c) = true) :
    ∃ front back, chars = front ++ '\n' :: back ∧
      ∀ behind, ((back ++ behind).takeWhile (· ≠ '\n')).all Text.isBlank = false := by
  induction chars with
  | nil => cases breaks
  | cons c rest ih =>
    by_cases later : '\n' ∈ rest
    · have last : (c :: rest).getLast? = rest.getLast? :=
        List.getLast?_cons_of_ne_nil (List.ne_nil_of_mem later)
      obtain ⟨front, back, parts, shows⟩ := ih later (last ▸ closed)
      exact ⟨c :: front, back, by rw [parts, List.cons_append], shows⟩
    · obtain rfl : '\n' = c := by simpa [later] using breaks
      obtain ⟨last, found, shows⟩ := (Option.any_eq_true _ _).1 closed
      have filled : rest ≠ [] := by
        rintro rfl
        cases found
        exact absurd shows (by decide)
      rw [List.getLast?_cons_of_ne_nil filled] at found
      refine ⟨[], rest, rfl, fun behind => ?_⟩
      have whole : ∀ c ∈ rest, decide (c ≠ '\n') = true :=
        fun c member => decide_eq_true fun same => later (same ▸ member)
      rw [List.takeWhile_append_of_pos whole, List.all_append, List.all_eq_false.2, Bool.false_and]
      exact ⟨last, List.mem_of_getLast? found, by simpa using shows⟩

end Lines

section Literals

/-- String literals, those of attributes among them, and template strings. -/
def isLiteral (tree : Tree) : Bool := tree.isOneOf [.string, .templateString]

/-- What a parser is relied on for: a literal ends with its mark, which is no blank, and no template string
stands inside a string literal. -/
structure Quoted (document : Document) : Prop where
  closed : ∀ node ∈ document.root.preorder, isLiteral node = true →
    ((document.text node).toList.getLast?.any fun c => !Text.isBlank c) = true
  flat : ∀ node ∈ document.root.preorder, node.isKind .string = true →
    ∀ inner ∈ node.preorder, inner.isKind .templateString = false

instance (document : Document) : Decidable (Quoted document) :=
  decidable_of_iff (∀ node ∈ document.root.preorder,
      (isLiteral node = true →
        ((document.text node).toList.getLast?.any fun c => !Text.isBlank c) = true) ∧
      (node.isKind .string = true → ∀ inner ∈ node.preorder, inner.isKind .templateString = false))
    ⟨fun quoted =>
        ⟨fun node visited => (quoted node visited).1, fun node visited => (quoted node visited).2⟩,
      fun quoted node visited => ⟨quoted.closed node visited, quoted.flat node visited⟩⟩

/-- Whether a line that begins at an offset stays where it is: inside a template string of `tree`. -/
def keepsLine (tree : Tree) (offset : Nat) : Bool :=
  ((tree.nodes.filter (·.isKind .templateString)).map fun node => (node.start, node.stop)).any
    fun range => range.1 < offset && offset < range.2

variable {text : String} {document : Document} {tree literal : Tree} {indent : String}

theorem keepsLine_iff (tree : Tree) (offset : Nat) :
    keepsLine tree offset = true ↔
      ∃ node ∈ tree.preorder, node.isKind .templateString = true ∧ node.start < offset ∧
        offset < node.stop := by
  simp only [keepsLine, Tree.nodes_eq_preorder, List.any_map, List.any_eq_true, List.mem_filter,
    Function.comp_apply, Bool.and_eq_true, decide_eq_true_eq, and_assoc]

theorem toList_reindented (document : Document) (tree : Tree) (indent : String) :
    (reindented document tree indent).toList =
      indent.toList ++
        shifted indent.toList (keepsLine tree) tree.start (document.text tree).toList [] := by
  obtain ⟨rest, lines⟩ := splitAt_eq '\n' (document.text tree).toList
  have own := toList_shiftLines indent
    ((tree.nodes.filter (·.isKind .templateString)).map fun node => (node.start, node.stop))
    tree.start (document.text tree).toList lines
  rw [reindented, Text.splitAtLineFeeds, lines]
  dsimp only
  rw [toList_intercalate_lineFeed, String.toList_append, String.toList_ofList, utf8ByteSize_ofList,
    List.append_assoc, own]
  rfl

theorem length_encoded_textBetween (laid : LaidOut text document) {start stop : Nat}
    (one : Cuttable text start) (two : Cuttable text stop) (forward : start ≤ stop) :
    (encoded (document.textBetween start stop).toList).length = stop - start := by
  have within := two.le_size
  rw [← bytesOf_eq_encoded, bytesOf_textBetween_of_cuttable laid.read one two forward, List.length_drop,
    List.length_take, content, Array.length_toList, laid.read]
  change min stop text.toUTF8.size - start = stop - start
  rw [Nat.min_eq_left within]

/-- What becomes of a part of a declaration when its lines are shifted. -/
def shiftedPart (document : Document) (indent : String) (tree : Tree) (start stop : Nat) : List Char :=
  shifted indent.toList (keepsLine tree) start (document.textBetween start stop).toList
    (document.textBetween stop tree.stop).toList

/-- Shifting a declaration's lines shifts what stands before a literal, the literal, and what stands behind
it. -/
theorem toList_reindented_around (laid : LaidOut text document) (visited : tree ∈ document.root.preorder)
    (below : literal ∈ tree.preorder) (indent : String) :
    (reindented document tree indent).toList =
      indent.toList ++ shiftedPart document indent tree tree.start literal.start ++
        shiftedPart document indent tree literal.start literal.stop ++
          shiftedPart document indent tree literal.stop tree.stop := by
  have reached := Tree.preorder_subset_of_mem_preorder visited below
  obtain ⟨one, four⟩ := laid.cuts tree visited
  obtain ⟨two, three⟩ := laid.cuts literal reached
  have bounds := laid.inside visited below
  have forward := laid.forward literal reached
  have width := length_encoded_textBetween laid one two bounds.1
  have width' := length_encoded_textBetween laid two three forward
  have nothing : (document.textBetween tree.stop tree.stop).toList = [] := by
    have empty := length_encoded_textBetween laid four four (Nat.le_refl _)
    rw [Nat.sub_self, List.length_eq_zero_iff, ← bytesOf_eq_encoded] at empty
    have blank : document.textBetween tree.stop tree.stop = "" := bytesOf_injective empty
    rw [blank]
    rfl
  have whole : (document.text tree).toList =
      (document.textBetween tree.start literal.start).toList ++
        ((document.textBetween literal.start literal.stop).toList ++
          (document.textBetween literal.stop tree.stop).toList) := by
    rw [Document.text, textBetween_append laid.read one two four bounds.1 (forward.trans bounds.2),
      textBetween_append laid.read two three four forward bounds.2, String.toList_append,
      String.toList_append]
  have behind : (document.textBetween literal.start tree.stop).toList =
      (document.textBetween literal.start literal.stop).toList ++
        (document.textBetween literal.stop tree.stop).toList := by
    rw [textBetween_append laid.read two three four forward bounds.2, String.toList_append]
  rw [toList_reindented, whole, shifted_append, shifted_append, width, width', List.append_nil,
    List.append_nil, ← behind, Nat.add_sub_cancel' bounds.1, Nat.add_sub_cancel' forward,
    shiftedPart, shiftedPart, shiftedPart, nothing]
  simp only [List.append_assoc]

/-- Whether nothing is put into a literal of a declaration when the declaration's lines are shifted: there is
nothing to put in, or the literal is on one line, or it is a template string or inside one. -/
def Steady (document : Document) (indent : String) (tree literal : Tree) : Prop :=
  indent = "" ∨ '\n' ∉ (document.text literal).toList ∨
    ∃ template ∈ tree.preorder, template.isKind .templateString = true ∧ literal ∈ template.preorder

theorem isKind_templateString (kind : isLiteral literal = true) (plain : literal.isKind .string = false) :
    literal.isKind .templateString = true := by
  rw [isLiteral, Tree.isOneOf] at kind
  rw [Tree.isKind] at plain ⊢
  split at kind
  · rename_i own given
    rw [given] at plain ⊢
    simp only [List.contains_cons, List.contains_nil, Bool.or_false, Bool.or_eq_true, beq_iff_eq] at kind
    rcases kind with rfl | rfl
    · cases plain
    · rfl
  · cases kind

/-- A line of a literal but its first begins inside the literal. -/
theorem line_inside (laid : LaidOut text document) (quoted : Quoted document)
    (visited : literal ∈ document.root.preorder) (kind : isLiteral literal = true)
    {front back : List Char} (parts : (document.text literal).toList = front ++ '\n' :: back) :
    literal.start < literal.start + (encoded front).length + 1 ∧
      literal.start + (encoded front).length + 1 < literal.stop := by
  have filled : 0 < (encoded back).length := by
    cases back with
    | nil =>
      have closed := quoted.closed literal visited kind
      rw [parts, List.getLast?_concat] at closed
      exact absurd closed (by decide)
    | cons c rest =>
      rw [length_encoded_cons]
      exact Nat.add_pos_left c.utf8Size_pos _
  obtain ⟨one, two⟩ := laid.cuts literal visited
  have width := length_encoded_textBetween laid one two (laid.forward literal visited)
  have line : (encoded ('\n' :: back)).length = 1 + (encoded back).length := length_encoded_cons _ _
  rw [← Document.text, parts, encoded_append, List.length_append, line] at width
  omega

/-- A literal comes out of the shifting as it was exactly if nothing is put into it. -/
theorem shiftedPart_eq_iff (laid : LaidOut text document) (quoted : Quoted document)
    (visited : tree ∈ document.root.preorder) (below : literal ∈ tree.preorder)
    (kind : isLiteral literal = true) (indent : String) :
    shiftedPart document indent tree literal.start literal.stop = (document.text literal).toList ↔
      Steady document indent tree literal := by
  have reached := Tree.preorder_subset_of_mem_preorder visited below
  rw [shiftedPart, ← Document.text]
  constructor
  · intro same
    rw [Steady]
    by_contra! unsteady
    obtain ⟨some, breaks, bare⟩ := unsteady
    obtain ⟨front, back, parts, shows⟩ := exists_last_line breaks (quoted.closed literal reached kind)
    have line := line_inside laid quoted reached kind parts
    have moved : keepsLine tree (literal.start + (encoded front).length + 1) = false := by
      rw [Bool.eq_false_iff, ne_eq, keepsLine_iff]
      rintro ⟨template, member, made, front, back⟩
      rcases laid.nested_or_apart visited below member with inside | inside | apart
      · exact bare template member made inside
      · cases plain : literal.isKind .string with
        | true =>
          have none := quoted.flat literal reached plain template inside
          rw [made] at none
          cases none
        | false => exact bare literal below (isKind_templateString kind plain) literal.mem_preorder_self
      · omega
    rw [parts] at same
    have none := indent_eq_nil_of_shifted moved (shows _) same
    exact some (String.toList_inj.1 none)
  · rintro (rfl | single | ⟨template, member, made, inside⟩)
    · exact shifted_nil _ _ _
    · apply shifted_of_kept
      intro front back parts
      exact absurd (by simp [parts]) single
    · apply shifted_of_kept
      intro front back parts
      have line := line_inside laid quoted reached kind parts
      have bounds := laid.inside (Tree.preorder_subset_of_mem_preorder visited member) inside
      exact (keepsLine_iff tree _).2 ⟨template, member, made, by omega, by omega⟩

theorem infix_intercalate (separator : String) {parts : List String} {part : String} (member : part ∈ parts) :
    bytesOf part <:+: bytesOf (separator.intercalate parts) := by
  induction parts with
  | nil => cases member
  | cons first rest ih =>
    cases rest with
    | nil =>
      obtain rfl := List.mem_singleton.1 member
      simp [String.intercalate_singleton]
    | cons second rest =>
      rw [String.intercalate_cons_cons, bytesOf_append, bytesOf_append, List.append_assoc]
      rcases List.mem_cons.1 member with rfl | later
      · exact (List.prefix_append _ _).isInfix
      · exact (ih later).trans ((List.suffix_append _ _).isInfix.trans (List.suffix_append _ _).isInfix)

theorem infix_hoistEdit (document : Document) (function body : Tree) {declarations : List Tree}
    (member : tree ∈ declarations) :
    bytesOf (reindented document tree (movedIndent document function body)) <:+:
      (hoistEdit document function body declarations).written := by
  cases kind : body.isKind .statementBlock with
  | true =>
    have part := infix_intercalate "" (List.mem_map_of_mem member
      (f := fun tree => "\n" ++ reindented document tree (movedIndent document function body)))
    rw [bytesOf_append] at part
    rw [hoistEdit_of_block document function kind]
    exact (List.suffix_append _ _).isInfix.trans part
  | false =>
    have part := infix_intercalate "\n" (List.mem_map_of_mem member
      (f := fun tree => reindented document tree (movedIndent document function body)))
    refine part.trans ?_
    rw [hoistEdit_of_expression document function kind, Edit.written, Edit.replace]
    simp only [bytesOf_append, List.append_assoc]
    exact (List.prefix_append _ _).isInfix.trans (List.suffix_append _ _).isInfix

/-- Moving declarations shifts their lines, and leaves a literal as it is exactly if nothing is put into it:
template strings and what stands in them come out as they were, and so do literals on one line. -/
theorem hoisting_keeps_literals (laid : LaidOut text document) (quoted : Quoted document)
    (planned : (hoistDeclarations.plan document).edits ≠ []) :
    (∀ indent, ∀ declaration ∈ moduleDeclarations document, ∀ literal ∈ declaration.preorder,
      isLiteral literal = true →
        (reindented document declaration indent).toList =
            indent.toList ++ shiftedPart document indent declaration declaration.start literal.start ++
              shiftedPart document indent declaration literal.start literal.stop ++
                shiftedPart document indent declaration literal.stop declaration.stop ∧
          (shiftedPart document indent declaration literal.start literal.stop =
              (document.text literal).toList ↔
            Steady document indent declaration literal)) ∧
      ∃ indent after, document.render (hoistDeclarations.plan document).edits = .ok after ∧
        ∀ declaration ∈ moduleDeclarations document,
          bytesOf (reindented document declaration indent) <:+: bytesOf after ∧
          ∀ literal ∈ declaration.preorder, isLiteral literal = true →
            Steady document indent declaration literal →
              bytesOf (document.text literal) <:+: bytesOf after := by
  have place : ∀ declaration ∈ moduleDeclarations document, declaration ∈ document.root.preorder :=
    fun declaration member => Tree.mem_preorder_of_mem_children (Tree.mem_preorder_self _)
      (mem_children_of_mem_moduleDeclarations member).1
  refine ⟨fun indent declaration member literal below kind =>
    ⟨toList_reindented_around laid (place declaration member) below indent,
      shiftedPart_eq_iff laid quoted (place declaration member) below kind indent⟩, ?_⟩
  obtain ⟨target, body, found, answered, plan⟩ := plan_of_edits planned
  obtain ⟨after, start, stop, -, -, -, rendered, -, bytes⟩ := exists_render_hoisting laid found answered rfl
  refine ⟨movedIndent document target.function body, after, by rw [plan]; exact rendered,
    fun declaration member => ?_⟩
  have whole : bytesOf (reindented document declaration (movedIndent document target.function body)) <:+:
      bytesOf after := by
    rw [bytes]
    exact (infix_hoistEdit document target.function body member).trans
      ((List.prefix_append _ _).isInfix.trans (List.suffix_append _ _).isInfix)
  refine ⟨whole, fun literal below kind steady => List.IsInfix.trans ?_ whole⟩
  have same := (shiftedPart_eq_iff laid quoted (place declaration member) below kind _).2 steady
  rw [bytesOf_eq_encoded, bytesOf_eq_encoded,
    toList_reindented_around laid (place declaration member) below _, same, encoded_append,
    encoded_append]
  exact (List.suffix_append _ _).isInfix.trans (List.prefix_append _ _).isInfix

/-- A template string that goes over lines, around a string literal that does. -/
def spelledItems : String := "const a = `é\n$\x7bb('c\\\nd')\x7d`;\nexport default () => <ul>\x7ba\x7d</ul>;\n"

theorem spelledItems_kept :
    LaidOut spelledItems (.read Syntax.parse spelledItems) ∧
      Quoted (.read Syntax.parse spelledItems) ∧
      (hoistDeclarations.plan (.read Syntax.parse spelledItems)).edits ≠ [] ∧
      ∃ indent after, (Document.read Syntax.parse spelledItems).render
          (hoistDeclarations.plan (.read Syntax.parse spelledItems)).edits = .ok after ∧
        ∀ declaration ∈ moduleDeclarations (.read Syntax.parse spelledItems),
          bytesOf (reindented (.read Syntax.parse spelledItems) declaration indent) <:+:
              bytesOf after ∧
          ∀ literal ∈ declaration.preorder, isLiteral literal = true →
            Steady (.read Syntax.parse spelledItems) indent declaration literal →
              bytesOf ((Document.read Syntax.parse spelledItems).text literal) <:+: bytesOf after := by
  -- evaluated together, so that the text is parsed once
  obtain ⟨laid, quoted, planned⟩ : LaidOut spelledItems (.read Syntax.parse spelledItems) ∧
      Quoted (.read Syntax.parse spelledItems) ∧
      (hoistDeclarations.plan (.read Syntax.parse spelledItems)).edits ≠ [] := by
    decide +kernel
  exact ⟨laid, quoted, planned, (hoisting_keeps_literals laid quoted planned).2⟩

/-- A string literal that a backslash carries over to the next line. -/
def continuedItem : String := "const a = 'x\\\ny';\nexport default () => a;\n"

/-- The literal occurs nowhere in what comes out: its second line is indented. -/
theorem continuedItem_changed :
    (Document.read Syntax.parse continuedItem).render
        (hoistDeclarations.plan (.read Syntax.parse continuedItem)).edits =
      .ok "export default () => \x7b\n  const a = 'x\\\n  y';\n  return a;\n\x7d;\n" ∧
    ∃ declaration ∈ moduleDeclarations (.read Syntax.parse continuedItem),
      ∃ literal ∈ declaration.preorder, literal.isKind .string = true ∧
        ¬bytesOf ((Document.read Syntax.parse continuedItem).text literal) <:+:
          bytesOf "export default () => \x7b\n  const a = 'x\\\n  y';\n  return a;\n\x7d;\n" := by
  decide +kernel

end Literals

end Repair

end ComponentGate
