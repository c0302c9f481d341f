import ComponentGate.Proofs.Document.Lines
import ComponentGate.Proofs.Syntax.Spans

/-! The layout of a document: which of its bytes show, and how its nodes lie in it. Where statements neither
begin nor end with a blank, removing them with their lines takes nothing else away that shows. -/

namespace ComponentGate

open Syntax Preamble

namespace Document

/-- The bytes that show: all but the blank ones. -/
def dense (bytes : List UInt8) : List UInt8 := bytes.filter fun byte => !isBlankByte byte

section Dense

theorem dense_append (first second : List UInt8) : dense (first ++ second) = dense first ++ dense second :=
  List.filter_append ..

theorem dense_flatMap {α : Type} (all : List α) (bytes : α → List UInt8) :
    dense (all.flatMap bytes) = all.flatMap fun one => dense (bytes one) :=
  List.filter_flatMap ..

theorem dense_eq_nil {bytes : List UInt8} (blank : ∀ byte ∈ bytes, isBlankByte byte = true) :
    dense bytes = [] :=
  List.filter_eq_nil_iff.2 fun byte member => by simp [blank byte member]

theorem dense_bytesOf_append (first second : String) :
    dense (bytesOf (first ++ second)) = dense (bytesOf first) ++ dense (bytesOf second) := by
  rw [bytesOf_append, dense_append]

theorem dense_intercalate {separator : String} (blank : dense (bytesOf separator) = [])
    (parts : List String) :
    dense (bytesOf (separator.intercalate parts)) = parts.flatMap fun part => dense (bytesOf part) := by
  induction parts with
  | nil =>
    rw [String.intercalate_nil]
    rfl
  | cons first rest ih =>
    cases rest with
    | nil => rw [String.intercalate_singleton, List.flatMap_singleton]
    | cons second rest =>
      rw [String.intercalate_cons_cons, dense_bytesOf_append, dense_bytesOf_append, blank, ih,
        List.append_nil]
      rfl

/-- Line feeds do not show. -/
theorem dense_splitAtLineFeeds (text : List Char) :
    dense (encoded text) = (Text.splitAtLineFeeds text).flatMap fun line => dense (encoded line) := by
  rw [Text.splitAtLineFeeds]
  induction text with
  | nil => rfl
  | cons c rest ih =>
    have parts : encoded (c :: rest) = encoded [c] ++ encoded rest := encoded_append [c] rest
    rw [parts, dense_append, ih, Text.splitAt]
    split
    · rename_i ends
      rw [ends, List.flatMap_cons]
      rfl
    · cases Text.splitAt '\n' rest with
      | nil => simp
      | cons first more =>
        have line : encoded (c :: first) = encoded [c] ++ encoded first := encoded_append [c] first
        rw [List.flatMap_cons, List.flatMap_cons, line, dense_append, List.append_assoc]

theorem bytesOf_textBetween (document : Document) (start stop : Nat) :
    bytesOf (document.textBetween start stop) = [] ∨
      bytesOf (document.textBetween start stop) = (document.content.drop start).take (stop - start) := by
  rw [textBetween]
  cases decoded : String.fromUTF8? (document.bytes.extract start stop) with
  | none =>
    left
    rfl
  | some text =>
    right
    have bytes := congrArg (·.data.toList) (bytes_of_decoded decoded)
    simp only [ByteArray.data_extract, Array.toList_extract, List.extract_eq_take_drop] at bytes
    exact bytes.symm

/-- What indents a line does not show. -/
theorem dense_lineIndent (document : Document) (offset : Int) :
    dense (bytesOf (document.lineIndent offset)) = [] := by
  rw [lineIndent]
  generalize document.lineStart _ = start
  rw [bytesFrom_eq, List.take_of_length_le (by rw [List.length_drop]; exact Nat.le_refl _)]
  generalize shape : (document.content.drop start).takeWhile
    (fun byte => byte == 0x20 || byte == 0x09) = blanks
  have front : (document.content.drop start).take blanks.length = blanks := by
    rw [← shape]
    exact (List.prefix_iff_eq_take.1 (List.takeWhile_prefix _)).symm
  rcases bytesOf_textBetween document start (start + blanks.length) with nothing | bytes
  · rw [nothing]
    rfl
  · rw [bytes, Nat.add_sub_cancel_left, front]
    apply dense_eq_nil
    intro byte member
    rw [← shape] at member
    have blank := List.all_eq_true.1 List.all_takeWhile byte member
    rw [Bool.or_eq_true, beq_iff_eq, beq_iff_eq] at blank
    rcases blank with rfl | rfl <;> rfl

end Dense

section Layout

/-- Whether a node's bytes neither begin nor end with a blank. -/
structure Solid (document : Document) (tree : Tree) : Prop where
  filled : tree.start < tree.stop
  opens : (document.content[tree.start]?.any fun byte => !isBlankByte byte) = true
  closes : (document.content[tree.stop - 1]?.any fun byte => !isBlankByte byte) = true

instance (document : Document) (tree : Tree) : Decidable (document.Solid tree) :=
  decidable_of_iff (tree.start < tree.stop ∧
      (document.content[tree.start]?.any fun byte => !isBlankByte byte) = true ∧
      (document.content[tree.stop - 1]?.any fun byte => !isBlankByte byte) = true)
    ⟨fun solid => ⟨solid.1, solid.2.1, solid.2.2⟩,
      fun solid => ⟨solid.filled, solid.opens, solid.closes⟩⟩

/-- Nodes split no character, lie inside their parents and one behind the other. -/
structure Ranged (text : String) (document : Document) : Prop where
  read : document.bytes = text.toUTF8
  cuts : ∀ node ∈ document.root.preorder, Cuttable text node.start ∧ Cuttable text node.stop
  forward : ∀ node ∈ document.root.preorder, node.start ≤ node.stop
  nested : ∀ node ∈ document.root.preorder, ∀ child ∈ node.children,
    node.start ≤ child.start ∧ child.stop ≤ node.stop
  apart : ∀ node ∈ document.root.preorder,
    node.children.Pairwise fun first second => first.stop ≤ second.start

instance (text : String) (document : Document) : Decidable (Ranged text document) :=
  decidable_of_iff
    (document.bytes.data = text.toUTF8.data ∧
      ∀ node ∈ document.root.preorder,
        (Cuttable text node.start ∧ Cuttable text node.stop) ∧ node.start ≤ node.stop ∧
        (∀ child ∈ node.children, node.start ≤ child.start ∧ child.stop ≤ node.stop) ∧
        node.children.Pairwise fun first second => first.stop ≤ second.start)
    ⟨fun ⟨read, nodes⟩ =>
      { read := ByteArray.ext read
        cuts := fun node visited => (nodes node visited).1
        forward := fun node visited => (nodes node visited).2.1
        nested := fun node visited => (nodes node visited).2.2.1
        apart := fun node visited => (nodes node visited).2.2.2 },
    fun ranged => ⟨congrArg ByteArray.data ranged.read, fun node visited =>
      ⟨ranged.cuts node visited, ranged.forward node visited, ranged.nested node visited,
        ranged.apart node visited⟩⟩⟩

variable {text : String} {document : Document} {tree other : Tree}

theorem Ranged.stop_le (ranged : Ranged text document) (visited : tree ∈ document.root.preorder) :
    tree.stop ≤ document.bytes.size := by
  rw [ranged.read]
  exact (ranged.cuts tree visited).2.le_size

theorem Ranged.spanned (ranged : Ranged text document) : document.root.Spanned :=
  ⟨ranged.forward, ranged.nested, ranged.apart⟩

theorem Ranged.inside (ranged : Ranged text document) (visited : tree ∈ document.root.preorder)
    (below : other ∈ tree.preorder) : tree.start ≤ other.start ∧ other.stop ≤ tree.stop :=
  (ranged.spanned.of_mem_preorder visited).inside below

theorem Ranged.siblings (ranged : Ranged text document) (visited : tree ∈ document.root.preorder)
    {first second : Tree} (one : first ∈ tree.children) (two : second ∈ tree.children) :
    first = second ∨ first.stop ≤ second.start ∨ second.stop ≤ first.start :=
  (ranged.spanned.of_mem_preorder visited).siblings one two

theorem Ranged.nested_or_apart (ranged : Ranged text document) (visited : tree ∈ document.root.preorder)
    {first second : Tree} (one : first ∈ tree.preorder) (two : second ∈ tree.preorder) :
    first ∈ second.preorder ∨ second ∈ first.preorder ∨
      first.stop ≤ second.start ∨ second.stop ≤ first.start :=
  (ranged.spanned.of_mem_preorder visited).nested_or_apart one two

theorem Ranged.content_eq (ranged : Ranged text document) : document.content = bytesOf text := by
  rw [content, ranged.read]
  rfl

/-- Removing a statement takes a range away between two places at which the text can be cut. -/
theorem Ranged.fits_removeStatement (ranged : Ranged text document)
    (visited : tree ∈ document.root.preorder) :
    (document.removeStatement tree).Fits document.bytes.size ∧
      Cuttable text (document.removeStatement tree).start.toNat ∧
        Cuttable text (document.removeStatement tree).stop.toNat := by
  have within := ranged.stop_le visited
  have forward := ranged.forward tree visited
  have front := clearedFrom_le document tree
  have back := le_clearedTo within
  have inside := clearedTo_le within
  obtain ⟨one, two⟩ := ranged.cuts tree visited
  have content := ranged.content_eq
  rw [removeStatement_eq]
  refine ⟨⟨Int.natCast_nonneg _, ?_, ?_⟩, ?_, ?_⟩
  · exact Int.ofNat_le.2 (by omega)
  · exact Int.ofNat_le.2 inside
  · change Cuttable text (document.clearedFrom tree)
    rcases clearedFrom_opens document tree with same | zero | ⟨place, next, ends⟩
    · rwa [same]
    · rw [zero]
      exact cuttable_zero
    · rw [content] at ends
      rw [next]
      exact cuttable_succ_of_lineFeed ends
  · change Cuttable text (document.clearedTo tree)
    rcases clearedTo_closes document tree with same | last | ⟨place, next, ends⟩
    · rwa [same]
    · rw [last, ranged.read]
      exact cuttable_size
    · rw [content] at ends
      rw [next]
      exact cuttable_succ_of_lineFeed ends

/-- What a parser is relied on for: nodes split no character, lie inside their parents and one behind the
other, a block begins with its brace, and neither the module's declarations nor an expression that is a
function's body begin or end with a blank. -/
structure LaidOut (text : String) (document : Document) : Prop where
  read : document.bytes = text.toUTF8
  cuts : ∀ node ∈ document.root.preorder, Cuttable text node.start ∧ Cuttable text node.stop
  forward : ∀ node ∈ document.root.preorder, node.start ≤ node.stop
  nested : ∀ node ∈ document.root.preorder, ∀ child ∈ node.children,
    node.start ≤ child.start ∧ child.stop ≤ node.stop
  apart : ∀ node ∈ document.root.preorder,
    node.children.Pairwise fun first second => first.stop ≤ second.start
  declared : ∀ child ∈ document.root.children, child.isDeclaration = true → document.Solid child
  braced : ∀ node ∈ document.root.preorder, node.isKind .statementBlock = true →
    node.children.head?.map document.text = some "\x7b"
  answered : ∀ node ∈ document.root.preorder, ∀ body ∈ node.functionBody?,
    body.isKind .statementBlock = false → document.Solid body

instance (text : String) (document : Document) : Decidable (LaidOut text document) :=
  decidable_of_iff
    (document.bytes.data = text.toUTF8.data ∧
      (∀ node ∈ document.root.preorder,
        (Cuttable text node.start ∧ Cuttable text node.stop) ∧ node.start ≤ node.stop ∧
        (∀ child ∈ node.children, node.start ≤ child.start ∧ child.stop ≤ node.stop) ∧
        (node.children.Pairwise fun first second => first.stop ≤ second.start) ∧
        (node.isKind .statementBlock = true →
          node.children.head?.map document.text = some "\x7b") ∧
        ∀ body ∈ node.functionBody?, body.isKind .statementBlock = false → document.Solid body) ∧
      ∀ child ∈ document.root.children, child.isDeclaration = true → document.Solid child)
    ⟨fun ⟨read, nodes, declared⟩ =>
      { read := ByteArray.ext read
        declared
        cuts := fun node visited => (nodes node visited).1
        forward := fun node visited => (nodes node visited).2.1
        nested := fun node visited => (nodes node visited).2.2.1
        apart := fun node visited => (nodes node visited).2.2.2.1
        braced := fun node visited => (nodes node visited).2.2.2.2.1
        answered := fun node visited => (nodes node visited).2.2.2.2.2 },
    fun laid => ⟨congrArg ByteArray.data laid.read, fun node visited =>
      ⟨laid.cuts node visited, laid.forward node visited, laid.nested node visited,
        laid.apart node visited, laid.braced node visited, laid.answered node visited⟩,
      laid.declared⟩⟩

theorem LaidOut.ranged (laid : LaidOut text document) : Ranged text document where
  read := laid.read
  cuts := laid.cuts
  forward := laid.forward
  nested := laid.nested
  apart := laid.apart

theorem LaidOut.stop_le (laid : LaidOut text document) (visited : tree ∈ document.root.preorder) :
    tree.stop ≤ document.bytes.size :=
  laid.ranged.stop_le visited

theorem LaidOut.inside (laid : LaidOut text document) (visited : tree ∈ document.root.preorder)
    (below : other ∈ tree.preorder) : tree.start ≤ other.start ∧ other.stop ≤ tree.stop :=
  laid.ranged.inside visited below

theorem LaidOut.siblings (laid : LaidOut text document) (visited : tree ∈ document.root.preorder)
    {first second : Tree} (one : first ∈ tree.children) (two : second ∈ tree.children) :
    first = second ∨ first.stop ≤ second.start ∨ second.stop ≤ first.start :=
  laid.ranged.siblings visited one two

theorem LaidOut.nested_or_apart (laid : LaidOut text document) (visited : tree ∈ document.root.preorder)
    {first second : Tree} (one : first ∈ tree.preorder) (two : second ∈ tree.preorder) :
    first ∈ second.preorder ∨ second ∈ first.preorder ∨
      first.stop ≤ second.start ∨ second.stop ≤ first.start :=
  laid.ranged.nested_or_apart visited one two

end Layout

section Clearing

variable {document : Document} {tree other : Tree}

theorem isBlank_of_cleared (tree : Tree) {offset : Nat} {byte : UInt8}
    (behind : document.clearedFrom tree ≤ offset)
    (before : offset < document.clearedTo tree) (outside : offset < tree.start ∨ tree.stop ≤ offset)
    (here : document.content[offset]? = some byte) : isBlankByte byte = true := by
  rcases outside with front | back
  · exact isBlank_of_clearedFrom behind front here
  · exact isBlank_of_clearedTo back before here

theorem not_cleared (tree : Tree) {offset : Nat}
    (shown : (document.content[offset]?.any fun byte => !isBlankByte byte) = true)
    (outside : offset < tree.start ∨ tree.stop ≤ offset) :
    offset < document.clearedFrom tree ∨ document.clearedTo tree ≤ offset := by
  by_contra! covered
  obtain ⟨byte, here, solid⟩ := (Option.any_eq_true _ _).1 shown
  have blank := isBlank_of_cleared tree covered.1 covered.2 outside here
  simp [blank] at solid

/-- Removing a statement takes nothing from a solid node behind it. -/
theorem clearedTo_le_start (forward : tree.start ≤ tree.stop) (solid : document.Solid other)
    (order : tree.stop ≤ other.start) : document.clearedTo tree ≤ other.start := by
  have front := clearedFrom_le document tree
  have apart := not_cleared tree solid.opens (.inr order)
  omega

/-- Removing a statement takes nothing from a solid node in front of it. -/
theorem stop_le_clearedFrom (forward : tree.start ≤ tree.stop)
    (within : tree.stop ≤ document.bytes.size) (solid : document.Solid other)
    (order : other.stop ≤ tree.start) : other.stop ≤ document.clearedFrom tree := by
  have filled := solid.filled
  have back := le_clearedTo within
  have apart := not_cleared tree solid.closes (.inl (by omega))
  omega

/-- Removals of solid statements do not overlap: only blanks stand between their statements, and a line
feed that ends the first removal is the last one that can begin the second. -/
theorem clearedTo_le_clearedFrom (forward : tree.start ≤ tree.stop) (one : document.Solid tree)
    (two : document.Solid other) (within : other.stop ≤ document.bytes.size)
    (order : tree.stop ≤ other.start) : document.clearedTo tree ≤ document.clearedFrom other := by
  have behind := clearedTo_le_start forward two order
  have before := stop_le_clearedFrom (by have := two.filled; omega) within one order
  have filled := one.filled
  rcases clearedFrom_opens document other with same | zero | ⟨place, next, ends⟩
  · omega
  · omega
  · rcases Nat.lt_or_ge place tree.stop with last | later
    · -- The line feed would be the last byte of the first statement.
      obtain rfl : place = tree.stop - 1 := by omega
      obtain ⟨byte, here, shown⟩ := (Option.any_eq_true _ _).1 one.closes
      rw [ends] at here
      obtain rfl := Option.some.inj here
      exact absurd shown (by decide)
    · have nearest := clearedTo_le_of_lineFeed later ends
      omega

end Clearing

end Document

end ComponentGate
