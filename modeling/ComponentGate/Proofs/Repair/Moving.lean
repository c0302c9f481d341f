import ComponentGate.Proofs.Document.Layout
import ComponentGate.Proofs.Repair.Plans
import ComponentGate.Syntax.Parse

/-! Moving declarations into a function. The edits are applied without a clash, and what comes out is the
text with the declarations cut out and put, as they were, at the front of the function's body; only blanks
come and go besides. -/

namespace ComponentGate

open Syntax Preamble

namespace Document

/-- The bytes of a node. -/
def span (document : Document) (tree : Tree) : List UInt8 :=
  (document.content.take tree.stop).drop tree.start

section Spans

variable {text : String} {document : Document} {tree : Tree}

theorem Ranged.bytesOf_span (ranged : Ranged text document) (visited : tree ∈ document.root.preorder) :
    bytesOf (document.text tree) = document.span tree :=
  bytesOf_text ranged.read (ranged.cuts tree visited).1 (ranged.cuts tree visited).2
    (ranged.forward tree visited)

theorem LaidOut.bytesOf_span (laid : LaidOut text document) (visited : tree ∈ document.root.preorder) :
    bytesOf (document.text tree) = document.span tree :=
  laid.ranged.bytesOf_span visited

/-- A node's text is what its bytes are the encoding of. -/
theorem text_of_span (spelled : document.span tree = bytesOf text) : document.text tree = text := by
  have bytes : document.bytes.extract tree.start tree.stop = text.toUTF8 := by
    apply ByteArray.ext
    apply Array.toList_inj.1
    rw [ByteArray.data_extract, Array.toList_extract, List.extract_eq_take_drop, ← List.drop_take]
    exact spelled
  rw [Document.text, textBetween, (Edit.decoded_iff _).2 bytes.symm]
  rfl

/-- Nodes of the same bytes have the same text. -/
theorem text_congr {document' : Document} (same : document'.span tree = document.span tree) :
    document'.text tree = document.text tree := by
  have bytes : document'.bytes.extract tree.start tree.stop =
      document.bytes.extract tree.start tree.stop := by
    apply ByteArray.ext
    apply Array.toList_inj.1
    rw [ByteArray.data_extract, ByteArray.data_extract, Array.toList_extract, Array.toList_extract,
      List.extract_eq_take_drop, List.extract_eq_take_drop, ← List.drop_take, ← List.drop_take]
    exact same
  rw [Document.text, Document.text, textBetween, textBetween, bytes]

end Spans

/-- What stands between two offsets once declarations are cut out. -/
def remainder (document : Document) (declarations : List Tree) (start stop : Nat) : List UInt8 :=
  (List.range' start (stop - start)).flatMap fun offset =>
    if declarations.any fun tree => tree.start ≤ offset && offset < tree.stop then []
    else document.content[offset]?.toList

/-- The text with declarations moved to the front of a function's body: behind the brace that opens a
block, or into a block that an expression becomes the answer of. -/
def moved (document : Document) (declarations : List Tree) (body : Tree) : List UInt8 :=
  let texts := declarations.flatMap document.span
  if body.isKind .statementBlock then
    let inside := (body.children.head?.getD body).stop
    document.remainder declarations 0 inside ++
      (texts ++ document.remainder declarations inside document.bytes.size)
  else
    document.remainder declarations 0 body.start ++
      (bytesOf "\x7b" ++ texts ++ bytesOf "return " ++ document.span body ++ bytesOf ";\x7d" ++
        document.remainder declarations body.stop document.bytes.size)

end Document

open Document

namespace Repair

section Shifting

variable {document : Document} {indent : String}

theorem dense_shiftLines (blank : dense (bytesOf indent) = []) (literals : List (Nat × Nat))
    (offset : Nat) (lines : List (List Char)) :
    ((shiftLines indent literals offset lines).flatMap fun line => dense (bytesOf line)) =
      lines.flatMap fun line => dense (encoded line) := by
  induction lines generalizing offset with
  | nil => rfl
  | cons line rest ih =>
    have own : bytesOf (String.ofList line) = encoded line := by
      rw [bytesOf_eq_encoded, String.toList_ofList]
    rw [shiftLines, List.flatMap_cons, List.flatMap_cons, ih]
    split
    · rw [own]
    · rw [dense_bytesOf_append, blank, own, List.nil_append]

/-- Shifting a node's lines changes nothing that shows. -/
theorem dense_reindented (blank : dense (bytesOf indent) = []) (tree : Tree) :
    dense (bytesOf (reindented document tree indent)) = dense (bytesOf (document.text tree)) := by
  rw [bytesOf_eq_encoded (document.text tree), dense_splitAtLineFeeds, reindented]
  dsimp only
  cases Text.splitAtLineFeeds (document.text tree).toList with
  | nil => exact blank
  | cons first rest =>
    have own : bytesOf (String.ofList first) = encoded first := by
      rw [bytesOf_eq_encoded, String.toList_ofList]
    dsimp only
    rw [dense_intercalate (by decide +kernel), List.flatMap_cons, dense_shiftLines blank,
      dense_bytesOf_append, blank, own, List.nil_append, List.flatMap_cons]

end Shifting

section Removals

variable {text : String} {document : Document} {declarations : List Tree}

/-- Of what removals do to a place: the byte there is gone, or stays. -/
theorem cell_removals (declarations : List Tree) (offset : Nat) :
    Edit.cell document.content (declarations.map document.removeStatement) offset =
      if declarations.any fun tree =>
          decide (document.clearedFrom tree ≤ offset) && decide (offset < document.clearedTo tree)
      then [] else document.content[offset]?.toList := by
  have silent : ∀ edit ∈ declarations.map document.removeStatement,
      edit.start = offset → edit.written = [] := by
    intro edit member _
    obtain ⟨tree, -, rfl⟩ := List.mem_map.1 member
    exact written_removeStatement tree
  have covered : (declarations.map document.removeStatement).any (Edit.covers offset) =
      declarations.any fun tree =>
        decide (document.clearedFrom tree ≤ offset) && decide (offset < document.clearedTo tree) := by
    rw [List.any_map]
    congr 1
    funext tree
    rw [Function.comp_apply, removeStatement_eq, Edit.covers, Edit.delete]
    simp only [Int.ofNat_le, Int.ofNat_lt]
  rw [Edit.cell_of_silent silent, covered]

/-- Removing declarations with their lines leaves what cutting them out leaves, but for blanks. -/
theorem dense_cells_removals
    (within : ∀ tree ∈ declarations, tree.start ≤ tree.stop ∧ tree.stop ≤ document.bytes.size)
    (start stop : Nat) :
    dense (Edit.cells document.content (declarations.map document.removeStatement) start stop) =
      dense (document.remainder declarations start stop) := by
  rw [Edit.cells, remainder, dense_flatMap, dense_flatMap]
  apply List.flatMap_congr
  intro offset _
  rw [cell_removals]
  cases cut : declarations.any fun tree => tree.start ≤ offset && offset < tree.stop with
  | true =>
    obtain ⟨tree, member, inside⟩ := List.any_eq_true.1 cut
    have front := clearedFrom_le document tree
    have back := le_clearedTo (within tree member).2
    simp only [Bool.and_eq_true, decide_eq_true_eq] at inside
    rw [if_pos (List.any_eq_true.2 ⟨tree, member, ?_⟩), if_pos rfl]
    simp only [Bool.and_eq_true, decide_eq_true_eq]
    omega
  | false =>
    rw [if_neg Bool.false_ne_true]
    split
    · rename_i covered
      obtain ⟨tree, member, covers⟩ := List.any_eq_true.1 covered
      have apart := List.any_eq_false.1 cut tree member
      simp only [Bool.and_eq_true, decide_eq_true_eq] at apart covers
      symm
      apply dense_eq_nil
      intro byte here
      exact isBlank_of_cleared tree covers.1 covers.2 (by omega) (Option.mem_toList.1 here)
    · rfl

/-- Behind the last byte nothing is left. -/
theorem remainder_succ (document : Document) (declarations : List Tree) {start : Nat}
    (within : start ≤ document.bytes.size) :
    document.remainder declarations start (document.bytes.size + 1) =
      document.remainder declarations start document.bytes.size := by
  have count : document.bytes.size + 1 - start = document.bytes.size - start + 1 := by omega
  have last : start + (document.bytes.size - start) = document.content.length :=
    Nat.add_sub_cancel' within
  rw [remainder, count, List.range'_1_concat, List.flatMap_append, last]
  simp [remainder]

end Removals

section Targets

variable {document : Document} {target : ExportedFunction}

theorem mem_preorder_of_boundFunction {declarator : Tree}
    (found : boundFunction? document declarator = some target) :
    target.function ∈ declarator.preorder := by
  rw [boundFunction?] at found
  split at found
  · cases found
  · split at found
    · rename_i value given
      split at found
      · cases found
        exact Tree.unwrapped_mem_preorder_of_child given
      · cases found
    · cases found

theorem mem_preorder_of_exportedFunction {statement : Tree}
    (found : exportedFunction? document statement = some target) :
    target.function ∈ statement.preorder := by
  rw [exportedFunction?] at found
  split at found
  · rename_i declaration given
    have member := List.mem_of_find?_eq_some given
    split at found
    · cases found
      exact Tree.preorder_subset_of_mem_children member declaration.mem_preorder_self
    · split at found
      · obtain ⟨declarator, below, bound⟩ := List.exists_of_findSome?_eq_some found
        have inside := (List.mem_filter.1 below).1
        exact Tree.preorder_subset_of_mem_children member
          (Tree.preorder_subset_of_mem_children inside (mem_preorder_of_boundFunction bound))
      · cases found
  · split at found
    · rename_i value given
      split at found
      · cases found
        exact Tree.unwrapped_mem_preorder_of_child given
      · cases found
    · cases found

/-- The function that declarations are moved into stands inside an export statement. -/
theorem exists_export_of_hoistTarget (found : hoistTarget? document = some target) :
    ∃ statement ∈ document.root.children, statement.isKind .exportStatement = true ∧
      target.function ∈ statement.preorder := by
  obtain ⟨statement, member, exported⟩ := List.exists_of_findSome?_eq_some found
  obtain ⟨named, kind⟩ := List.mem_filter.1 member
  exact ⟨statement, (List.mem_filter.1 named).1, kind, mem_preorder_of_exportedFunction exported⟩

theorem mem_preorder_of_hoistTarget (found : hoistTarget? document = some target) :
    target.function ∈ document.root.preorder := by
  obtain ⟨statement, exported, -, below⟩ := exists_export_of_hoistTarget found
  exact Tree.preorder_subset_of_mem_children exported below

theorem mem_children_of_functionBody {function body : Tree}
    (found : function.functionBody? = some body) : body ∈ function.children := by
  rw [Tree.functionBody?] at found
  split at found
  · exact List.mem_of_find?_eq_some found
  · cases found

theorem mem_preorder_of_functionBody {body : Tree} (found : hoistTarget? document = some target)
    (answered : target.function.functionBody? = some body) : body ∈ document.root.preorder :=
  Tree.mem_preorder_of_mem_children (mem_preorder_of_hoistTarget found) (mem_children_of_functionBody answered)

/-- The module's own variable declarations. -/
def moduleDeclarations (document : Document) : List Tree :=
  document.root.namedChildren.filter (·.isDeclaration)

/-- Where anything is planned, declarations are moved into a function. -/
theorem plan_of_edits (planned : (hoistDeclarations.plan document).edits ≠ []) :
    ∃ target body, hoistTarget? document = some target ∧
      target.function.functionBody? = some body ∧
      hoistDeclarations.plan document =
        ⟨hoistEdit document target.function body (moduleDeclarations document) ::
            (moduleDeclarations document).map document.removeStatement,
          (moduleDeclarations document).map (hoistRecord document target.name)⟩ := by
  rcases hoistDeclarations_cases document with none | ⟨target, body, found, answered, -, moved⟩
  · rw [none] at planned
    exact absurd rfl planned
  · exact ⟨target, body, found, answered, moved⟩

end Targets

section Moving

variable {text : String} {document : Document} {function body statement tree : Tree}

theorem mem_children_of_mem_moduleDeclarations (member : tree ∈ moduleDeclarations document) :
    tree ∈ document.root.children ∧ tree.isDeclaration = true := by
  obtain ⟨named, kind⟩ := List.mem_filter.1 member
  exact ⟨(List.mem_filter.1 named).1, kind⟩

theorem mem_moduleDeclarations (member : tree ∈ document.root.children)
    (declares : tree.isDeclaration = true) : tree ∈ moduleDeclarations document := by
  have named : tree.isNamed = true := by
    by_contra unnamed
    rw [Tree.isDeclaration, Tree.isOneOf_of_unnamed (eq_false_of_ne_true unnamed)] at declares
    cases declares
  exact List.mem_filter.2 ⟨List.mem_filter.2 ⟨member, named⟩, declares⟩

theorem pairwise_moduleDeclarations (laid : LaidOut text document) :
    (moduleDeclarations document).Pairwise fun first second => first.stop ≤ second.start :=
  ((laid.apart _ (Tree.mem_preorder_self _)).filter _).filter _

/-- An export statement stands in front of a declaration of the module, or behind it. -/
theorem apart_of_export (laid : LaidOut text document) (one : statement ∈ document.root.children)
    (kind : statement.isKind .exportStatement = true) (two : tree ∈ moduleDeclarations document) :
    tree.stop ≤ statement.start ∨ statement.stop ≤ tree.start := by
  obtain ⟨member, declares⟩ := mem_children_of_mem_moduleDeclarations two
  rcases laid.siblings (Tree.mem_preorder_self _) member one with rfl | apart
  · rw [Tree.isKind, beq_iff_eq] at kind
    rw [Tree.isDeclaration, Tree.isOneOf, kind] at declares
    cases declares
  · exact apart

theorem solid_of_brace (laid : LaidOut text document) (visited : tree ∈ document.root.preorder)
    (spelled : document.text tree = "\x7b") : document.Solid tree := by
  have bytes := laid.bytesOf_span visited
  have within : tree.stop ≤ document.content.length := laid.stop_le visited
  have single : document.span tree = [0x7B] := by
    rw [← bytes, spelled]
    decide +kernel
  rw [Document.span] at single
  have length := congrArg List.length single
  rw [List.length_drop, List.length_take, List.length_singleton] at length
  have first := congrArg (·[0]?) single
  have place : tree.stop - 1 = tree.start := by omega
  simp only [List.getElem?_drop, Nat.add_zero] at first
  rw [List.getElem?_take_of_lt (by omega)] at first
  have shown : (document.content[tree.start]?.any fun byte => !isBlankByte byte) = true := by
    rw [first]
    rfl
  exact ⟨by omega, shown, place ▸ shown⟩

theorem range_hoistEdit_of_block (document : Document) (function : Tree)
    (kind : body.isKind .statementBlock = true)
    (declarations : List Tree) :
    (hoistEdit document function body declarations).range =
      (((body.children.head?.getD body).stop : Int), ((body.children.head?.getD body).stop : Int)) := by
  rw [hoistEdit, if_pos kind]
  rfl

theorem range_hoistEdit_of_expression (document : Document) (function : Tree)
    (kind : body.isKind .statementBlock = false)
    (declarations : List Tree) :
    (hoistEdit document function body declarations).range = ((body.start : Int), (body.stop : Int)) := by
  rw [hoistEdit, kind]
  rfl

theorem place_of_block {declarations : List Tree} {start stop : Nat}
    (kind : body.isKind .statementBlock = true)
    (range : (hoistEdit document function body declarations).range = ((start : Int), (stop : Int))) :
    (body.children.head?.getD body).stop = start ∧ (body.children.head?.getD body).stop = stop := by
  rwa [range_hoistEdit_of_block document function kind, Prod.mk.injEq, Int.natCast_inj,
    Int.natCast_inj] at range

theorem place_of_expression {declarations : List Tree} {start stop : Nat}
    (kind : body.isKind .statementBlock = false)
    (range : (hoistEdit document function body declarations).range = ((start : Int), (stop : Int))) :
    body.start = start ∧ body.stop = stop := by
  rwa [range_hoistEdit_of_expression document function kind, Prod.mk.injEq, Int.natCast_inj,
    Int.natCast_inj] at range

/-- What the edit that moves declarations holds on to: the brace that opens a block, or the expression that
it replaces. -/
theorem exists_anchor (laid : LaidOut text document) (visited : function ∈ document.root.preorder)
    (answered : function.functionBody? = some body) (declarations : List Tree) :
    ∃ anchor ∈ body.preorder, document.Solid anchor ∧ ∃ start stop : Nat,
      (hoistEdit document function body declarations).range = ((start : Int), (stop : Int)) ∧
        Cuttable text start ∧ Cuttable text stop ∧
          anchor.start ≤ start ∧ start ≤ stop ∧ stop ≤ anchor.stop := by
  have reached := Tree.mem_preorder_of_mem_children visited (mem_children_of_functionBody answered)
  cases kind : body.isKind .statementBlock with
  | true =>
    obtain ⟨brace, head, spelled⟩ := Option.map_eq_some_iff.1 (laid.braced body reached kind)
    have member := List.mem_of_head? head
    have opened := Tree.mem_preorder_of_mem_children reached member
    have solid := solid_of_brace laid opened spelled
    have cut := (laid.cuts brace opened).2
    have range := range_hoistEdit_of_block document function kind declarations
    rw [head] at range
    have filled := solid.filled
    exact ⟨brace, Tree.preorder_subset_of_mem_children member brace.mem_preorder_self, solid,
      brace.stop, brace.stop, range, cut, cut, by omega, by omega, by omega⟩
  | false =>
    obtain ⟨one, two⟩ := laid.cuts body reached
    have solid := laid.answered function visited body answered kind
    have filled := solid.filled
    exact ⟨body, body.mem_preorder_self, solid, body.start, body.stop,
      range_hoistEdit_of_expression document function kind declarations, one, two, by omega, by omega, by omega⟩

theorem dense_deeper {indent : String} (blank : dense (bytesOf indent) = []) :
    dense (bytesOf (indent ++ indentStep)) = [] := by
  have step : dense (bytesOf indentStep) = [] := by decide +kernel
  rw [dense_bytesOf_append, blank, step]
  rfl

/-- What indents the lines of moved declarations: what indents the body's first statement, or a step more
than what indents the line that the body or, for an expression, the function begins on. -/
def movedIndent (document : Document) (function body : Tree) : String :=
  if body.isKind .statementBlock then
    match body.significantChildren.head? with
    | some statement =>
      if statement.line ≠ body.line then document.lineIndent statement.start
      else document.lineIndent body.start ++ indentStep
    | none => document.lineIndent body.start ++ indentStep
  else document.lineIndent function.start ++ indentStep

theorem dense_movedIndent (document : Document) (function body : Tree) :
    dense (bytesOf (movedIndent document function body)) = [] := by
  rw [movedIndent]
  split
  · split
    · split
      · exact dense_lineIndent document _
      · exact dense_deeper (dense_lineIndent document _)
    · exact dense_deeper (dense_lineIndent document _)
  · exact dense_deeper (dense_lineIndent document _)

theorem hoistEdit_of_block (document : Document) (function : Tree)
    (kind : body.isKind .statementBlock = true) (declarations : List Tree) :
    hoistEdit document function body declarations =
      .insert ((body.children.head?.getD body).stop) ("".intercalate (declarations.map fun tree =>
        "\n" ++ reindented document tree (movedIndent document function body))) := by
  rw [movedIndent, if_pos kind]
  exact if_pos kind

theorem hoistEdit_of_expression (document : Document) (function : Tree)
    (kind : body.isKind .statementBlock = false) (declarations : List Tree) :
    hoistEdit document function body declarations =
      .replace body ("\x7b\n" ++ "\n".intercalate (declarations.map fun tree =>
          reindented document tree (movedIndent document function body)) ++ "\n" ++
        movedIndent document function body ++ "return " ++ document.text body ++
        ";\n" ++ document.lineIndent function.start ++ "\x7d") := by
  rw [hoistEdit, movedIndent, kind]
  rfl

theorem dense_moved (laid : LaidOut text document) {declarations : List Tree}
    (members : ∀ tree ∈ declarations, tree ∈ document.root.preorder) {indent : String}
    (blank : dense (bytesOf indent) = []) :
    (declarations.flatMap fun tree => dense (bytesOf (reindented document tree indent))) =
      dense (declarations.flatMap document.span) := by
  rw [dense_flatMap]
  apply List.flatMap_congr
  intro tree member
  rw [dense_reindented blank, laid.bytesOf_span (members tree member)]

theorem dense_written_hoistEdit_of_block (laid : LaidOut text document) (function : Tree)
    (kind : body.isKind .statementBlock = true) {declarations : List Tree}
    (members : ∀ tree ∈ declarations, tree ∈ document.root.preorder) :
    dense (hoistEdit document function body declarations).written =
      dense (declarations.flatMap document.span) := by
  have ends : dense (bytesOf "\n") = [] := by decide +kernel
  rw [hoistEdit_of_block document function kind, Edit.written, Edit.insert,
    dense_intercalate (by decide +kernel), List.flatMap_map,
    ← dense_moved laid members (dense_movedIndent document function body)]
  apply List.flatMap_congr
  intro tree _
  rw [dense_bytesOf_append, ends, List.nil_append]

theorem dense_written_hoistEdit_of_expression (laid : LaidOut text document) (function : Tree)
    (kind : body.isKind .statementBlock = false) (reached : body ∈ document.root.preorder)
    {declarations : List Tree} (members : ∀ tree ∈ declarations, tree ∈ document.root.preorder) :
    dense (hoistEdit document function body declarations).written =
      dense (bytesOf "\x7b" ++ declarations.flatMap document.span ++ bytesOf "return " ++
        document.span body ++ bytesOf ";\x7d") := by
  have base := dense_lineIndent document function.start
  have ends : dense (bytesOf "\n") = [] := by decide +kernel
  have opening : dense (bytesOf "\x7b\n") = dense (bytesOf "\x7b") := by decide +kernel
  have closing : dense (bytesOf ";\n") ++ dense (bytesOf "\x7d") = dense (bytesOf ";\x7d") := by
    decide +kernel
  rw [hoistEdit_of_expression document function kind, Edit.written, Edit.replace]
  simp only [dense_bytesOf_append, dense_append, dense_intercalate ends, List.flatMap_map,
    dense_moved laid members (dense_movedIndent document function body), laid.bytesOf_span reached, base,
    dense_movedIndent document function body, opening, ends, List.append_nil, List.append_assoc, closing]

/-- What the edit writes that moves declarations into a function's body. -/
theorem dense_written_hoistEdit (laid : LaidOut text document)
    (visited : function ∈ document.root.preorder) (answered : function.functionBody? = some body)
    {declarations : List Tree} (members : ∀ tree ∈ declarations, tree ∈ document.root.preorder) :
    dense (hoistEdit document function body declarations).written =
      if body.isKind .statementBlock then dense (declarations.flatMap document.span)
      else dense (bytesOf "\x7b" ++ declarations.flatMap document.span ++ bytesOf "return " ++
        document.span body ++ bytesOf ";\x7d") := by
  have reached := Tree.mem_preorder_of_mem_children visited (mem_children_of_functionBody answered)
  cases kind : body.isKind .statementBlock with
  | true => exact dense_written_hoistEdit_of_block laid function kind members
  | false => exact dense_written_hoistEdit_of_expression laid function kind reached members

/-- Removals of the module's declarations stand one behind the other. -/
theorem laid_removals (laid : LaidOut text document) :
    Edit.Laid ((moduleDeclarations document).map document.removeStatement) := by
  rw [Edit.Laid, List.pairwise_map]
  refine (pairwise_moduleDeclarations laid).imp_of_mem fun {first second} one two order => ?_
  obtain ⟨here, declares⟩ := mem_children_of_mem_moduleDeclarations one
  obtain ⟨there, declares'⟩ := mem_children_of_mem_moduleDeclarations two
  have apart := clearedTo_le_clearedFrom
    (laid.forward _ (Tree.mem_preorder_of_mem_children (Tree.mem_preorder_self _) here))
    (laid.declared first here declares) (laid.declared second there declares')
    (laid.stop_le (Tree.mem_preorder_of_mem_children (Tree.mem_preorder_self _) there)) order
  rw [removeStatement_eq, removeStatement_eq]
  exact Int.ofNat_le.2 apart

/-- A removal is a range between two places at which the text can be cut. -/
theorem fits_removal (laid : LaidOut text document) (member : tree ∈ moduleDeclarations document) :
    (document.removeStatement tree).Fits document.bytes.size ∧
      (document.removeStatement tree).start < (document.removeStatement tree).stop ∧
        Cuttable text (document.removeStatement tree).start.toNat ∧
          Cuttable text (document.removeStatement tree).stop.toNat := by
  obtain ⟨here, declares⟩ := mem_children_of_mem_moduleDeclarations member
  have visited := Tree.mem_preorder_of_mem_children (Tree.mem_preorder_self document.root) here
  obtain ⟨fits, cuts⟩ := laid.ranged.fits_removeStatement visited
  refine ⟨fits, ?_, cuts⟩
  have filled := (laid.declared tree here declares).filled
  have front := clearedFrom_le document tree
  have back := le_clearedTo (laid.stop_le visited)
  rw [removeStatement_eq]
  exact Int.ofNat_lt.2 (by omega)

/-- The edit that moves declarations splits no character and is apart from what removes them. -/
theorem hoistEdit_apart (laid : LaidOut text document) {target : ExportedFunction}
    (found : hoistTarget? document = some target)
    (answered : target.function.functionBody? = some body) (declarations : List Tree) :
    ∃ start stop : Nat,
      (hoistEdit document target.function body declarations).range = ((start : Int), (stop : Int)) ∧
      Cuttable text start ∧ Cuttable text stop ∧ start ≤ stop ∧
      ∀ tree ∈ moduleDeclarations document,
        stop ≤ document.clearedFrom tree ∨ document.clearedTo tree ≤ start := by
  obtain ⟨statement, exported, kind, below⟩ := exists_export_of_hoistTarget found
  have self := Tree.mem_preorder_self document.root
  have visited := Tree.preorder_subset_of_mem_children exported below
  have member := mem_children_of_functionBody answered
  obtain ⟨anchor, inside, solid, start, stop, range, one, two, front, forward, back⟩ :=
    exists_anchor laid visited answered declarations
  refine ⟨start, stop, range, one, two, forward, ?_⟩
  intro tree present
  have outer := laid.inside (Tree.mem_preorder_of_mem_children self exported)
    (Tree.mem_preorder_of_mem_children below member)
  have inner := laid.inside (Tree.mem_preorder_of_mem_children visited member) inside
  have place := Tree.mem_preorder_of_mem_children self (mem_children_of_mem_moduleDeclarations present).1
  have ordered := laid.forward tree place
  rcases apart_of_export laid exported kind present with before | behind
  · right
    have clear := clearedTo_le_start ordered solid (by omega)
    omega
  · left
    have clear := stop_le_clearedFrom ordered (laid.stop_le place) solid (by omega)
    omega

/-- The edits that move declarations are applied, and what is moved comes out between what the removals
leave on either side. -/
theorem exists_render_hoisting (laid : LaidOut text document) {target : ExportedFunction}
    (found : hoistTarget? document = some target)
    (answered : target.function.functionBody? = some body) {declarations : List Tree}
    (own : declarations = moduleDeclarations document) :
    ∃ after start stop, start ≤ document.bytes.size ∧ stop ≤ document.bytes.size ∧
      (hoistEdit document target.function body declarations).range = ((start : Int), (stop : Int)) ∧
      document.render (hoistEdit document target.function body declarations ::
        declarations.map document.removeStatement) = .ok after ∧
      bytesOf after = Edit.cells document.content (hoistEdit document target.function body declarations ::
        declarations.map document.removeStatement) 0 (document.bytes.size + 1) ∧
      bytesOf after =
        Edit.cells document.content (declarations.map document.removeStatement) 0 start ++
          ((hoistEdit document target.function body declarations).written ++
            Edit.cells document.content (declarations.map document.removeStatement) stop
              (document.bytes.size + 1)) := by
  subst own
  obtain ⟨start, stop, range, one, two, forward, apart⟩ :=
    hoistEdit_apart laid found answered (moduleDeclarations document)
  generalize hoistEdit document target.function body (moduleDeclarations document) = edit at range ⊢
  obtain ⟨first, last⟩ := Prod.mk.inj range
  have within : stop ≤ document.bytes.size := by
    rw [laid.read]
    exact two.le_size
  have fits : edit.Fits document.bytes.size := ⟨by omega, by omega, by omega⟩
  have removals : ∀ other ∈ (moduleDeclarations document).map document.removeStatement,
      other.Fits document.bytes.size ∧ other.start < other.stop ∧
        Cuttable text other.start.toNat ∧ Cuttable text other.stop.toNat := by
    intro other member
    obtain ⟨tree, present, rfl⟩ := List.mem_map.1 member
    exact fits_removal laid present
  have clear : ∀ other ∈ (moduleDeclarations document).map document.removeStatement,
      edit.stop ≤ other.start ∨ other.stop ≤ edit.start := by
    intro other member
    obtain ⟨tree, present, rfl⟩ := List.mem_map.1 member
    rw [first, last, removeStatement_eq]
    simpa [Edit.delete] using apart tree present
  obtain ⟨after, rendered, cells⟩ := render_of_cuttable laid.read
    (List.forall_mem_cons.2 ⟨fits, fun other member => (removals other member).1⟩)
    (Edit.not_clashing_cons fits.forward (fun other member => (removals other member).2.1)
      (laid_removals laid) clear)
    (List.forall_mem_cons.2 ⟨by rw [first, last]; exact ⟨one, two⟩,
      fun other member => (removals other member).2.2⟩)
  refine ⟨after, start, stop, forward.trans within, within, range, rendered, cells, ?_⟩
  rw [cells, Edit.cells_cons_of_apart fits (fun other member => (removals other member).2.1) clear, first,
    last]
  rfl

/-- Moving declarations loses no text and keeps their order: blanks apart, each of the module's declarations
is cut out, and all of them stand, as they were and one behind the other, at the front of the body of the
function that they are moved into. -/
theorem hoisting_moves_declarations (laid : LaidOut text document)
    (planned : (hoistDeclarations.plan document).edits ≠ []) :
    ∃ target body after, hoistTarget? document = some target ∧
      target.function.functionBody? = some body ∧
      document.render (hoistDeclarations.plan document).edits = .ok after ∧
      dense (bytesOf after) = dense (document.moved (moduleDeclarations document) body) ∧
      (hoistDeclarations.plan document).records =
        (moduleDeclarations document).map (hoistRecord document target.name) := by
  obtain ⟨target, body, found, answered, plan⟩ := plan_of_edits planned
  obtain ⟨after, start, stop, before, behind, range, rendered, -, bytes⟩ :=
    exists_render_hoisting laid found answered rfl
  refine ⟨target, body, after, found, answered, ?_, ?_, ?_⟩
  · rw [plan]
    exact rendered
  · obtain ⟨statement, exported, -, below⟩ := exists_export_of_hoistTarget found
    have visited := Tree.preorder_subset_of_mem_children exported below
    have place : ∀ tree ∈ moduleDeclarations document, tree ∈ document.root.preorder :=
      fun tree member => Tree.mem_preorder_of_mem_children (Tree.mem_preorder_self _)
        (mem_children_of_mem_moduleDeclarations member).1
    have removed := dense_cells_removals
      fun tree member => ⟨laid.forward tree (place tree member), laid.stop_le (place tree member)⟩
    rw [bytes, dense_append, dense_append, removed, removed, remainder_succ document _ behind,
      dense_written_hoistEdit laid visited answered place, Document.moved]
    cases kind : body.isKind .statementBlock with
    | true =>
      obtain ⟨rfl, rfl⟩ := place_of_block kind range
      simp only [dense_append, if_true]
    | false =>
      obtain ⟨rfl, rfl⟩ := place_of_expression kind range
      simp only [dense_append, Bool.false_eq_true, if_false]
  · rw [plan]

/-- Declarations on either side of the function, two of them on one line and one on several. -/
def scatteredItems : String :=
  "const a = `é\n  b`;\nexport default () => <ul>{a}{c}{d}</ul>;\n\nlet c = 2; const d = [\n  3];\n"

theorem scatteredItems_moved :
    LaidOut scatteredItems (.read Syntax.parse scatteredItems) ∧
      (hoistDeclarations.plan (.read Syntax.parse scatteredItems)).edits ≠ [] ∧
      ∃ target body after, hoistTarget? (.read Syntax.parse scatteredItems) = some target ∧
        target.function.functionBody? = some body ∧
        (Document.read Syntax.parse scatteredItems).render
          (hoistDeclarations.plan (.read Syntax.parse scatteredItems)).edits = .ok after ∧
        dense (bytesOf after) = dense ((Document.read Syntax.parse scatteredItems).moved
          (moduleDeclarations (.read Syntax.parse scatteredItems)) body) ∧
        (hoistDeclarations.plan (.read Syntax.parse scatteredItems)).records =
          (moduleDeclarations (.read Syntax.parse scatteredItems)).map
            (hoistRecord (.read Syntax.parse scatteredItems) target.name) := by
  have both : LaidOut scatteredItems (.read Syntax.parse scatteredItems) ∧
      (hoistDeclarations.plan (.read Syntax.parse scatteredItems)).edits ≠ [] := by
    decide +kernel
  exact ⟨both.1, both.2, hoisting_moves_declarations both.1 both.2⟩

end Moving

end Repair

end ComponentGate
