import ComponentGate.Proofs.Repair.Rounds
import ComponentGate.Proofs.Repair.Sequence
import ComponentGate.Proofs.Repair.Shifting

/-! Whether statements stay apart when declarations are moved into a function. The texts that are meant stand
one behind the other, in the function and in the module; a statement that ends without a semicolon may go on
with what comes to stand behind it, and then two of them are read as one. -/

namespace ComponentGate

open Syntax Preamble Document

namespace Syntax.Tree

/-- Where the inside of a block begins. -/
def openedAt (block : Tree) : Nat := (block.children.head?.getD block).stop

/-- What stands between the braces of a block. -/
def enclosed (block : Tree) : List Tree :=
  (block.children.drop 1).takeWhile fun child => !child.isToken "\x7d"

def closing? (block : Tree) : Option Tree := (block.children.drop 1).find? (·.isToken "\x7d")

end Syntax.Tree

namespace Repair

/-- What a parser is relied on for: it reads the statements of a module, and those of a block up to the
closing brace, one behind the other; a statement of the module ends with what shows, or is on one line; and a
function does not begin with its body. -/
structure Listed (takes : List UInt8 → Nat) (document : Document) : Prop where
  top : Reads takes document.content 0 document.root.children document.content.length
  ended : ∀ child ∈ document.root.children, lineFeed ∉ document.span child ∨
    (document.content[child.stop - 1]?.any fun byte => !isBlankByte byte) = true
  block : ∀ node ∈ document.root.preorder, node.isKind .statementBlock = true →
    ∃ closing ∈ node.closing?, closing.start < closing.stop ∧
      Reads takes document.content node.openedAt node.enclosed closing.start
  begun : ∀ node ∈ document.root.preorder, ∀ body ∈ node.functionBody?, node.start < body.start

instance (takes : List UInt8 → Nat) (document : Document) : Decidable (Listed takes document) :=
  decidable_of_iff
    (Reads takes document.content 0 document.root.children document.content.length ∧
      (∀ child ∈ document.root.children, lineFeed ∉ document.span child ∨
        (document.content[child.stop - 1]?.any fun byte => !isBlankByte byte) = true) ∧
      ∀ node ∈ document.root.preorder,
        (node.isKind .statementBlock = true →
          ∃ closing ∈ node.closing?, closing.start < closing.stop ∧
            Reads takes document.content node.openedAt node.enclosed closing.start) ∧
        ∀ body ∈ node.functionBody?, node.start < body.start)
    ⟨fun ⟨top, ended, nodes⟩ =>
      ⟨top, ended, fun node visited => (nodes node visited).1, fun node visited => (nodes node visited).2⟩,
    fun listed => ⟨listed.top, listed.ended, fun node visited =>
      ⟨listed.block node visited, listed.begun node visited⟩⟩⟩

section Places

variable {takes : List UInt8 → Nat} {text : String} {document : Document} {target : ExportedFunction}
  {body child tree : Tree} {place : Nat}

/-- Removing a declaration takes nothing from another statement of the module, nor from what ends it. -/
theorem not_cleared_of_child (laid : LaidOut text document) (listed : Listed takes document)
    (member : child ∈ document.root.children) (plain : child.isDeclaration = false)
    (present : tree ∈ moduleDeclarations document) (behind : child.start ≤ place)
    (before : place < child.stop) :
    place < document.clearedFrom tree ∨ document.clearedTo tree ≤ place := by
  obtain ⟨here, declares⟩ := mem_children_of_mem_moduleDeclarations present
  have self := Tree.mem_preorder_self document.root
  have visited := Tree.mem_preorder_of_mem_children self here
  rcases laid.siblings self here member with rfl | order
  · rw [plain] at declares
    cases declares
  · exact not_cleared_of_apart (listed.top.opens_of_mem member) (listed.ended child member)
      (laid.forward tree visited) (laid.stop_le visited) order behind before

theorem cell_removals_of_child (laid : LaidOut text document) (listed : Listed takes document)
    (member : child ∈ document.root.children) (plain : child.isDeclaration = false)
    (behind : child.start ≤ place) (before : place < child.stop) :
    Edit.cell document.content ((moduleDeclarations document).map document.removeStatement) place =
      document.content[place]?.toList := by
  apply Edit.cell_of_untouched
  intro edit made
  obtain ⟨tree, present, rfl⟩ := List.mem_map.1 made
  have apart := not_cleared_of_child laid listed member plain present behind before
  have filled := (fits_removal laid present).2.1
  rw [removeStatement_eq] at filled ⊢
  simp only [Edit.insertsAt_iff, Edit.covers_iff, Edit.delete] at filled ⊢
  omega

/-- Outside the statements that stay nothing comes out that shows. -/
theorem dense_cell_removals (laid : LaidOut text document) (listed : Listed takes document)
    (before : place < document.content.length)
    (outside : ∀ child ∈ document.root.children, child.isDeclaration = false →
      place < child.start ∨ child.stop ≤ place) :
    dense (Edit.cell document.content ((moduleDeclarations document).map document.removeStatement) place) =
      [] := by
  rw [cell_removals]
  split
  · rfl
  · rename_i uncovered
    apply dense_eq_nil
    intro byte here
    refine listed.top.blank_outside (Nat.zero_le _) before (fun child member => ?_) (Option.mem_toList.1 here)
    cases declares : child.isDeclaration with
    | false => exact outside child member declares
    | true =>
      by_contra! inside
      apply uncovered
      refine List.any_eq_true.2 ⟨child, mem_moduleDeclarations member declares, ?_⟩
      have front := clearedFrom_le document child
      have back := le_clearedTo (laid.stop_le
        (Tree.mem_preorder_of_mem_children (Tree.mem_preorder_self document.root) member))
      simp only [Bool.and_eq_true, decide_eq_true_eq]
      omega

/-- The braces of a block lie in it, and its statements between them. -/
theorem exists_closing (laid : LaidOut text document) (listed : Listed takes document)
    (reached : body ∈ document.root.preorder) (kind : body.isKind .statementBlock = true) :
    ∃ closing : Tree, body.start ≤ body.openedAt ∧ closing.start < closing.stop ∧
      closing.stop ≤ body.stop ∧
      Reads takes document.content body.openedAt body.enclosed closing.start := by
  obtain ⟨closing, last, filled, reads⟩ := listed.block body reached kind
  obtain ⟨brace, head, -⟩ := Option.map_eq_some_iff.1 (laid.braced body reached kind)
  have first := List.mem_of_head? head
  have opening := laid.nested body reached brace first
  have ordered := laid.forward brace (Tree.mem_preorder_of_mem_children reached first)
  have closed := laid.nested body reached closing (List.mem_of_mem_drop (List.mem_of_find?_eq_some last))
  refine ⟨closing, ?_, filled, closed.2, reads⟩
  rw [Tree.openedAt, head]
  exact opening.1.trans ordered

/-- Where declarations are moved to lies inside an export statement, behind its first byte. -/
theorem exists_place (laid : LaidOut text document) (listed : Listed takes document)
    (found : hoistTarget? document = some target) (answered : target.function.functionBody? = some body)
    (declarations : List Tree) :
    ∃ statement ∈ document.root.children, statement.isDeclaration = false ∧
      target.function ∈ statement.preorder ∧ ∃ start stop : Nat,
        (hoistEdit document target.function body declarations).range = ((start : Int), (stop : Int)) ∧
        statement.start < start ∧ start ≤ stop ∧ start < statement.stop ∧ stop ≤ statement.stop := by
  obtain ⟨statement, exported, kind, below⟩ := exists_export_of_hoistTarget found
  have self := Tree.mem_preorder_self document.root
  have outer := Tree.mem_preorder_of_mem_children self exported
  have visited := Tree.preorder_subset_of_mem_children exported below
  have member := mem_children_of_functionBody answered
  have reached := Tree.mem_preorder_of_mem_children visited member
  have begun := listed.begun _ visited body answered
  have around := laid.inside outer below
  have inner := laid.nested _ visited body member
  have other : statement.isDeclaration = false := by
    rw [Tree.isKind, beq_iff_eq] at kind
    rw [Tree.isDeclaration, Tree.isOneOf, kind]
    rfl
  refine ⟨statement, exported, other, below, ?_⟩
  cases block : body.isKind .statementBlock with
  | true =>
    obtain ⟨closing, opening, filled, closed, reads⟩ := exists_closing laid listed reached block
    have order := reads.bounds.1
    exact ⟨body.openedAt, body.openedAt, range_hoistEdit_of_block document _ block declarations,
      by omega, by omega, by omega, by omega⟩
  | false =>
    have filled := (laid.answered _ visited body answered block).filled
    exact ⟨body.start, body.stop, range_hoistEdit_of_expression document _ block declarations,
      by omega, by omega, by omega, by omega⟩

end Places

section Texts

variable {takes : List UInt8 → Nat} {text after indent : String} {document : Document}
  {target : ExportedFunction} {body child tree : Tree} {rest : List (List UInt8)} {bytes : List UInt8}

/-- What becomes of a statement that declarations are moved out from beside, or into. -/
def outcome (document : Document) (child : Tree) : List UInt8 :=
  Edit.cells document.content (hoistDeclarations.plan document).edits child.start child.stop

/-- What becomes of the statements of a module that stay there. -/
def remaining (document : Document) : List (List UInt8) :=
  (document.root.children.filter fun child => !child.isDeclaration).map (outcome document)

/-- A declaration's text with its lines shifted, the first of which has what indents it in front. -/
def movedText (document : Document) (indent : String) (tree : Tree) : List UInt8 :=
  encoded (shifted indent.toList (keepsLine tree) tree.start (document.text tree).toList [])

/-- The statements of a body that declarations are moved to the front of. -/
def filledBody (document : Document) (function body : Tree) : List (List UInt8) :=
  (moduleDeclarations document).map (movedText document (movedIndent document function body)) ++
    if body.isKind .statementBlock then body.enclosed.map document.span
    else [bytesOf "return " ++ document.span body ++ bytesOf ";"]

/-- Where, once declarations are moved, the inside of the body begins. -/
def landing (document : Document) (body : Tree) : Nat :=
  let removals := (moduleDeclarations document).map document.removeStatement
  if body.isKind .statementBlock then (Edit.cells document.content removals 0 body.openedAt).length
  else (Edit.cells document.content removals 0 body.start).length + 1

theorem edits_of_planned (planned : (hoistDeclarations.plan document).edits ≠ [])
    (found : hoistTarget? document = some target) (answered : target.function.functionBody? = some body) :
    (hoistDeclarations.plan document).edits =
      hoistEdit document target.function body (moduleDeclarations document) ::
        (moduleDeclarations document).map document.removeStatement := by
  obtain ⟨target', body', found', answered', plan⟩ := plan_of_edits planned
  obtain rfl := Option.some.inj (found.symm.trans found')
  obtain rfl := Option.some.inj (answered.symm.trans answered')
  rw [plan]

/-- Where declarations are moved to lies inside an export statement, and elsewhere only the removals do
anything. -/
theorem exists_statement (laid : LaidOut text document) (listed : Listed takes document)
    (planned : (hoistDeclarations.plan document).edits ≠ [])
    (found : hoistTarget? document = some target)
    (answered : target.function.functionBody? = some body) :
    ∃ statement ∈ document.root.children, statement.isDeclaration = false ∧
      target.function ∈ statement.preorder ∧
      ∀ place : Nat, place ≤ statement.start ∨ statement.stop ≤ place →
        Edit.cell document.content (hoistDeclarations.plan document).edits place =
          Edit.cell document.content ((moduleDeclarations document).map document.removeStatement)
            place := by
  obtain ⟨statement, exported, plain, below, start, stop, range, front, order, inside, back⟩ :=
    exists_place laid listed found answered (moduleDeclarations document)
  refine ⟨statement, exported, plain, below, fun place outside => ?_⟩
  obtain ⟨first, last⟩ := Prod.mk.inj range
  rw [edits_of_planned planned found answered]
  exact Edit.cell_cons_of_outside (by omega)

/-- What stays in the module stands there one behind the other. -/
theorem standing_remaining (laid : LaidOut text document) (listed : Listed takes document)
    (planned : (hoistDeclarations.plan document).edits ≠ [])
    (rendered : document.render (hoistDeclarations.plan document).edits = .ok after) :
    Standing (remaining document) (bytesOf after) := by
  obtain ⟨target, body, found, answered, -⟩ := plan_of_edits planned
  have whole : bytesOf after = Edit.cells document.content (hoistDeclarations.plan document).edits 0
      (document.content.length + 1) := by
    obtain ⟨after', -, -, -, -, -, rendered', cells, -⟩ := exists_render_hoisting laid found answered rfl
    rw [edits_of_planned planned found answered] at rendered ⊢
    obtain rfl := Except.ok.inj (rendered.symm.trans rendered')
    exact cells
  obtain ⟨statement, exported, plain, -, elsewhere⟩ :=
    exists_statement laid listed planned found answered
  have self := Tree.mem_preorder_self document.root
  rw [whole]
  apply standing_cells listed.top
  · intro place _ before outside
    have apart := outside statement exported (by simp [plain])
    rw [elsewhere place (by omega)]
    exact dense_cell_removals laid listed before
      fun child member stays => outside child member (by simp [stays])
  · intro child member stays
    have stays : child.isDeclaration = false := by simpa using stays
    obtain ⟨-, filled, last⟩ := listed.top.bounds.2.2 child member
    have begins := listed.top.opens_of_mem member
    have first : Edit.cell document.content (hoistDeclarations.plan document).edits child.start =
        document.content[child.start]?.toList := by
      rw [elsewhere, cell_removals_of_child laid listed member stays (Nat.le_refl _) filled]
      rcases laid.siblings self member exported with rfl | order | order
      · exact .inl (Nat.le_refl _)
      · exact .inl (by omega)
      · exact .inr order
    rwa [opens, Edit.head?_cells first (by omega) filled, ← opens]
  · have beyond : document.content[document.content.length]? = none := List.getElem?_eq_none (Nat.le_refl _)
    have last : Edit.cell document.content (hoistDeclarations.plan document).edits
        document.content.length = [] := by
      rw [elsewhere _ (.inr (listed.top.bounds.2.2 statement exported).2.2), cell_removals, beyond]
      split <;> rfl
    rw [Edit.cells_succ _ _ (Nat.lt_succ_self _), last, Edit.cells, Nat.sub_self]
    rfl

/-- A statement that stays, and that the function is not in, stays as it was. -/
theorem outcome_of_other (laid : LaidOut text document) (listed : Listed takes document)
    (planned : (hoistDeclarations.plan document).edits ≠ [])
    (found : hoistTarget? document = some target)
    (answered : target.function.functionBody? = some body)
    (member : child ∈ document.root.children) (plain : child.isDeclaration = false)
    (other : target.function ∉ child.preorder) : outcome document child = document.span child := by
  obtain ⟨statement, exported, -, below, elsewhere⟩ :=
    exists_statement laid listed planned found answered
  apply Edit.cells_of_still
  intro place behind before
  rw [elsewhere, cell_removals_of_child laid listed member plain behind before]
  rcases laid.siblings (Tree.mem_preorder_self _) member exported with rfl | order | order
  · exact absurd below other
  · exact .inl (by omega)
  · exact .inr (by omega)

/-- The statements of a block stand behind its opening brace as they did. -/
theorem standing_enclosed (laid : LaidOut text document) (listed : Listed takes document)
    (found : hoistTarget? document = some target)
    (answered : target.function.functionBody? = some body)
    (kind : body.isKind .statementBlock = true) :
    Standing (body.enclosed.map document.span)
      (Edit.cells document.content ((moduleDeclarations document).map document.removeStatement)
        body.openedAt (document.content.length + 1)) := by
  obtain ⟨statement, exported, plain, below, -⟩ :=
    exists_place laid listed found answered (moduleDeclarations document)
  have outer := Tree.mem_preorder_of_mem_children (Tree.mem_preorder_self document.root) exported
  have visited := Tree.preorder_subset_of_mem_children exported below
  have member := mem_children_of_functionBody answered
  have reached := Tree.mem_preorder_of_mem_children visited member
  have around := laid.inside outer (Tree.mem_preorder_of_mem_children below member)
  obtain ⟨closing, opening, filled, closed, reads⟩ := exists_closing laid listed reached kind
  have within : statement.stop ≤ document.content.length := laid.stop_le outer
  obtain ⟨order, -, inside⟩ := reads.bounds
  have still (place : Nat) (behind : body.openedAt ≤ place) (before : place ≤ closing.start) :
      Edit.cell document.content ((moduleDeclarations document).map document.removeStatement) place =
        document.content[place]?.toList :=
    cell_removals_of_child laid listed exported plain (by omega) (by omega)
  have all : body.enclosed.map document.span = (body.enclosed.filter fun _ => true).map fun tree =>
      Edit.cells document.content ((moduleDeclarations document).map document.removeStatement)
        tree.start tree.stop := by
    rw [List.filter_true]
    refine List.map_congr_left fun tree enclosed => ?_
    have := inside tree enclosed
    exact (Edit.cells_of_still fun place behind before => still place (by omega) (by omega)).symm
  rw [all]
  apply standing_cells reads
  · intro place behind before outside
    rw [still place behind before.le]
    apply dense_eq_nil
    intro byte here
    exact reads.blank_outside behind before (fun tree enclosed => outside tree enclosed rfl)
      (Option.mem_toList.1 here)
  · intro tree enclosed _
    have := inside tree enclosed
    rw [opens, Edit.head?_cells (still _ (by omega) (by omega)) (by omega) (by omega), ← opens]
    exact reads.opens_of_mem enclosed
  · rw [closes, Edit.head?_cells (still _ order (Nat.le_refl _)) (by omega) (by omega), ← closes]
    exact reads.closes_behind

theorem bytesOf_reindented (document : Document) (tree : Tree) (indent : String) :
    bytesOf (reindented document tree indent) = bytesOf indent ++ movedText document indent tree := by
  rw [bytesOf_eq_encoded, toList_reindented, encoded_append, ← bytesOf_eq_encoded]
  rfl

/-- A text that is shifted begins as it did. -/
theorem head?_movedText (laid : LaidOut text document) (visited : tree ∈ document.root.preorder)
    (filled : tree.start < tree.stop) :
    (movedText document indent tree).head? = (document.content.drop tree.start).head? := by
  have bytes := laid.bytesOf_span visited
  rw [bytesOf_eq_encoded] at bytes
  have first : (document.span tree).head? = (document.content.drop tree.start).head? := by
    rw [span, List.head?_drop, List.head?_drop, List.getElem?_take_of_lt filled]
  rw [← first, ← bytes, movedText]
  cases (document.text tree).toList with
  | nil => rfl
  | cons c rest =>
    rw [shifted, encoded, encoded, List.flatMap_cons, List.flatMap_cons]
    cases letters : String.utf8EncodeChar c with
    | nil => exact absurd (String.length_utf8EncodeChar c) (by rw [letters]; exact c.utf8Size_pos.ne)
    | cons byte more => rfl

/-- Lines of moved declarations stand in front of what follows them. -/
theorem standing_moved (standing : Standing rest bytes) (blank : dense (bytesOf indent) = [])
    {declarations : List Tree}
    (begins : ∀ tree ∈ declarations, opens (movedText document indent tree) = true) :
    Standing (declarations.map (movedText document indent) ++ rest)
      ((declarations.flatMap fun tree => bytesOf ("\n" ++ reindented document tree indent)) ++ bytes) := by
  have gap : dense (bytesOf "\n" ++ bytesOf indent) = [] := by
    rw [dense_append, blank, List.append_nil]
    decide +kernel
  induction declarations with
  | nil => exact standing
  | cons tree more ih =>
    rw [List.forall_mem_cons] at begins
    have line : bytesOf ("\n" ++ reindented document tree indent) =
        bytesOf "\n" ++ bytesOf indent ++ movedText document indent tree := by
      rw [bytesOf_append, bytesOf_reindented, List.append_assoc]
    rw [List.flatMap_cons, line, List.append_assoc, List.append_assoc]
    exact .next gap begins.1 (ih begins.2)

theorem opens_movedText (laid : LaidOut text document) (listed : Listed takes document)
    (member : tree ∈ moduleDeclarations document) : opens (movedText document indent tree) = true := by
  have here := (mem_children_of_mem_moduleDeclarations member).1
  have visited := Tree.mem_preorder_of_mem_children (Tree.mem_preorder_self document.root) here
  rw [opens, head?_movedText laid visited (listed.top.bounds.2.2 tree here).2.1, ← opens]
  exact listed.top.opens_of_mem here

theorem bytesOf_intercalate_lineFeed (lines : List String) (filled : lines ≠ []) :
    bytesOf "\n" ++ bytesOf ("\n".intercalate lines) = lines.flatMap fun line => bytesOf ("\n" ++ line) := by
  induction lines with
  | nil => exact absurd rfl filled
  | cons first rest ih =>
    cases rest with
    | nil => rw [String.intercalate_singleton, List.flatMap_singleton, bytesOf_append]
    | cons second rest =>
      rw [String.intercalate_cons_cons, List.flatMap_cons, ← ih (List.cons_ne_nil _ _), bytesOf_append,
        bytesOf_append, bytesOf_append]
      simp only [List.append_assoc]

theorem bytesOf_concat (lines : List String) :
    bytesOf ("".intercalate lines) = lines.flatMap bytesOf := by
  induction lines with
  | nil => rfl
  | cons first rest ih =>
    cases rest with
    | nil => rw [String.intercalate_singleton, List.flatMap_singleton]
    | cons second rest =>
      have nothing : bytesOf "" = [] := by decide +kernel
      rw [String.intercalate_cons_cons, List.flatMap_cons, ← ih, bytesOf_append, bytesOf_append, nothing,
        List.append_nil]

theorem moduleDeclarations_ne_nil (planned : (hoistDeclarations.plan document).edits ≠ []) :
    moduleDeclarations document ≠ [] := by
  rcases hoistDeclarations_cases document with none | ⟨_, _, -, -, filled, -⟩
  · rw [none] at planned
    exact absurd rfl planned
  · exact filled

/-- The block that an expression becomes the answer of. -/
theorem written_hoistEdit_of_expression (laid : LaidOut text document)
    (kind : body.isKind .statementBlock = false) (reached : body ∈ document.root.preorder)
    {declarations : List Tree} (some : declarations ≠ []) (function : Tree) :
    (hoistEdit document function body declarations).written =
      0x7B :: (declarations.flatMap fun tree =>
          bytesOf ("\n" ++ reindented document tree (movedIndent document function body))) ++
        (bytesOf ("\n" ++ movedIndent document function body) ++
          (bytesOf "return " ++ document.span body ++ bytesOf ";") ++
            bytesOf ("\n" ++ document.lineIndent function.start) ++ bytesOf "\x7d") := by
  have opening : bytesOf "\x7b\n" = 0x7B :: bytesOf "\n" := by decide +kernel
  have closing : bytesOf ";\n" = bytesOf ";" ++ bytesOf "\n" := by decide +kernel
  have lines := bytesOf_intercalate_lineFeed (declarations.map fun tree =>
    reindented document tree (movedIndent document function body)) (by simpa using some)
  rw [List.flatMap_map] at lines
  rw [hoistEdit_of_expression document function kind, Edit.written, Edit.replace, ← lines]
  simp only [bytesOf_append, opening, closing, laid.bytesOf_span reached, List.append_assoc,
    List.cons_append]

/-- The moved declarations and what the body had stand one behind the other in it. -/
theorem standing_filledBody (laid : LaidOut text document) (listed : Listed takes document)
    (planned : (hoistDeclarations.plan document).edits ≠ [])
    (found : hoistTarget? document = some target)
    (answered : target.function.functionBody? = some body)
    (rendered : document.render (hoistDeclarations.plan document).edits = .ok after) :
    Standing (filledBody document target.function body) ((bytesOf after).drop (landing document body)) := by
  obtain ⟨after', start, stop, -, -, range, rendered', -, bytes⟩ :=
    exists_render_hoisting laid found answered rfl
  rw [edits_of_planned planned found answered] at rendered
  obtain rfl := Except.ok.inj (rendered.symm.trans rendered')
  have blank := dense_movedIndent document target.function body
  have begins : ∀ tree ∈ moduleDeclarations document,
      opens (movedText document (movedIndent document target.function body) tree) = true :=
    fun tree member => opens_movedText laid listed member
  rw [bytes, landing]
  cases kind : body.isKind .statementBlock with
  | true =>
    obtain ⟨rfl, rfl⟩ := place_of_block kind range
    rw [filledBody, if_pos kind, if_pos rfl, hoistEdit_of_block document target.function kind,
      Edit.written, Edit.insert, bytesOf_concat, List.flatMap_map, ← Tree.openedAt, List.drop_left]
    exact standing_moved (standing_enclosed laid listed found answered kind) blank begins
  | false =>
    obtain ⟨rfl, rfl⟩ := place_of_expression kind range
    have lineEnd : dense (bytesOf "\n") = [] := by decide +kernel
    have gap {indent : String} (blank : dense (bytesOf indent) = []) :
        dense (bytesOf ("\n" ++ indent)) = [] := by
      rw [dense_bytesOf_append, blank, lineEnd, List.append_nil]
    have answer : opens (bytesOf "return " ++ document.span body ++ bytesOf ";") = true :=
      opens_append (opens_append (by decide +kernel))
    have brace (bytes : List UInt8) : closes (bytesOf "\x7d" ++ bytes) = true := by
      have single : bytesOf "\x7d" = [0x7D] := by decide +kernel
      rw [single]
      rfl
    rw [filledBody, kind, if_neg Bool.false_ne_true, if_neg Bool.false_ne_true,
      written_hoistEdit_of_expression laid kind (mem_preorder_of_functionBody found answered)
        (moduleDeclarations_ne_nil planned),
      List.drop_length_add_append, List.cons_append, List.cons_append, List.drop_one, List.tail_cons]
    simpa only [List.append_assoc] using standing_moved
      (.next (gap blank) answer (.done (gap (dense_lineIndent document _)) (brace _))) blank begins

/-- Moving declarations leaves the texts that are meant one behind the other, those of the module and, where
the function's body begins, the declarations with their lines shifted in front of what the body had. They are
the statements that are read there exactly if each of them is still taken whole. -/
theorem hoisting_keeps_apart_iff {parse : Parse} {document' : Document} (laid : LaidOut text document)
    (listed : Listed takes document)
    (made : attempt? parse document (hoistDeclarations.plan document).edits = some (after, document'))
    (listed' : Listed takes document') :
    ∃ target body, hoistTarget? document = some target ∧ target.function.functionBody? = some body ∧
      (∀ child ∈ document.root.children, child.isDeclaration = false →
        target.function ∉ child.preorder → outcome document child = document.span child) ∧
      Standing (remaining document) (bytesOf after) ∧
      (document'.root.children.map document'.span = remaining document ↔
        TakenWhole takes (remaining document) (bytesOf after)) ∧
      Standing (filledBody document target.function body) ((bytesOf after).drop (landing document body)) ∧
      ∀ target' body', hoistTarget? document' = some target' →
        target'.function.functionBody? = some body' → body'.isKind .statementBlock = true →
          body'.openedAt = landing document body →
            (body'.enclosed.map document'.span = filledBody document target.function body ↔
              TakenWhole takes (filledBody document target.function body)
                ((bytesOf after).drop (landing document body))) := by
  obtain ⟨planned, read, -⟩ := edits_of_attempt made
  have rendered := render_of_attempt made
  have content : document'.content = bytesOf after := by
    rw [read]
    rfl
  obtain ⟨target, body, found, answered, -⟩ := plan_of_edits planned
  have outside := standing_remaining laid listed planned rendered
  have inside := standing_filledBody laid listed planned found answered rendered
  refine ⟨target, body, found, answered, fun child member plain other =>
    outcome_of_other laid listed planned found answered member plain other, outside, ?_, inside, ?_⟩
  · rw [← content] at outside ⊢
    exact listed'.top.map_span_eq_iff outside
  · intro target' body' found' answered' kind place
    obtain ⟨closing, -, -, reads⟩ :=
      listed'.block body' (mem_preorder_of_functionBody found' answered') kind
    rw [← content] at inside ⊢
    rw [place] at reads
    exact reads.map_span_eq_iff inside

/-- How much the grammar takes from the front of a text: a comment, a statement, or the line of `#!`. -/
def taken (bytes : List UInt8) : Nat :=
  match String.fromUTF8? ⟨bytes.toArray⟩ with
  | none => 0
  | some text =>
    let start := Cursor.ofString text
    let statement := Fragment.choice
      [Grammar.hashBang, Grammar.htmlComment, readWithin (depthFor start.rest) 0 .statement]
    match start.nextToken.1 ++ ((statement start).map Prod.fst).getD [] with
    | [] => 0
    | first :: _ => first.stop

/-- Statements that end with their lines, and a comment. -/
def unmarkedItem : String := "// k\nconst a = 1\nexport default () => \x7b\n  b()\n\x7d\n"

theorem unmarkedItem_apart :
    ∃ target body made target' body', hoistTarget? (.read Syntax.parse unmarkedItem) = some target ∧
      target.function.functionBody? = some body ∧
      attempt? Syntax.parse (.read Syntax.parse unmarkedItem)
        (hoistDeclarations.plan (.read Syntax.parse unmarkedItem)).edits = some made ∧
      hoistTarget? made.2 = some target' ∧ target'.function.functionBody? = some body' ∧
      made.2.root.children.map made.2.span = remaining (.read Syntax.parse unmarkedItem) ∧
      body'.enclosed.map made.2.span =
        filledBody (.read Syntax.parse unmarkedItem) target.function body := by
  -- evaluated together, so that each text is parsed once
  obtain ⟨laid, listed, ⟨after, document⟩, made, listed', whole, target, found, body, answered, target',
      found', body', answered', kind, place, whole'⟩ :
      LaidOut unmarkedItem (.read Syntax.parse unmarkedItem) ∧
      Listed taken (.read Syntax.parse unmarkedItem) ∧
      ∃ made ∈ attempt? Syntax.parse (.read Syntax.parse unmarkedItem)
        (hoistDeclarations.plan (.read Syntax.parse unmarkedItem)).edits, Listed taken made.2 ∧
        TakenWhole taken (remaining (.read Syntax.parse unmarkedItem)) (bytesOf made.1) ∧
        ∃ target ∈ hoistTarget? (.read Syntax.parse unmarkedItem),
          ∃ body ∈ target.function.functionBody?, ∃ target' ∈ hoistTarget? made.2,
            ∃ body' ∈ target'.function.functionBody?, body'.isKind .statementBlock = true ∧
              body'.openedAt = landing (.read Syntax.parse unmarkedItem) body ∧
              TakenWhole taken (filledBody (.read Syntax.parse unmarkedItem) target.function body)
                ((bytesOf made.1).drop (landing (.read Syntax.parse unmarkedItem) body)) := by
    decide +kernel
  obtain ⟨target₁, body₁, found₁, answered₁, -, -, outside, -, inside⟩ :=
    hoisting_keeps_apart_iff laid listed made listed'
  obtain rfl := Option.some.inj (found₁.symm.trans found)
  obtain rfl := Option.some.inj (answered₁.symm.trans answered)
  exact ⟨target₁, body₁, (after, document), target', body', found, answered, made, found', answered',
    outside.2 whole, (inside target' body' found' answered' kind place).2 whole'⟩

/-- A declaration that ends with its line, in front of a function that begins with a bracket. -/
def joinedItem : String := "const a = 1\nexport default () => \x7b\n  (b)();\n\x7d;\n"

/-- The declaration and the statement that comes to stand behind it are read as one. -/
theorem joinedItem_joined :
    (moduleDeclarations (.read Syntax.parse joinedItem)).map (Document.read Syntax.parse joinedItem).text =
        ["const a = 1"] ∧
      (∃ target ∈ hoistTarget? (.read Syntax.parse joinedItem), ∃ body ∈ target.function.functionBody?,
        body.enclosed.map (Document.read Syntax.parse joinedItem).text = ["(b)();"]) ∧
      ∃ made ∈ attempt? Syntax.parse (.read Syntax.parse joinedItem)
          (hoistDeclarations.plan (.read Syntax.parse joinedItem)).edits,
        made.1 = "export default () => \x7b\n  const a = 1\n  (b)();\n\x7d;\n" ∧
          ∃ target ∈ hoistTarget? made.2, ∃ body ∈ target.function.functionBody?,
            body.enclosed.map made.2.text = ["const a = 1\n  (b)();"] := by
  decide +kernel

end Texts

end Repair

end ComponentGate
