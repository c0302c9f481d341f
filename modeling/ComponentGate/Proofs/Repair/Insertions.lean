import ComponentGate.Proofs.Preamble.Patches
import ComponentGate.Proofs.Repair.Naming
import ComponentGate.Proofs.Repair.Plans
import ComponentGate.Repair.Staged

/-! What the passes insert. Keys, names of positions and handlers stand on lines of code, and an import is a
line of its own, so no pass but the one that moves declarations brings a preamble about. -/

namespace ComponentGate

open Syntax

namespace Entries

theorem mem_of_get {entries : List (String × α)} {key : String} {value : α}
    (found : get? entries key = some value) : (key, value) ∈ entries := by
  obtain ⟨entry, first, rfl⟩ := Option.map_eq_some_iff.1 found
  have same : entry.1 = key := by simpa using List.find?_some first
  rw [← same]
  exact List.mem_of_find?_eq_some first

end Entries

namespace Repair

open Preamble

/-- Whether a text is a word on one line. -/
def isWord (text : String) : Bool := text ≠ "" && !text.toList.contains '\n'

/-- Whether names are words, and directives end in a quote or a semicolon. -/
def isLegible (document : Document) : Bool :=
  document.root.preorder.all (fun node =>
      !(node.isKind .identifier || node.role == some .parameter) || isWord (document.text node)) &&
    document.root.children.all (fun statement =>
      !isDirective statement ||
        (document.text statement).toList.getLast?.any ['\'', '"', ';'].contains)

section Handlers

variable {document : Document}

theorem neat_handlerRepairs {given : Tree} :
    ∀ edit ∈ (handlerRepairs document given).edits, Neat edit := by
  have table : ∀ entry ∈ handlerNames,
      entry.1 ≠ "" ∧ '\n' ∉ entry.2.toList ∧ 'o' ∈ entry.2.toList := by decide
  intro edit member
  rcases handlerRepairs_cases document given with none | ⟨name, proper, -, -, found, planned⟩
  · rw [none] at member
    cases member
  · rw [planned] at member
    obtain ⟨spelled, within, shown⟩ := table _ (Entries.mem_of_get found)
    obtain rfl := List.mem_singleton.1 member
    exact neat_replace spelled (marked_of_line within shown (by decide))

end Handlers

section Keys

variable {document : Document}

theorem word_of_legible {node : Tree} (legible : isLegible document = true)
    (visited : node ∈ document.root.preorder)
    (word : node.isKind .identifier = true ∨ node.role = some .parameter) :
    document.text node ≠ "" ∧ '\n' ∉ (document.text node).toList := by
  rw [isLegible, Bool.and_eq_true, List.all_eq_true] at legible
  have spelled := legible.1 node visited
  rcases word with identifier | parameter
  · simpa [identifier, isWord] using spelled
  · simpa [parameter, isWord] using spelled

variable (legible : isLegible document = true)
include legible

theorem position_on_line {callback : Tree} {position : PositionName}
    (visited : callback ∈ document.root.preorder)
    (found : position? document callback = some position) :
    '\n' ∉ position.name.toList := by
  rcases fresh_or_text_of_position visited found with
    ⟨taken, fresh⟩ | ⟨node, present, identifier, old⟩
  · rw [fresh]
    exact freshName_on_line taken
  · rw [old]
    exact (word_of_legible legible present (.inl identifier)).2

theorem neat_position {callback : Tree} {position : PositionName}
    (visited : callback ∈ document.root.preorder)
    (found : position? document callback = some position) :
    ∀ edit ∈ position.edits, Neat edit := by
  have name := freshName_on_line (document.identifierNames callback)
  intro edit member
  cases positioned_of_position found with
  | bare given =>
    obtain rfl := List.mem_singleton.1 member
    obtain ⟨spelled, within⟩ := word_of_legible legible
      (Tree.mem_preorder_of_child visited given) (.inr (by simpa using List.find?_some given))
    refine neat_replace spelled (marked_of_line (c := '(') ?_ ?_ (by decide))
    · simp [toString, String.toList_append, within, name]
    · simp [toString, String.toList_append]
  | both unbare given empty =>
    obtain rfl := List.mem_singleton.1 member
    refine neat_insert (marked_of_line (c := '_') ?_ ?_ (by decide))
    · simp [toString, String.toList_append, name]
    · simp [toString, String.toList_append]
  | second unbare given alone =>
    obtain rfl := List.mem_singleton.1 member
    refine neat_insert (marked_of_line (c := ',') ?_ ?_ (by decide))
    · split <;> simp [toString, String.toList_append, name]
    · split <;> simp [toString, String.toList_append]
  | named unbare given several binds identifier => cases member

theorem neat_keyRepairs {call : Tree} (visited : call ∈ document.root.preorder) :
    ∀ edit ∈ (keyRepairs document call).edits, Neat edit := by
  intro edit member
  rcases keyRepairs_cases document call with
    none | ⟨callback, element, tag, position, adds, planned⟩
  · rw [none] at member
    cases member
  · have inside := mem_preorder_of_mapCallback visited adds.mapped
    rw [planned] at member
    rcases List.mem_append.1 member with parameter | key
    · exact neat_position legible inside adds.placed edit parameter
    · obtain rfl := List.mem_singleton.1 key
      have name := position_on_line legible inside adds.placed
      refine neat_insert (marked_of_line (c := 'k') ?_ ?_ (by decide))
      · simp [keyAttribute, String.toList_append, name]
      · simp [keyAttribute, String.toList_append]

end Keys

section BaseImport

variable {document : Document} {before after : String}

theorem directive_of_legible {directive : Tree} (legible : isLegible document = true)
    (found : lastDirective? document = some directive) :
    ∃ front c, c ∈ ['\'', '"', ';'] ∧ (document.text directive).toList = front ++ [c] := by
  have member := List.mem_of_getLast? found
  have child : directive ∈ document.root.children :=
    (List.mem_filter.1 (List.mem_filter.1 (List.takeWhile_subset _ member)).1).1
  have kind := List.all_eq_true.1 List.all_takeWhile directive member
  rw [isLegible, Bool.and_eq_true] at legible
  have ends := List.all_eq_true.1 legible.2 directive child
  rw [kind, Bool.not_true, Bool.false_or, Option.any_eq_true] at ends
  obtain ⟨c, last, listed⟩ := ends
  obtain ⟨front, whole⟩ := List.getLast?_eq_some_iff.1 last
  exact ⟨front, c, by simpa using listed, whole⟩

theorem marked_baseImport : Marked (bytesOf baseImport) :=
  marked_of_line (c := 'i') (by decide) (by decide) (by decide)

/-- The import behind the last character of a directive. -/
theorem marked_import {c : Char} (closing : c ∈ ['\'', '"', ';']) :
    Marked (encoded [c] ++ bytesOf ("\n" ++ baseImport)) := by
  have within : '\n' ∉ [c] := by
    intro feed
    rw [← List.mem_singleton.1 feed] at closing
    exact absurd closing (by decide)
  have other : c ≠ '-' := by
    rintro rfl
    exact absurd closing (by decide)
  have feed : bytesOf "\n" = [Document.lineFeed] := by decide
  rw [bytesOf_append, feed, List.singleton_append]
  exact .more (lineFeed_notMem_encoded within)
    (exists_shown_of_char List.mem_cons_self other) marked_baseImport

/-- Behind its directive the import is a patch: it begins with the directive's last character. -/
theorem patched_import {directive : Tree} (legible : isLegible document = true)
    (found : lastDirective? document = some directive)
    (made : document.render [.insert directive.stop ("\n" ++ baseImport)] = .ok after) :
    Patched document.bytes.data.toList (bytesOf after) := by
  obtain ⟨front, c, closing, whole⟩ := directive_of_legible legible found
  have spelled : document.text directive ≠ "" := by
    intro empty
    rw [empty] at whole
    simp at whole
  have own : document.bytes.data.toList = (document.bytes.extract 0 directive.stop).data.toList ++
      (document.bytes.extract directive.stop document.bytes.size).data.toList := by
    rw [← Array.toList_append, ← ByteArray.data_append, ByteArray.extract_append_extract,
      Nat.zero_min, ByteArray.extract_zero_max_size]
  have start := extract_append_extract_list document.bytes (Nat.zero_le directive.start)
    (range_of_text spelled)
  rw [bytes_of_text spelled, bytesOf_eq_encoded, whole, encoded_append] at start
  rw [own, bytes_of_insert made, start]
  simp only [List.append_assoc]
  refine .append _ (.append _ ?_)
  have piece := Patched.piece (encoded [c]) (marked_import closing)
    (.refl (document.bytes.extract directive.stop document.bytes.size).data.toList)
  rwa [List.append_assoc] at piece

/-- A text that begins with the import does not begin like a preamble. -/
theorem not_fenced_of_leading_import
    (made : document.render [.insert 0 (baseImport ++ "\n")] = .ok after) :
    ¬Fenced (bytesOf after) := by
  intro present
  have bytes := bytes_of_insert made
  obtain ⟨rest, opens, -⟩ := (fenced_iff _).1 present
  rw [opens, bytesOf_append, ByteArray.extract_same, List.append_assoc] at bytes
  exact absurd bytes.symm marked_baseImport.ne_dashes

/-- No import brings a preamble about: a directive ends its line, and it is no line of dashes. -/
theorem has_of_importEdit (legible : isLegible document = true)
    (read : document.bytes = before.toUTF8)
    (made : document.render [importEdit document] = .ok after)
    (present : has after = true) : has before = true := by
  rw [has_iff_fenced] at present ⊢
  rw [importEdit] at made
  cases found : lastDirective? document with
  | none =>
    rw [found] at made
    exact absurd present (not_fenced_of_leading_import made)
  | some directive =>
    rw [found] at made
    have patched := patched_import legible found made
    rw [read] at patched
    exact fenced_of_patched patched present

end BaseImport

/-- The passes behind the one that moves declarations. -/
def stayingPasses : List Pass := [listKeys, eventHandlers, ensureBaseImport]

/-- A pass that moves no declarations brings no preamble about. -/
theorem has_of_plan {document : Document} {pass : Pass} {before after : String}
    (member : pass ∈ stayingPasses) (legible : isLegible document = true)
    (read : document.bytes = before.toUTF8) (planned : (pass.plan document).edits ≠ [])
    (made : document.render (pass.plan document).edits = .ok after) (present : has after = true) :
    has before = true := by
  simp only [stayingPasses, List.mem_cons, List.not_mem_nil, or_false] at member
  rcases member with rfl | rfl | rfl
  · refine has_of_render read ?_ made present
    intro edit planned
    obtain ⟨repairs, listed, own⟩ := List.mem_flatMap.1 (Repairs.edits_concat _ ▸ planned)
    obtain ⟨call, kept, rfl⟩ := List.mem_map.1 listed
    have visited : call ∈ document.root.preorder := by
      rw [← Tree.nodes_eq_preorder]
      exact (List.mem_filter.1 kept).1
    exact neat_keyRepairs legible visited edit own
  · refine has_of_render read ?_ made present
    intro edit planned
    obtain ⟨repairs, listed, own⟩ := List.mem_flatMap.1 (Repairs.edits_concat _ ▸ planned)
    obtain ⟨given, -, rfl⟩ := List.mem_map.1 listed
    exact neat_handlerRepairs edit own
  · simp only [ensureBaseImport] at made planned
    split at made
    · exact has_of_importEdit legible read made present
    · rename_i idle
      rw [if_neg idle] at planned
      exact absurd rfl planned

end Repair

end ComponentGate
