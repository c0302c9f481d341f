import ComponentGate.Prompt.Catalog
import ComponentGate.Prompt.Feedback
import ComponentGate.Proofs.Text.Trimming

/-! The catalog as a sequence of blocks. Each entry has a block of its own, and utilities come first. All that
an entry says stands in its block word for word, except that the first line of the block loses the colons and
spaces at its end. -/

namespace ComponentGate

/-- What is taken off the end of an entry's first line. -/
def isMark (c : Char) : Bool := c == ':' || c == ' '

/-- A text ends in a character that is no mark. -/
def EndsPlain (text : List Char) : Prop := ∃ c ∈ text.getLast?, isMark c = false

/-- A text stands in a whole right behind an opening of it. -/
def StandsBehind (opening part whole : List Char) : Prop := opening ++ part <+: whole

section Marks

variable {opening part text tail whole : List Char}

theorem withoutTrailingMarks_eq (text : String) :
    CatalogEntry.withoutTrailingMarks text = String.ofList (text.toList.rdropWhile isMark) := rfl

theorem not_endsPlain_concat {c : Char} (mark : isMark c = true) : ¬EndsPlain (text ++ [c]) := by
  simp [EndsPlain, mark]

theorem endsPlain_append_iff (marked : ¬EndsPlain opening) :
    EndsPlain (opening ++ part) ↔ EndsPlain part := by
  cases part with
  | nil =>
    rw [List.append_nil]
    exact iff_of_false marked fun ⟨_, last, _⟩ => by cases last
  | cons c rest => rw [EndsPlain, List.getLast?_append_of_ne_nil _ (List.cons_ne_nil _ _), EndsPlain]

theorem endsPlain_iff (filled : text ≠ []) : EndsPlain text ↔ text.rdropWhile isMark = text := by
  rw [Text.rdropWhile_eq_self_iff_getLast?, EndsPlain, List.getLast?_eq_getLast_of_ne_nil filled]
  simp

/-- What a text lost at its end is not made up for by a tail that begins otherwise. -/
theorem prefix_unmarked_iff (fresh : ∀ c ∈ tail.head?, isMark c = false) (filled : text ≠ []) :
    text <+: text.rdropWhile isMark ++ tail ↔ EndsPlain text := by
  rw [endsPlain_iff filled]
  constructor
  · intro begins
    have parts := List.rdropWhile_append_rtakeWhile (p := isMark) (l := text)
    have lost : text.rtakeWhile isMark <+: tail := by
      rw [← List.prefix_append_right_inj (text.rdropWhile isMark), parts]
      exact begins
    cases marks : text.rtakeWhile isMark with
    | nil => rwa [marks, List.append_nil] at parts
    | cons c rest =>
      obtain ⟨behind, rfl⟩ := marks ▸ lost
      have mark := List.mem_rtakeWhile_imp (marks ▸ List.mem_cons_self)
      simp [fresh c rfl] at mark
  · intro plain
    rw [plain]
    exact List.prefix_append _ _

theorem infix_iff_standsBehind (own : List Char) :
    part <:+: whole ↔ StandsBehind own part whole ∨ ∃ opening ≠ own, StandsBehind opening part whole := by
  constructor
  · rintro ⟨opening, rest, parts⟩
    by_cases same : opening = own
    · exact .inl ⟨rest, same ▸ parts⟩
    · exact .inr ⟨opening, same, rest, parts⟩
  · rintro (⟨rest, parts⟩ | ⟨opening, -, rest, parts⟩)
    · exact ⟨own, rest, parts⟩
    · exact ⟨opening, rest, parts⟩

end Marks

namespace Prompt

theorem joinLines_append {first second : List String} (filled : first ≠ []) (more : second ≠ []) :
    joinLines (first ++ second) = joinLines first ++ "\n" ++ joinLines second :=
  String.intercalate_append_of_ne_nil filled more

theorem infix_joinLines {lines : List String} {line : String} (member : line ∈ lines) :
    line.toList <:+: (joinLines lines).toList := by
  induction lines with
  | nil => cases member
  | cons first rest ih =>
    by_cases last : rest = []
    · subst last
      obtain rfl := List.mem_singleton.1 member
      exact (congrArg String.toList String.intercalate_singleton).symm ▸ List.infix_refl _
    · rw [joinLines, String.intercalate_cons_of_ne_nil last, String.toList_append, String.toList_append,
        List.append_assoc]
      rcases List.mem_cons.1 member with rfl | later
      · exact (List.prefix_append _ _).isInfix
      · exact (ih later).trans ((List.suffix_append _ _).isInfix.trans (List.suffix_append _ _).isInfix)

end Prompt

namespace CatalogEntry

variable {entry : CatalogEntry}

/-- The lines about an entry. -/
def block (entry : CatalogEntry) : String := Prompt.joinLines entry.describe

/-- What an entry says beside its name and description. -/
def particulars (entry : CatalogEntry) : List String :=
  [entry.signature, entry.returnType, entry.props, entry.category, entry.importPath,
    entry.usage].filterMap id

theorem infix_detail (label : String) {part : String} (filled : part ≠ "") :
    ∃ line ∈ detail label (some part), part.toList <:+: line.toList := by
  have written : detail label (some part) = [s!"  {label}: {part}"] := by
    simp [detail, filled]
  refine ⟨_, written ▸ List.mem_singleton_self _, ?_⟩
  simp only [toString, String.toList_append]
  exact (List.suffix_append _ _).isInfix

theorem infix_importLine (name path : String) : path.toList <:+: (importLine name path).toList := by
  simp only [importLine, toString, String.toList_append]
  exact List.infix_append _ _ _

theorem particular_infix_block {part : String} (said : part ∈ entry.particulars) :
    part.toList <:+: entry.block.toList := by
  by_cases filled : part = ""
  · rw [filled]
    exact List.nil_infix
  have behind (label : String) {value : Option String} (given : value = some part)
      (listed : ∀ line ∈ detail label value, line ∈ entry.describe) :
      ∃ line ∈ entry.describe, part.toList <:+: line.toList := by
    subst given
    obtain ⟨line, member, inside⟩ := infix_detail label filled
    exact ⟨line, listed line member, inside⟩
  obtain ⟨line, member, inside⟩ : ∃ line ∈ entry.describe, part.toList <:+: line.toList := by
    simp only [particulars, List.mem_filterMap, List.mem_cons, List.not_mem_nil, or_false, id_eq] at said
    obtain ⟨_, said, rfl⟩ := said
    rcases said with said | said | said | said | said | said
    · exact behind "Signature" said.symm fun _ member => by simp [describe, member]
    · exact behind "Returns" said.symm fun _ member => by simp [describe, member]
    · exact behind "Props" said.symm fun _ member => by simp [describe, member]
    · exact behind "Category" said.symm fun _ member => by simp [describe, member]
    · have written : importLine entry.name part ≠ "" := by
        simp [importLine, toString]
      obtain ⟨line, member, inside⟩ := infix_detail "Import" written
      refine ⟨line, ?_, (infix_importLine entry.name part).trans inside⟩
      simp [describe, ← said, filled, member]
    · exact behind "Example" said.symm fun _ member => by simp [describe, member]
  exact inside.trans (Prompt.infix_joinLines member)

/-- The first line of an entry's block, before marks are taken off its end. -/
def firstLine (entry : CatalogEntry) : List Char :=
  "- ".toList ++ entry.name.toList ++ ": ".toList ++ entry.description.toList

/-- A block begins with its first line without the marks at its end; what follows begins with no mark. -/
theorem exists_block (entry : CatalogEntry) :
    ∃ tail, (∀ c ∈ tail.head?, isMark c = false) ∧
      entry.block.toList = entry.firstLine.rdropWhile isMark ++ tail := by
  obtain ⟨details, lines⟩ : ∃ details, entry.describe =
      withoutTrailingMarks s!"- {entry.name}: {entry.description}" :: details := ⟨_, rfl⟩
  have first : (withoutTrailingMarks s!"- {entry.name}: {entry.description}").toList =
      entry.firstLine.rdropWhile isMark := by
    rw [withoutTrailingMarks_eq, String.toList_ofList]
    simp [firstLine, toString]
  rw [block, lines]
  cases details with
  | nil =>
    refine ⟨[], nofun, ?_⟩
    rw [Prompt.joinLines, String.intercalate_singleton, first, List.append_nil]
  | cons second rest =>
    refine ⟨'\n' :: (Prompt.joinLines (second :: rest)).toList, ?_, ?_⟩
    · rintro c ⟨⟩
      rfl
    · rw [Prompt.joinLines, String.intercalate_cons_of_ne_nil (List.cons_ne_nil _ _),
        String.toList_append, String.toList_append, first, List.append_assoc]
      rfl

theorem not_endsPlain_bullet : ¬EndsPlain "- ".toList := by
  simp [EndsPlain, isMark]

theorem not_endsPlain_bullet_name (name : String) :
    ¬EndsPlain ("- ".toList ++ name.toList ++ ": ".toList) := by
  have last : "- ".toList ++ name.toList ++ ": ".toList =
      "- ".toList ++ name.toList ++ [':'] ++ [' '] := by simp
  rw [last]
  exact not_endsPlain_concat rfl

theorem standsBehind_name_iff (entry : CatalogEntry) :
    StandsBehind "- ".toList entry.name.toList entry.block.toList ↔
      EndsPlain entry.name.toList ∨ ∃ c ∈ entry.description.toList, isMark c = false := by
  obtain ⟨tail, fresh, parts⟩ := entry.exists_block
  by_cases plain : ∃ c ∈ entry.description.toList, isMark c = false
  · have kept : ¬∀ c ∈ entry.description.toList, isMark c = true := by simpa using plain
    refine iff_of_true ?_ (.inr plain)
    rw [StandsBehind, parts, firstLine, Text.rdropWhile_append_of_not_forall kept, List.append_assoc,
      List.append_assoc]
    exact List.prefix_append _ _
  · have marks : ∀ c ∈ ": ".toList ++ entry.description.toList, isMark c = true := by
      intro c member
      rcases List.mem_append.1 member with colon | described
      · revert c
        simp [isMark]
      · exact eq_true_of_ne_false fun other => plain ⟨c, described, other⟩
    rw [or_iff_left plain, ← endsPlain_append_iff not_endsPlain_bullet, StandsBehind, parts, firstLine,
      List.append_assoc, Text.rdropWhile_append_of_forall marks]
    exact prefix_unmarked_iff fresh (by simp)

theorem standsBehind_description_iff (entry : CatalogEntry) :
    StandsBehind ("- ".toList ++ entry.name.toList ++ ": ".toList) entry.description.toList
        entry.block.toList ↔
      EndsPlain entry.description.toList := by
  obtain ⟨tail, fresh, parts⟩ := entry.exists_block
  rw [StandsBehind, parts, ← endsPlain_append_iff (not_endsPlain_bullet_name entry.name)]
  exact prefix_unmarked_iff fresh (by simp)

/-- All that an entry says. -/
def sayings (entry : CatalogEntry) : List String :=
  entry.name :: entry.description :: entry.particulars

/-- The name of an entry does not lose its end, or stands in the entry's block once more. -/
def KeepsName (entry : CatalogEntry) : Prop :=
  (EndsPlain entry.name.toList ∨ ∃ c ∈ entry.description.toList, isMark c = false) ∨
    ∃ opening ≠ "- ".toList, StandsBehind opening entry.name.toList entry.block.toList

/-- The description of an entry does not lose its end, or stands in the entry's block once more. -/
def KeepsDescription (entry : CatalogEntry) : Prop :=
  EndsPlain entry.description.toList ∨
    ∃ opening ≠ "- ".toList ++ entry.name.toList ++ ": ".toList,
      StandsBehind opening entry.description.toList entry.block.toList

theorem sayings_infix_block_iff (entry : CatalogEntry) :
    (∀ part ∈ entry.sayings, part.toList <:+: entry.block.toList) ↔
      entry.KeepsName ∧ entry.KeepsDescription := by
  have particulars : ∀ part ∈ entry.particulars, part.toList <:+: entry.block.toList :=
    fun _ said => particular_infix_block said
  rw [sayings, List.forall_mem_cons, List.forall_mem_cons, and_iff_left particulars,
    infix_iff_standsBehind "- ".toList, standsBehind_name_iff,
    infix_iff_standsBehind ("- ".toList ++ entry.name.toList ++ ": ".toList),
    standsBehind_description_iff]
  rfl

end CatalogEntry

namespace Prompt

/-- A part of the section: a line that says the same for all catalogs, or the block of an entry. -/
inductive Item where
  | words (line : String)
  | block (entry : CatalogEntry)

namespace Item

def lines : Item → List String
  | words line => [line]
  | block entry => entry.describe

def text : Item → String
  | words line => line
  | block entry => entry.block

def entry? : Item → Option CatalogEntry
  | words _ => none
  | block entry => some entry

theorem text_eq (item : Item) : item.text = joinLines item.lines := by
  cases item with
  | words line => exact String.intercalate_singleton.symm
  | block entry => rfl

theorem lines_ne_nil (item : Item) : item.lines ≠ [] := by
  cases item <;> exact List.cons_ne_nil _ _

end Item

/-- Lines can be joined item by item. -/
theorem joinLines_flatMap_lines (items : List Item) :
    joinLines (items.flatMap Item.lines) = joinLines (items.map Item.text) := by
  induction items with
  | nil => rfl
  | cons item rest ih =>
    cases rest with
    | nil => simp [joinLines, Item.text_eq, String.intercalate_singleton]
    | cons next rest =>
      have more : (next :: rest).flatMap Item.lines ≠ [] :=
        List.append_ne_nil_of_left_ne_nil next.lines_ne_nil _
      calc
        joinLines (item.lines ++ (next :: rest).flatMap Item.lines)
          = item.text ++ "\n" ++ joinLines ((next :: rest).flatMap Item.lines) :=
            item.text_eq ▸ joinLines_append item.lines_ne_nil more
        _ = item.text ++ "\n" ++ joinLines ((next :: rest).map Item.text) := by rw [ih]
        _ = joinLines ((item :: next :: rest).map Item.text) :=
            (String.intercalate_cons_of_ne_nil (List.cons_ne_nil _ _)).symm

/-- The items under a title. -/
def page (title : String) (entries : List CatalogEntry) (advice : List String) : List Item :=
  .words title :: entries.map .block ++ advice.map .words

def pageText (page : List Item) : String := joinLines (page.map Item.text)

theorem pageText_append {first second : List Item} (filled : first ≠ []) (more : second ≠ []) :
    pageText (first ++ second) = pageText first ++ "\n" ++ pageText second := by
  rw [pageText, List.map_append, joinLines_append (by simpa using filled) (by simpa using more)]
  rfl

def kindPages (title : String) (entries : List CatalogEntry) (advice : List String) :
    List (List Item) :=
  if entries.isEmpty then [] else [page title entries advice]

theorem kindSection_eq (title : String) (entries : List CatalogEntry) (advice : List String) :
    kindSection title entries advice = (kindPages title entries advice).map pageText := by
  have lines : title :: entries.flatMap CatalogEntry.describe ++ advice =
      (page title entries advice).flatMap Item.lines := by
    simp [page, List.flatMap_map, Item.lines]
  unfold kindSection kindPages
  split
  · rfl
  · rw [lines]
    exact congrArg ([·]) (joinLines_flatMap_lines _)

def pages (entries : List CatalogEntry) : List (List Item) :=
  kindPages utilitiesTitle (ofKind entries .utility) [utilitiesAdvice] ++
    kindPages componentsTitle (ofKind entries .component) []

/-- The items of the whole section. -/
def layout (entries : List CatalogEntry) : List Item :=
  if entries.isEmpty then []
  else (pages entries).flatMap (· ++ [.words ""]) ++ [.words importAdvice]

theorem ofKind_append_perm (entries : List CatalogEntry) :
    (ofKind entries .utility ++ ofKind entries .component).Perm entries := by
  have others : ofKind entries .component = entries.filter fun entry => !(entry.kind == .utility) := by
    apply List.filter_congr
    intro entry _
    cases entry.kind <;> rfl
  rw [others]
  exact List.filter_append_perm _ entries

theorem pages_eq_nil_iff (entries : List CatalogEntry) : pages entries = [] ↔ entries = [] := by
  have none : ofKind entries .utility ++ ofKind entries .component = [] ↔ entries = [] :=
    ⟨fun none => List.nil_perm.1 (none ▸ ofKind_append_perm entries), fun none => by rw [none]; rfl⟩
  rw [← none, pages, kindPages, kindPages]
  split <;> split <;> simp_all

/-- Pages with an empty line behind each. -/
theorem intercalate_pages (pages : List (List Item)) (filled : ∀ page ∈ pages, page ≠ [])
    (last : String) :
    "\n\n".intercalate (pages.map pageText ++ [last]) =
      pageText (pages.flatMap (· ++ [.words ""]) ++ [.words last]) := by
  induction pages with
  | nil => rfl
  | cons page rest ih =>
    have more : rest.map pageText ++ [last] ≠ [] := by simp
    have others : rest.flatMap (· ++ [.words ""]) ++ [.words last] ≠ [] := by simp
    have gap (before behind : String) :
        before ++ "\n\n" ++ behind = before ++ "\n" ++ (pageText [.words ""] ++ "\n" ++ behind) := by
      apply String.toList_injective
      simp [pageText, Item.text, joinLines]
    rw [List.map_cons, List.cons_append, String.intercalate_cons_of_ne_nil more,
      ih fun page member => filled page (.tail _ member), gap, List.flatMap_cons, List.append_assoc,
      List.append_assoc, pageText_append (filled page (.head _)) (by simp),
      pageText_append (List.cons_ne_nil _ _) others]

theorem catalogSection_eq (entries : List CatalogEntry) :
    catalogSection entries = joinLines ((layout entries).map Item.text) := by
  have filled : ∀ page ∈ pages entries, page ≠ [] := by
    simp only [pages, kindPages]
    split <;> split <;> simp [page]
  have sections : kindSection utilitiesTitle (ofKind entries .utility) [utilitiesAdvice] ++
      kindSection componentsTitle (ofKind entries .component) [] = (pages entries).map pageText := by
    rw [kindSection_eq, kindSection_eq, ← List.map_append]
    rfl
  simp only [catalogSection, sections, layout, List.isEmpty_iff, List.map_eq_nil_iff, pages_eq_nil_iff]
  split
  · rfl
  · exact intercalate_pages _ filled _

/-- The lines that are not about one entry. -/
def phrases : List String := [utilitiesTitle, utilitiesAdvice, componentsTitle, importAdvice, ""]

theorem mem_of_kindPages {title line : String} {entries : List CatalogEntry} {advice : List String}
    (member : .words line ∈ (kindPages title entries advice).flatMap (· ++ [.words ""])) :
    line ∈ title :: advice ++ [""] := by
  unfold kindPages at member
  split at member
  · cases member
  · simpa [page, or_assoc] using member

theorem mem_phrases_of_layout {entries : List CatalogEntry} {line : String}
    (member : .words line ∈ layout entries) : line ∈ phrases := by
  unfold layout at member
  split at member
  · cases member
  · rw [pages, List.flatMap_append, List.mem_append, List.mem_append] at member
    have ofUtilities : utilitiesTitle :: [utilitiesAdvice] ++ [""] ⊆ phrases := by simp [phrases]
    have ofComponents : componentsTitle :: [] ++ [""] ⊆ phrases := by simp [phrases]
    have ofAll : [importAdvice] ⊆ phrases := by simp [phrases]
    rcases member with (utilities | components) | last
    · exact ofUtilities (mem_of_kindPages utilities)
    · exact ofComponents (mem_of_kindPages components)
    · exact ofAll (by simpa using last)

theorem filterMap_layout (entries : List CatalogEntry) :
    (layout entries).filterMap Item.entry? =
      ofKind entries .utility ++ ofKind entries .component := by
  have blocks (listed : List CatalogEntry) :
      (listed.map Item.block).filterMap Item.entry? = listed := by
    rw [List.filterMap_map]
    exact List.filterMap_some
  have none (lines : List String) : (lines.map Item.words).filterMap Item.entry? = [] := by
    simp [Item.entry?]
  have shown (title : String) (listed : List CatalogEntry) (advice : List String) :
      ((kindPages title listed advice).flatMap (· ++ [.words ""])).filterMap Item.entry? = listed := by
    unfold kindPages
    split
    next empty => exact (List.isEmpty_iff.1 empty).symm
    next =>
      rw [List.flatMap_singleton, page, List.filterMap_append, List.filterMap_append, none]
      exact (List.append_nil _).trans ((List.append_nil _).trans (blocks listed))
  unfold layout
  split
  next empty => rw [List.isEmpty_iff.1 empty]; rfl
  next =>
    rw [List.filterMap_append, pages, List.flatMap_append, List.filterMap_append, shown, shown]
    exact List.append_nil _

theorem catalogSection_eq_empty_iff (entries : List CatalogEntry) :
    catalogSection entries = "" ↔ entries = [] := by
  constructor
  · intro empty
    by_contra filled
    have last : importAdvice ∈ (layout entries).map Item.text := by
      rw [layout, if_neg (by simpa using filled), List.map_append]
      exact List.mem_append_right _ (List.mem_singleton_self _)
    have inside := infix_joinLines last
    rw [← catalogSection_eq, empty] at inside
    simpa [importAdvice] using List.infix_nil.1 inside
  · rintro rfl
    rfl

/-- The section consists of items: the blocks of the utilities and then those of the components, each in the
order of the list, among lines that are about no entry. All blocks say all that their entries say exactly if
each name and each description keeps its end or stands in its block once more. -/
theorem catalogSection_tells_iff (entries : List CatalogEntry) :
    ∃ items : List Item,
      catalogSection entries = joinLines (items.map Item.text) ∧
      items.filterMap Item.entry? = ofKind entries .utility ++ ofKind entries .component ∧
      (items.filterMap Item.entry?).Perm entries ∧
      (∀ line, .words line ∈ items → line ∈ phrases) ∧
      (catalogSection entries = "" ↔ entries = []) ∧
      (∀ entry ∈ entries, ∀ part ∈ entry.particulars, part.toList <:+: entry.block.toList) ∧
      ((∀ entry ∈ entries, ∀ part ∈ entry.sayings, part.toList <:+: entry.block.toList) ↔
        ∀ entry ∈ entries, entry.KeepsName ∧ entry.KeepsDescription) := by
  refine ⟨layout entries, catalogSection_eq entries, filterMap_layout entries, ?_,
    fun _ => mem_phrases_of_layout, catalogSection_eq_empty_iff entries,
    fun _ _ _ => CatalogEntry.particular_infix_block, ?_⟩
  · rw [filterMap_layout]
    exact ofKind_append_perm entries
  · exact forall₂_congr fun entry _ => entry.sayings_infix_block_iff

/-- A description that announces what comes. -/
def labelledBadge : CatalogEntry :=
  ⟨"Badge", "Shows one of two labels:", .component, none, none, none, none, none, none⟩

/-- The colon is not told. -/
theorem labelledBadge_loses_colon :
    catalogSection [labelledBadge] =
        "AVAILABLE COMPONENTS:\n- Badge: Shows one of two labels\n\n" ++
          "Always use the exact import paths listed above, as named imports." ∧
      ¬labelledBadge.description.toList <:+: (catalogSection [labelledBadge]).toList := by
  decide +kernel

end Prompt

end ComponentGate
