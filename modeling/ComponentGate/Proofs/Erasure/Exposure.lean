import ComponentGate.Proofs.Erasure.Bare

/-! What erasing types can expose. A name behind a cast is none to the blocking rules; once the cast is
gone it may be a forbidden one. What is not behind a cast looks to the rules as it did. -/

namespace ComponentGate

open Syntax

namespace Erasure

/-- Whether erasing leaves a node as it is, if not what is below it. -/
def isStill (tree : Tree) : Bool :=
  match tree.kind? with
  | none => true
  | some kind =>
    !isGone tree && !unwrappedKinds.contains kind && kind != .optionalParameter

mutual

/-- Whether erasing leaves everything that an expression's name is made of. -/
def isOpen : Tree → Bool
  | .node label children =>
    isStill (.node label children) &&
      match label.symbol with
      | .construct .memberExpression =>
        isOpenChild .object children && isOpenChild .property children
      | .construct .subscriptExpression =>
        isOpenChild .object children && isOpenChild .index children
      | _ => true

def isOpenChild (role : Role) : List Tree → Bool
  | [] => true
  | tree :: rest => if tree.role == some role then isOpen tree else isOpenChild role rest

end

/-- The roles in which a node's children give it a name. -/
def namingRoles : List Role := [.function, .constructor, .left, .source]

/-- Whether erasing leaves the arguments and the first of them. -/
def hasOpenArguments (node : Tree) : Bool :=
  (node.child? .arguments).all fun given =>
    given.isNamed && isStill given && given.significantChildren.head?.all isStill

/-- Whether a node's name, or what it is given first, stands behind something that erasing removes. -/
def isVeiled (node : Tree) : Bool :=
  !(isOpen node && namingRoles.all (fun role => isOpenChild role node.children) &&
    hasOpenArguments node)

theorem isOpenChild_eq (role : Role) (trees : List Tree) :
    isOpenChild role trees = (trees.find? fun tree => tree.role == some role).all isOpen := by
  induction trees with
  | nil => rfl
  | cons tree rest ih =>
    by_cases played : (tree.role == some role) = true
    · simp [isOpenChild, played]
    · simp [isOpenChild, played, ih]

theorem isOpen_eq (tree : Tree) :
    isOpen tree = (isStill tree &&
      match tree.label.symbol with
      | .construct .memberExpression =>
        isOpenChild .object tree.children && isOpenChild .property tree.children
      | .construct .subscriptExpression =>
        isOpenChild .object tree.children && isOpenChild .index tree.children
      | _ => true) := by
  cases tree
  rw [isOpen]
  rfl

theorem isStill_of_isOpen {tree : Tree} (opened : isOpen tree = true) : isStill tree = true := by
  cases tree
  rw [isOpen, Bool.and_eq_true] at opened
  exact opened.1

section Still

variable {document : Document} {tree other : Tree}

theorem bare_of_isStill (still : isStill tree = true) (named : tree.isNamed = true) :
    bare tree = some (.node tree.label (tree.children.filterMap bare)) := by
  obtain ⟨label, children⟩ := tree
  cases symbol : label.symbol with
  | token text => simp [Tree.isNamed, Tree.kind?, symbol] at named
  | construct kind =>
    simp only [isStill, Tree.kind?, Tree.label_node, symbol, Bool.and_eq_true, Bool.not_eq_true',
      bne_iff_ne, ne_eq] at still
    obtain ⟨⟨stays, whole⟩, mandatory⟩ := still
    have same : keptSymbol (.construct kind) = .construct kind := by simp [keptSymbol, mandatory]
    rw [bare, symbol]
    simp only [stays, whole, Bool.false_eq_true, ↓reduceIte, same, bareAll_eq_filterMap]
    rw [← symbol]
    rfl

/-- What erasing leaves as it is keeps its label. -/
theorem exists_bare_of_isStill (still : isStill tree = true) :
    ∃ left, bare tree = some left ∧ left.label = tree.label := by
  cases named : tree.isNamed with
  | false => exact ⟨_, bare_of_unnamed named, rfl⟩
  | true => exact ⟨_, bare_of_isStill still named, rfl⟩

theorem label_of_isStill (still : isStill tree = true) (left : bare tree = some other) :
    other.label = tree.label := by
  obtain ⟨same, eq, label⟩ := exists_bare_of_isStill still
  rw [eq, Option.some.injEq] at left
  rw [← left, label]

/-- A search that what is left answers as before finds what is left of the same tree. -/
theorem find_filterMap_bare {holds : Tree → Bool} {trees : List Tree}
    (skips : ∀ tree ∈ trees, holds tree = false → ∀ left, bare tree = some left → holds left = false)
    (keeps : ∀ tree, trees.find? holds = some tree →
      ∃ left, bare tree = some left ∧ holds left = true) :
    (trees.filterMap bare).find? holds = (trees.find? holds).bind bare := by
  induction trees with
  | nil => rfl
  | cons tree rest ih =>
    cases held : holds tree with
    | true =>
      obtain ⟨left, eq, still⟩ := keeps tree (by simp [held])
      simp [held, eq, still]
    | false =>
      have later : (rest.filterMap bare).find? holds = (rest.find? holds).bind bare := by
        apply ih
        · intro tree member
          exact skips tree (List.mem_cons_of_mem _ member)
        · intro tree found
          exact keeps tree (by simpa [held] using found)
      rw [List.find?_cons_of_neg (by simp [held]), ← later]
      cases eq : bare tree with
      | none => simp [eq]
      | some left =>
        have missed := skips tree List.mem_cons_self held left eq
        simp [eq, missed]

theorem find_role_filterMap_bare {role : Role} {trees : List Tree}
    (still : (trees.find? fun tree => tree.role == some role).all isStill = true) :
    (trees.filterMap bare).find? (fun tree => tree.role == some role) =
      (trees.find? fun tree => tree.role == some role).bind bare := by
  apply find_filterMap_bare
  · intro tree _ unplayed left eq
    rw [role_of_bare eq]
    exact unplayed
  · intro tree found
    rw [found] at still
    obtain ⟨left, eq, _⟩ := exists_bare_of_isStill still
    have played := List.find?_some found
    refine ⟨left, eq, ?_⟩
    rw [role_of_bare eq]
    exact played

/-- The part of a construct in a role is left if both stay as they are. -/
theorem child_bare {role : Role} (named : tree.isNamed = true) (still : isStill tree = true)
    (left : bare tree = some other) (part : (tree.child? role).all isStill = true) :
    other.child? role = (tree.child? role).bind bare := by
  rw [bare_of_isStill still named, Option.some.injEq] at left
  rw [← left]
  exact find_role_filterMap_bare part

/-- The meant children of a construct come first as before, if the first one is left. -/
theorem head_significant_filterMap_bare (given : Tree)
    (still : given.significantChildren.head?.all isStill = true) (label : Label) :
    (Syntax.Tree.node label (given.children.filterMap bare)).significantChildren.head? =
      given.significantChildren.head?.bind bare := by
  simp only [Tree.significantChildren, Tree.namedChildren, List.filter_filter, List.head?_filter,
    Tree.children_node] at still ⊢
  apply find_filterMap_bare
  · intro tree _ unmeant left eq
    cases named : tree.isNamed with
    | false =>
      rw [bare_of_unnamed named, Option.some.injEq] at eq
      have unnamed : left.isNamed = false := by
        rw [← eq]
        exact named
      simp [unnamed]
    | true =>
      have comment : tree.isComment = true := by simpa [named] using unmeant
      rw [bare_of_isComment comment] at eq
      cases eq
  · intro tree found
    rw [found] at still
    obtain ⟨left, eq, label⟩ := exists_bare_of_isStill still
    have meant := List.find?_some found
    refine ⟨left, eq, ?_⟩
    simpa [Tree.isNamed, Tree.isComment, Tree.isKind, Tree.kind?, label] using meant

/-- Of an open part of a construct that stays, what is left plays the same role. -/
theorem child_bare_cases {role : Role} (named : tree.isNamed = true) (still : isStill tree = true)
    (left : bare tree = some other) (opened : isOpenChild role tree.children = true) :
    (tree.child? role = none ∧ other.child? role = none) ∨
      ∃ child rest, tree.child? role = some child ∧ other.child? role = some rest ∧
        isOpen child = true ∧ bare child = some rest := by
  have whole : (tree.child? role).all isOpen = true := by rwa [isOpenChild_eq] at opened
  have part := @child_bare _ _ role named still left
  cases found : tree.child? role with
  | none =>
    rw [found] at part
    exact .inl ⟨rfl, part rfl⟩
  | some child =>
    rw [found] at part whole
    have stays := isStill_of_isOpen whole
    obtain ⟨rest, eq, _⟩ := exists_bare_of_isStill stays
    exact .inr ⟨child, rest, rfl, (part stays).trans eq, whole, eq⟩

/-- A view of an open part is the same of what is left of it, if the view agrees on open trees. -/
theorem bind_child_bare {role : Role} {view : Tree → Option α} (named : tree.isNamed = true)
    (still : isStill tree = true) (left : bare tree = some other)
    (opened : isOpenChild role tree.children = true)
    (agree : ∀ child, tree.child? role = some child → isOpen child = true →
      ∀ rest, bare child = some rest → view rest = view child) :
    (other.child? role).bind view = (tree.child? role).bind view := by
  rcases child_bare_cases named still left opened with
    ⟨none, gone⟩ | ⟨child, rest, here, there, opened, eq⟩
  · rw [none, gone]
  · rw [here, there]
    exact agree child here opened rest eq

end Still

section Labels

variable {document : Document} {one other : Tree} (same : one.label = other.label)

include same

theorem kind_of_label : one.kind? = other.kind? := by
  rw [Tree.kind?, Tree.kind?, same]

theorem isKind_of_label (kind : Kind) : one.isKind kind = other.isKind kind := by
  rw [Tree.isKind, Tree.isKind, kind_of_label same]

theorem isOneOf_of_label (kinds : List Kind) : one.isOneOf kinds = other.isOneOf kinds := by
  rw [Tree.isOneOf, Tree.isOneOf, kind_of_label same]

theorem text_of_label : document.text one = document.text other := by
  rw [Document.text, Document.text, Tree.start, Tree.start, Tree.stop, Tree.stop, same]

theorem stringValue_of_label : document.stringValue? one = document.stringValue? other := by
  rw [Document.stringValue?, Document.stringValue?, Tree.isSpelledString, Tree.isSpelledString,
    Tree.isToken, Tree.isToken, isKind_of_label same, text_of_label same, same]

end Labels

section Names

variable {document : Document} {tree other : Tree}

/-- A name that erasing leaves open stays the same. -/
theorem dottedName_of_isOpen (opened : isOpen tree = true) (left : bare tree = some other) :
    document.dottedName? other = document.dottedName? tree := by
  induction tree using Tree.induction_on_children generalizing other with
  | step tree ih =>
    have still := isStill_of_isOpen opened
    have same := label_of_isStill still left
    rw [dottedName_eq, dottedName_eq document tree, same, text_of_label same]
    cases symbol : tree.label.symbol with
    | token text => rfl
    | construct kind =>
      have named := isNamed_of_construct symbol
      -- The name of an open receiver is that of what is left of it.
      have receiver (object : isOpenChild .object tree.children = true) :
          (other.child? .object).bind document.dottedName? =
            (tree.child? .object).bind document.dottedName? :=
        bind_child_bare named still left object fun child found opened _ eq =>
          ih child (List.mem_of_find?_eq_some found) opened eq
      rw [isOpen_eq, symbol, Bool.and_eq_true] at opened
      by_cases member : kind = .memberExpression
      · subst member
        simp only [Bool.and_eq_true] at opened ⊢
        obtain ⟨-, object, property⟩ := opened
        rw [receiver object]
        rcases child_bare_cases named still left property with
          ⟨none, gone⟩ | ⟨access, rest, here, there, opened, eq⟩
        · rw [none, gone]
        · have spelled := label_of_isStill (isStill_of_isOpen opened) eq
          rw [here, there]
          cases (tree.child? .object).bind document.dottedName? with
          | none => rfl
          | some object => simp only [isKind_of_label spelled, text_of_label spelled]
      by_cases subscript : kind = .subscriptExpression
      · subst subscript
        simp only [Bool.and_eq_true] at opened ⊢
        obtain ⟨-, object, index⟩ := opened
        have key := bind_child_bare named still left index fun child _ opened _ eq =>
          @stringValue_of_label document _ _ (label_of_isStill (isStill_of_isOpen opened) eq)
        rw [receiver object, key]
      · split <;> first | rfl | simp_all

/-- The property that an open access names stays the same. -/
theorem property_of_isOpen (opened : isOpen tree = true) (left : bare tree = some other) :
    Rule.property? document other = Rule.property? document tree := by
  have still := isStill_of_isOpen opened
  have same := label_of_isStill still left
  rw [Rule.property?, Rule.property?, isKind_of_label same]
  by_cases member : tree.isKind .memberExpression = true
  · have symbol := Tree.isKind_iff.1 member
    rw [isOpen_eq, symbol] at opened
    simp only [Bool.and_eq_true] at opened
    obtain ⟨-, -, property⟩ := opened
    rw [if_pos member, if_pos member]
    rcases child_bare_cases (isNamed_of_construct symbol) still left property with
      ⟨none, gone⟩ | ⟨access, rest, here, there, opened, eq⟩
    · rw [none, gone]
    · rw [here, there, Option.map_some, Option.map_some,
        text_of_label (label_of_isStill (isStill_of_isOpen opened) eq)]
  · rw [if_neg member, if_neg member]

/-- What a construct is given first stays of its kind if nothing hides it. -/
theorem head_callArguments_bare (left : bare tree = some other) (still : isStill tree = true)
    (named : tree.isNamed = true) (opened : hasOpenArguments tree = true) (kinds : List Kind) :
    other.callArguments.head?.any (·.isOneOf kinds) =
      tree.callArguments.head?.any (·.isOneOf kinds) := by
  have found := @child_bare _ _ .arguments named still left
  rw [hasOpenArguments] at opened
  rw [Tree.callArguments, Tree.callArguments]
  cases taken : tree.child? .arguments with
  | none =>
    rw [taken] at found
    rw [found rfl]
    rfl
  | some given =>
    rw [taken] at found
    rw [taken, Option.all_some, Bool.and_eq_true, Bool.and_eq_true] at opened
    obtain ⟨⟨construct, givenStill⟩, first⟩ := opened
    rw [found givenStill, Option.bind_some, bare_of_isStill givenStill construct]
    simp only [head_significant_filterMap_bare given first]
    cases head : given.significantChildren.head? with
    | none => rfl
    | some argument =>
      rw [head] at first
      obtain ⟨rest, eq, same⟩ := exists_bare_of_isStill first
      simp [eq, isOneOf_of_label same]

/-- Without a veil the rules see the same of a construct and of what is left of it. -/
theorem sight_of_unveiled (named : tree.isNamed = true) (unveiled : isVeiled tree = false)
    (left : bare tree = some other) : document.sight other = document.sight tree := by
  rw [isVeiled, Bool.not_eq_false', Bool.and_eq_true, Bool.and_eq_true, List.all_eq_true] at unveiled
  obtain ⟨⟨opened, naming⟩, arguments⟩ := unveiled
  have still := isStill_of_isOpen opened
  have same := label_of_isStill still left
  have given := head_callArguments_bare left still named arguments
  have dotted : document.dottedName? other = document.dottedName? tree :=
    dottedName_of_isOpen opened left
  -- A view of a child that gives the name is the same if it agrees on what erasing leaves open.
  have through {α : Type} (role : Role) (member : role ∈ namingRoles) (view : Tree → Option α)
      (agree : ∀ child rest, isOpen child = true → bare child = some rest →
        view rest = view child) :
      (other.child? role).bind view = (tree.child? role).bind view :=
    bind_child_bare named still left (naming role member) fun child _ opened rest eq =>
      agree child rest opened eq
  have name (role : Role) (member : role ∈ namingRoles) :=
    through role member document.dottedName? fun _ _ => dottedName_of_isOpen
  have property (role : Role) (member : role ∈ namingRoles) :=
    through role member (Rule.property? document) fun _ _ => property_of_isOpen
  have specifier := through .source (by decide) document.stringValue? fun _ _ opened eq =>
    stringValue_of_label (label_of_isStill (isStill_of_isOpen opened) eq)
  have loads : (other.child? .function).any (·.isKind .importName) =
      (tree.child? .function).any (·.isKind .importName) := by
    have kept := through .function (by decide) (fun child => some (child.isKind .importName))
      fun _ _ opened eq =>
        congrArg some (isKind_of_label (label_of_isStill (isStill_of_isOpen opened) eq) .importName)
    cases before : tree.child? .function <;> cases after : other.child? .function <;>
      simp [before, after] at kept ⊢
    exact kept
  have word : (if other.isOneOf bareNameKinds then some (document.text other) else none) =
      if tree.isOneOf bareNameKinds then some (document.text tree) else none := by
    rw [isOneOf_of_label same, text_of_label same]
  simp only [Document.sight, kind_of_label same, word, dotted, given, loads, Document.specifier?,
    specifier, name .function (by decide), property .function (by decide),
    name .constructor (by decide), name .left (by decide), property .left (by decide)]

end Names

end Erasure

end ComponentGate
