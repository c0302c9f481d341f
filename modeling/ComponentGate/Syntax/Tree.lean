import ComponentGate.Syntax.Kind

/-!
Concrete syntax trees: every token of the text is a leaf, comments included, and every node knows
the bytes and the line it starts on. `preorder` lists a tree's nodes, a parent before its children.
-/

namespace ComponentGate.Syntax

/-- A node stands either for a construct or for a fixed piece of text. -/
inductive Symbol where
  | token (text : String)
  | construct (kind : Kind)
  deriving DecidableEq, Repr, Inhabited

/-- Offsets count bytes of the parsed text; `row` counts line feeds before the node. -/
structure Label where
  symbol : Symbol
  role : Option Role
  start : Nat
  stop : Nat
  row : Nat
  deriving DecidableEq, Repr, Inhabited

inductive Tree where
  | node (label : Label) (children : List Tree)
  deriving Repr, Inhabited

namespace Tree

def label : Tree → Label
  | node label _ => label

def children : Tree → List Tree
  | node _ children => children

@[simp] theorem label_node (label : Label) (children : List Tree) :
    (node label children).label = label := rfl

@[simp] theorem children_node (label : Label) (children : List Tree) :
    (node label children).children = children := rfl

def start (tree : Tree) : Nat := tree.label.start

def stop (tree : Tree) : Nat := tree.label.stop

/-- Lines are numbered from one. -/
def line (tree : Tree) : Nat := tree.label.row + 1

def role (tree : Tree) : Option Role := tree.label.role

def kind? (tree : Tree) : Option Kind :=
  match tree.label.symbol with
  | .construct kind => some kind
  | .token _ => none

def isKind (tree : Tree) (kind : Kind) : Bool := tree.kind? == some kind

def isOneOf (tree : Tree) (kinds : List Kind) : Bool :=
  match tree.kind? with
  | some kind => kinds.contains kind
  | none => false

def isToken (tree : Tree) (text : String) : Bool := tree.label.symbol == .token text

/-- Constructs are named; the fixed pieces of text between them are not. -/
def isNamed (tree : Tree) : Bool := tree.kind?.isSome

def isComment (tree : Tree) : Bool := tree.isKind .comment

def namedChildren (tree : Tree) : List Tree := tree.children.filter isNamed

/-- The named children without comments. -/
def significantChildren (tree : Tree) : List Tree :=
  tree.namedChildren.filter fun child => !child.isComment

/-- The first child that plays `role`. -/
def child? (tree : Tree) (role : Role) : Option Tree :=
  tree.children.find? fun child => child.role == some role

def withRole (role : Role) : Tree → Tree
  | node label children => node { label with role := some role } children

mutual

/-- A tree's nodes in pre-order. -/
def preorder : Tree → List Tree
  | node label children => node label children :: preorderAll children

def preorderAll : List Tree → List Tree
  | [] => []
  | tree :: rest => preorder tree ++ preorderAll rest

end

theorem preorderAll_eq_flatMap (trees : List Tree) : preorderAll trees = trees.flatMap preorder := by
  induction trees with
  | nil => rfl
  | cons tree rest ih => simp [preorderAll, ih]

theorem preorder_eq (tree : Tree) : tree.preorder = tree :: tree.children.flatMap preorder := by
  cases tree with
  | node label children => simp [preorder, preorderAll_eq_flatMap]

def hasError (tree : Tree) : Bool := tree.preorder.any fun node => node.isKind .error

/-- The line of the first erroneous piece, in pre-order. -/
def errorLine? (tree : Tree) : Option Nat :=
  (tree.preorder.find? fun node => node.isKind .error).map line

end Tree

end ComponentGate.Syntax
