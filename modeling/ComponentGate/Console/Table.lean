import ComponentGate.Console.Markup

/-!
Tables without borders. Each column is as wide as its widest line, or as wide as it was set, and two
blanks stand between columns. A table that is wider than the console loses cells in its widest columns
first, and the text of such a column is broken into lines.
-/

namespace ComponentGate.Console

structure Column where
  title : String
  fixedWidth : Option Nat
  toRight : Bool
  deriving DecidableEq, Repr

/-- A column in its place: the blanks on both sides, and the cells that it takes with them. -/
structure PlacedColumn where
  column : Column
  blanksBefore : Nat
  blanksBehind : Nat
  cells : Nat
  deriving DecidableEq, Repr

/-- The widest line of a marked text. A tab, which moves to the next stop only when the text is shown,
takes no cell. -/
def textWidth (markup : String) : Nat := ((Text.lines (shown markup)).map width).foldl max 0

namespace PlacedColumn

/-- One of some columns, as wide as its marked cells need. -/
def ofCells (columnCount position : Nat) (column : Column) (cells : List String) : PlacedColumn :=
  let blanksBefore := if position = 0 then 0 else 1
  let blanksBehind := if position + 1 = columnCount then 0 else 1
  let inner :=
    match column.fixedWidth with
    | some count => count
    | none => ((column.title :: cells).map textWidth).foldl max 0
  ⟨column, blanksBefore, blanksBehind, max 1 (blanksBefore + inner + blanksBehind)⟩

def inner (placed : PlacedColumn) : Nat :=
  placed.cells - placed.blanksBefore - placed.blanksBehind

/-- A line of a cell, as wide as the column without its blanks. -/
def fill (placed : PlacedColumn) (line : List Char) : List Char :=
  if placed.column.toRight then
    let text := truncated .ellipsis placed.inner (Text.trimEnd line)
    List.replicate (placed.inner - width text) ' ' ++ text
  else
    let text := truncated .ellipsis placed.inner line
    text ++ List.replicate (placed.inner - width text) ' '

/-- The lines of a marked cell; none where the column has no room for text. -/
def linesOf (placed : PlacedColumn) (markup : String) : List (List Char) :=
  if placed.inner = 0 then []
  else
    let lines := (shownLines markup).flatMap (brokenLines .ellipsis placed.inner)
    lines.map fun line =>
      List.replicate placed.blanksBefore ' ' ++ placed.fill line ++
        List.replicate placed.blanksBehind ' '

end PlacedColumn

/-- A quotient rounded to the nearest number, a half to the even one. -/
def nearestQuotient (numerator denominator : Nat) : Nat :=
  let quotient := numerator / denominator
  let twice := 2 * (numerator % denominator)
  if twice < denominator ∨ (twice = denominator ∧ quotient % 2 = 0) then quotient else quotient + 1

/-- Takes `excess` cells from widths in equal shares, and from each at most its limit; a limit of zero
protects a width. The shares of the widths in front are rounded, and the last one is what remains. -/
def reduceEvenly (excess sharing : Nat) : List (Nat × Nat) → List Nat
  | [] => []
  | (cells, limit) :: rest =>
    if limit = 0 ∨ sharing = 0 then cells :: reduceEvenly excess sharing rest
    else
      let share := min limit (nearestQuotient excess sharing)
      (cells - share) :: reduceEvenly (excess - share) (sharing - 1) rest

def sharingCount (limits : List Nat) : Nat := (limits.filter (0 < ·)).length

/-- The cells that columns take together. -/
def totalCells (widths : List Nat) : Nat := widths.foldl (· + ·) 0

/-- Takes cells from the widest flexible columns, down to the next narrower ones, as long as the table
is too wide; each round takes at least one. -/
def collapse (limit : Nat) (widths : List (Nat × Bool)) : Nat → List Nat
  | 0 => widths.map Prod.fst
  | rounds + 1 =>
    let excess := totalCells (widths.map Prod.fst) - limit
    let flexible := (widths.filter Prod.snd).map Prod.fst
    let widest := flexible.foldl max 0
    let second := (flexible.filter (· ≠ widest)).foldl max 0
    let difference := min excess (widest - second)
    if difference = 0 then widths.map Prod.fst
    else
      let limits := widths.map fun (cells, isFlexible) =>
        if isFlexible && cells == widest then difference else 0
      let reduced := reduceEvenly excess (sharingCount limits) ((widths.map Prod.fst).zip limits)
      collapse limit (reduced.zip (widths.map Prod.snd)) rounds

/-- Widths of which the sum is at most a limit; what the flexible columns cannot give is taken from
all of them. -/
def fittingWidths (limit : Nat) (widths : List (Nat × Bool)) : List Nat :=
  let total := totalCells (widths.map Prod.fst)
  if total ≤ limit then widths.map Prod.fst
  else
    let collapsed := collapse limit widths (total - limit)
    if totalCells collapsed ≤ limit then collapsed
    else
      reduceEvenly (totalCells collapsed - limit) (sharingCount collapsed) (collapsed.zip collapsed)

/-- The lines of a row: a cell with fewer lines than another one is filled up with blank ones, before
its own lines if it is a title and behind them otherwise. -/
def rowLines (columns : List PlacedColumn) (isTitle : Bool) (cells : List String) :
    List (List Char) :=
  let parts := (columns.zip cells).map fun (placed, cell) => (placed, placed.linesOf cell)
  let height := (parts.map fun part => part.2.length).foldl max 1
  (List.range height).map fun position =>
    parts.flatMap fun (placed, lines) =>
      let blank := List.replicate placed.cells ' '
      let missing := height - lines.length
      if isTitle then if position < missing then blank else (lines[position - missing]?).getD blank
      else (lines[position]?).getD blank

/-- A table with its titles in the first row, not wider than the console. -/
def table (columns : Nat) (header : List Column) (rows : List (List String)) : String :=
  if columns = 0 then ""
  else
    let natural := header.mapIdx fun position column =>
      PlacedColumn.ofCells header.length position column (rows.filterMap fun row => row[position]?)
    let widths := fittingWidths columns
      (natural.map fun placed => (min placed.cells columns, placed.column.fixedWidth.isNone))
    let placed := (natural.zip widths).map fun (column, cells) => { column with cells := cells }
    let titles := rowLines placed true (header.map Column.title)
    joinLines ((titles ++ rows.flatMap (rowLines placed false)).map (truncated .fold columns))

end ComponentGate.Console
