import ScreenSight.Geometry.Box
import ScreenSight.Grid.Limits
import ScreenSight.Ordered.Set
import ScreenSight.Text.Blank

/-!
# Character grids

A grid is a rectangle of characters that never changes.  Its cells are stored row by row, and each
cell is addressed by its column and row; addresses outside the grid have no character.  The storage
is filled when a cell is read for the first time, so the size of a broad grid costs nothing.
-/

namespace ScreenSight

/-- The character of a cell that was never written. -/
def blank : Char := ' '

/-- A rectangle of characters. -/
structure Grid where
  width : Nat
  height : Nat
  cells : Thunk (Array Char)
  size_cells : cells.get.size = width * height

namespace Grid

/-- The grid without cells. -/
def empty : Grid :=
  ⟨0, 0, .pure #[], rfl⟩

instance : Inhabited Grid := ⟨empty⟩

/-- A grid of blanks.  If the number of its cells is not a word, storage for so many is not to be
had, and none are left. -/
def blanks (width height : Nat) : Grid :=
  if Word.Fits (width * height) then
    ⟨width, height, .mk fun _ => Array.replicate (width * height) blank, Array.size_replicate⟩
  else empty

/-- The largest of some lengths. -/
def largest (lengths : List Nat) : Nat :=
  lengths.max?.getD 0

/-- The length of the longest of some rows. -/
def widest (rows : List (List Char)) : Nat :=
  largest (rows.map List.length)

theorem length_le_widest {rows : List (List Char)} {row : List Char} (present : row ∈ rows) :
    row.length ≤ widest rows :=
  List.le_max?_getD_of_mem (List.mem_map_of_mem present)

theorem length_flatMap_rightpad {rows : List (List Char)} {width : Nat}
    (short : ∀ row ∈ rows, row.length ≤ width) :
    (rows.flatMap fun row => row.rightpad width blank).length = width * rows.length := by
  induction rows with
  | nil => simp
  | cons head tail induction =>
      have first := short head List.mem_cons_self
      have others := induction fun row present => short row (List.mem_cons_of_mem _ present)
      rw [List.flatMap_cons, List.length_append, others, List.length_cons, Nat.mul_add,
        Nat.mul_one, List.rightpad, List.length_append, List.length_replicate]
      omega

/-- The grid of some rows whose lengths are known, each filled up with blanks to the longest.
Without any character it has no rows either. -/
def ofLengths (lengths : List Nat) (rows : Thunk (List (List Char)))
    (known : rows.get.map List.length = lengths) : Grid :=
  if _noColumns : largest lengths = 0 then
    empty
  else
    { width := largest lengths
      height := lengths.length
      cells := .mk fun _ =>
        (rows.get.flatMap fun row => row.rightpad (largest lengths) blank).toArray
      size_cells := by
        subst known
        rw [List.length_map]
        exact length_flatMap_rightpad fun _ present => length_le_widest present }

def ofRows (rows : List (List Char)) : Grid :=
  ofLengths (rows.map List.length) (.pure rows) rfl

/-- A line with its tabs filled up to the next stop and its carriage returns left out, from the
column on that it begins at. -/
def expandTabs (tabWidth : Nat) : Nat → List Char → List Char
  | _, [] => []
  | column, c :: rest =>
      if c == '\t' then
        let stop := nextTabStop tabWidth column
        List.replicate (stop - column) blank ++ expandTabs tabWidth stop rest
      else if c == '\r' then expandTabs tabWidth column rest
      else c :: expandTabs tabWidth (column + 1) rest

/-- The column behind a line from the column on that it begins at. -/
def columnBehind (tabWidth : Nat) : Nat → List Char → Nat
  | column, [] => column
  | column, c :: rest =>
      if c == '\t' then columnBehind tabWidth (nextTabStop tabWidth column) rest
      else if c == '\r' then columnBehind tabWidth column rest
      else columnBehind tabWidth (column + 1) rest

theorem add_length_expandTabs (tabWidth column : Nat) (line : List Char) :
    column + (expandTabs tabWidth column line).length = columnBehind tabWidth column line := by
  fun_induction expandTabs tabWidth column line with
  | case1 column => rfl
  | case2 column c rest tab stop induction =>
      have beyond := le_nextTabStop tabWidth column
      rw [columnBehind, if_pos tab, ← induction, List.length_append, List.length_replicate]
      omega
  | case3 column c rest notTab ending induction =>
      rw [columnBehind, if_neg notTab, if_pos ending, induction]
  | case4 column c rest notTab notEnding induction =>
      rw [columnBehind, if_neg notTab, if_neg notEnding, ← induction, List.length_cons]
      omega

/-- The lines of a text.  A line feed ends a line, so nothing follows the last one. -/
def linesOf (text : List Char) : List (List Char) :=
  let lines := Text.splitLines text
  if lines.getLast? == some [] then lines.dropLast else lines

def ofText (text : String) (tabWidth : Nat) : Grid :=
  ofLengths ((linesOf text.toList).map (columnBehind tabWidth 0))
    (.mk fun _ => (linesOf text.toList).map (expandTabs tabWidth 0))
    (List.map_map.trans (List.map_congr_left fun line _ => by
      rw [← add_length_expandTabs, Nat.zero_add, Function.comp_apply]))

/-- Whether the grid has no cells. -/
def isEmpty (grid : Grid) : Bool :=
  grid.cells.get.isEmpty

/-- The place of a cell in the storage. -/
def index? (grid : Grid) (x y : Coordinate) : Option Nat :=
  match Coordinate.toNat? x, Coordinate.toNat? y with
  | some column, some row =>
      if column < grid.width ∧ row < grid.height then some (row * grid.width + column) else none
  | _, _ => none

/-- Whether an address belongs to a cell. -/
def contains (grid : Grid) (x y : Coordinate) : Bool :=
  (grid.index? x y).isSome

/-- The character in a column and row. -/
def get? (grid : Grid) (x y : Coordinate) : Option Char :=
  (grid.index? x y).bind fun index => grid.cells.get[index]?

def at? (grid : Grid) (point : Point) : Option Char :=
  grid.get? point.x point.y

def row? (grid : Grid) (y : Nat) : Option (List Char) :=
  if y < grid.height then
    some (grid.cells.get.extract (y * grid.width) (y * grid.width + grid.width)).toList
  else none

/-- All rows from top to bottom. -/
def rows (grid : Grid) : List (List Char) :=
  (List.range grid.height).filterMap grid.row?

def bounds (grid : Grid) : Option Box :=
  if grid.isEmpty then none
  else some (Box.ofCorners 0 0 (Box.lastOf grid.width) (Box.lastOf grid.height))

/-- The distinct characters at some points; points outside the grid have none. -/
def symbolsAt (grid : Grid) (points : SortedSet Point) : SortedSet Char :=
  SortedSet.ofList (points.toList.filterMap grid.at?)

/-- The text at some points.  The characters of each row are put together from left to right without
filling gaps; white space at the ends of a row is dropped, and rows with nothing else are left
out. -/
def textAt (grid : Grid) (points : SortedSet Point) : String :=
  let found := points.toList.filterMap fun point => (grid.at? point).map fun c => (point.y, c)
  let lines := (found.splitBy fun left right => left.1 == right.1).map fun line =>
    Text.dropBlankEnds (line.map Prod.snd)
  Text.joinWith "\n" ((lines.filter fun line => !line.isEmpty).map String.ofList)

end Grid

end ScreenSight
