import ScreenSight.Grid.Basic

/-!
# Regions of a grid

A region is a rectangular view into a grid.  It is made from any two corners: each coordinate is
pulled into the grid, so a view never reaches outside.
-/

namespace ScreenSight

/-- A rectangular view into a grid. -/
structure Region where
  grid : Grid
  area : Option Box

/-- The view between two corners, which may be reversed or lie outside. -/
def Grid.region (grid : Grid) (x1 y1 x2 y2 : Coordinate) : Region :=
  ⟨grid, (Box.ofCorners x1 y1 x2 y2).clampTo grid.width grid.height⟩

namespace Region

/-- Whether the view has no cells. -/
def isEmpty (region : Region) : Bool :=
  region.area.isNone

/-- Number of columns. -/
def width (region : Region) : Nat :=
  match region.area with
  | some area => area.width.toNat
  | none => 0

/-- Number of rows. -/
def height (region : Region) : Nat :=
  match region.area with
  | some area => area.height.toNat
  | none => 0

/-- The character at an offset from the top left cell. -/
def get? (region : Region) (dx dy : Coordinate) : Option Char := do
  let area ← region.area
  if dx < 0 || dy < 0 then none
  else
    let x ← Coordinate.ofInt? (area.left.toInt + dx.toInt)
    let y ← Coordinate.ofInt? (area.top.toInt + dy.toInt)
    if area.containsPoint ⟨x, y⟩ then region.grid.get? x y else none

def rows (region : Region) : List (List Char) :=
  match region.area with
  | some area =>
      (Coordinate.upTo area.top area.bottom).map fun y =>
        (Coordinate.upTo area.left area.right).filterMap fun x => region.grid.get? x y
  | none => []

/-- The rows of the view as lines without white space at their ends. -/
def text (region : Region) : String :=
  Text.joinWith "\n" (region.rows.map fun row => String.ofList (Text.dropBlankEnd row))

end Region

/-- The whole grid as lines without white space at their ends. -/
def Grid.plainText (grid : Grid) : String :=
  match grid.bounds with
  | some bounds => (grid.region bounds.left bounds.top bounds.right bounds.bottom).text
  | none => ""

end ScreenSight
