import ScreenSight.Geometry.Point

/-!
# Boxes

A box is a rectangle of cells given by its outermost columns and rows, all of them included.  Its
corners are in order by construction, so it always has a cell.  The tests below compare edges only;
none of them walks over the cells.
-/

namespace ScreenSight

/-- A rectangle of cells, edges included. -/
structure Box where
  left : Coordinate
  top : Coordinate
  right : Coordinate
  bottom : Coordinate
  left_le_right : left ≤ right
  top_le_bottom : top ≤ bottom
  deriving DecidableEq

namespace Box

theorem min_le_max (first second : Coordinate) : min first second ≤ max first second := by
  simp only [Int32.le_iff_toInt_le, Coordinate.toInt_min, Coordinate.toInt_max]
  omega

/-- The box with two opposite corners, given in any order. -/
def ofCorners (x1 y1 x2 y2 : Coordinate) : Box where
  left := min x1 x2
  top := min y1 y2
  right := max x1 x2
  bottom := max y1 y2
  left_le_right := min_le_max x1 x2
  top_le_bottom := min_le_max y1 y2

/-- The box of a single cell. -/
def ofPoint (point : Point) : Box :=
  ofCorners point.x point.y point.x point.y

instance : Inhabited Box := ⟨ofPoint default⟩

/-- Number of columns. -/
def width (box : Box) : Int :=
  box.right.toInt - box.left.toInt + 1

/-- Number of rows. -/
def height (box : Box) : Int :=
  box.bottom.toInt - box.top.toInt + 1

/-- Greatest area that is told apart from larger ones. -/
def areaLimit : Int :=
  0x7FFFFFFFFFFFFFFF

/-- Number of cells, up to the limit. -/
def area (box : Box) : Int :=
  min (box.width * box.height) areaLimit

def containsPoint (box : Box) (point : Point) : Bool :=
  box.left ≤ point.x && point.x ≤ box.right && box.top ≤ point.y && point.y ≤ box.bottom

/-- Whether two boxes share a cell. -/
def intersects (first second : Box) : Bool :=
  !(first.right < second.left || second.right < first.left ||
    first.bottom < second.top || second.bottom < first.top)

/-- Whether a box lies in another one with at least `margin` cells between the edges on every side.
A negative margin lets the inner box stick out by as much. -/
def strictlyContains (outer inner : Box) (margin : Coordinate) : Bool :=
  outer.left.toInt + margin.toInt ≤ inner.left.toInt &&
  inner.right.toInt ≤ outer.right.toInt - margin.toInt &&
  outer.top.toInt + margin.toInt ≤ inner.top.toInt &&
  inner.bottom.toInt ≤ outer.bottom.toInt - margin.toInt

/-- The box one cell larger on every side, as far as the plane goes. -/
def grown (box : Box) : Box :=
  ofCorners (Coordinate.saturate (box.left.toInt - 1)) (Coordinate.saturate (box.top.toInt - 1))
    (Coordinate.saturate (box.right.toInt + 1)) (Coordinate.saturate (box.bottom.toInt + 1))

/-- Whether two boxes touch at an edge or a corner without sharing a cell. -/
def isAdjacent (first second : Box) : Bool :=
  !first.intersects second && first.grown.intersects second

/-- The last coordinate of an axis with `extent` cells, as far as the plane goes. -/
def lastOf (extent : Nat) : Coordinate :=
  Coordinate.saturate ((extent : Int) - 1)

/-- A coordinate pulled into the range from zero to `last`. -/
def clampCoordinate (value last : Coordinate) : Coordinate :=
  min (max value 0) last

/-- The box with its corners pulled into an area of `width × height` cells, if that has any. -/
def clampTo (box : Box) (width height : Nat) : Option Box :=
  if width = 0 ∨ height = 0 then
    none
  else
    some (ofCorners
      (clampCoordinate box.left (lastOf width)) (clampCoordinate box.top (lastOf height))
      (clampCoordinate box.right (lastOf width)) (clampCoordinate box.bottom (lastOf height)))

/-- The cells in reading order. -/
def cells (box : Box) : List Point :=
  (Coordinate.upTo box.top box.bottom).flatMap fun y =>
    (Coordinate.upTo box.left box.right).map fun x => ⟨x, y⟩

/-- Whether a cell of the box lies on its edge. -/
def onPerimeter (box : Box) (point : Point) : Bool :=
  point.x == box.left || point.x == box.right || point.y == box.top || point.y == box.bottom

/-- The cells on the edge in reading order. -/
def perimeter (box : Box) : List Point :=
  box.cells.filter box.onPerimeter

end Box

end ScreenSight
