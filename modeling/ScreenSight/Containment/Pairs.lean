import ScreenSight.Component.Model
import ScreenSight.Spatial.Index

/-!
# Pairs of nested components

A component contains another one if the box of the latter lies within its own with a cell to spare
on every side.  Candidates come from a spatial index over the boxes, which are moved to the origin
for it and pulled together where the plane is too wide; boxes that share a cell still do so
afterwards.
-/

namespace ScreenSight.Containment

/-- The number of cells between the edges of a container and of what it contains. -/
def margin : Coordinate := 1

/-- The greatest side of the indexed area. -/
def extentLimit : Int := 4096

/-- How the boxes are placed along one axis of the index: the coordinate that is moved to the
origin, and the number of cells from there. -/
structure Axis where
  offset : Int
  extent : Int
  deriving DecidableEq, Inhabited

namespace Axis

/-- The first coordinate of some ranges, if that is negative. -/
def firstOf (ranges : List (Coordinate × Coordinate)) : Int :=
  (ranges.map fun range => range.1.toInt).foldl min 0

def lastOf (ranges : List (Coordinate × Coordinate)) : Int :=
  (ranges.map fun range => range.2.toInt).max?.getD 0

/-- The placement of some ranges: negative coordinates are moved to the origin, others stay. -/
def ofRanges (ranges : List (Coordinate × Coordinate)) : Axis :=
  ⟨firstOf ranges, max 1 (min (lastOf ranges - firstOf ranges + 1) extentLimit)⟩

def place (axis : Axis) (value : Coordinate) : Coordinate :=
  Coordinate.saturate (max 0 (min (value.toInt - axis.offset) (axis.extent - 1)))

end Axis

/-- How boxes are placed in the index. -/
structure Frame where
  horizontal : Axis
  vertical : Axis
  deriving DecidableEq, Inhabited

namespace Frame

def columnsOf (boxes : List Box) : List (Coordinate × Coordinate) :=
  boxes.map fun box => (box.left, box.right)

def rowsOf (boxes : List Box) : List (Coordinate × Coordinate) :=
  boxes.map fun box => (box.top, box.bottom)

/-- The placement of some boxes. -/
def ofBoxes (boxes : List Box) : Frame :=
  ⟨Axis.ofRanges (columnsOf boxes), Axis.ofRanges (rowsOf boxes)⟩

def place (frame : Frame) (box : Box) : Box :=
  Box.ofCorners (frame.horizontal.place box.left) (frame.vertical.place box.top)
    (frame.horizontal.place box.right) (frame.vertical.place box.bottom)

/-- The bucket layout of the indexed area. -/
def layout (frame : Frame) (cellSize : Nat) (positive : 0 < cellSize) : BucketLayout :=
  ⟨frame.horizontal.extent.toNat, frame.vertical.extent.toNat, cellSize, positive⟩

end Frame

def boxedPositions (components : List Component) : List (Nat × Box) :=
  components.zipIdx.filterMap fun (component, position) =>
    component.effectiveBox.map fun box => (position, box)

/-- Boxes with their positions from the largest area to the smallest; equal areas stay in order. -/
def byArea (boxed : List (Nat × Box)) : List (Nat × Box) :=
  boxed.mergeSort fun left right => right.2.area ≤ left.2.area

def keyOf (position : Nat) : String :=
  toString position

/-- The index of some boxes under the keys of their positions. -/
def indexOf (frame : Frame) (cellSize : Nat) (positive : 0 < cellSize) (boxed : List (Nat × Box)) :
    SpatialIndex String :=
  boxed.foldl (fun index (position, box) => index.insert (keyOf position) (frame.place box))
    (SpatialIndex.empty (frame.layout cellSize positive))

/-- The positions of some boxes under their keys. -/
def positionsOf (boxed : List (Nat × Box)) : SortedMap String Nat :=
  SortedMap.ofList (boxed.map fun (position, _) => (keyOf position, position))

/-- The positions that an index finds around a box, without one of them, in increasing order. -/
def candidates (index : SpatialIndex String) (positions : SortedMap String Nat) (frame : Frame)
    (position : Nat) (box : Box) : List Nat :=
  let placed := frame.place box
  let found := index.inRegion placed.left placed.top placed.right placed.bottom
  ((found.toList.filterMap positions.get?).filter (· != position)).mergeSort

def boxAt? (components : List Component) (position : Nat) : Option Box :=
  components[position]?.bind Component.effectiveBox

/-- Whether the component at a position lies in a box. -/
def isNestedIn (components : List Component) (outerBox : Box) (position : Nat) : Bool :=
  match boxAt? components position with
  | some innerBox => outerBox.strictlyContains innerBox margin
  | none => false

/-- All pairs of positions of a container and something that it contains: the containers by falling
area, and what they contain by position. -/
def pairs (components : List Component) (cellSize : Nat) (positive : 0 < cellSize) :
    List (Nat × Nat) :=
  let boxed := boxedPositions components
  let frame := Frame.ofBoxes (boxed.map Prod.snd)
  let index := indexOf frame cellSize positive boxed
  let positions := positionsOf boxed
  (byArea boxed).flatMap fun (outer, outerBox) =>
    ((candidates index positions frame outer outerBox).filter
      (isNestedIn components outerBox)).map fun inner => (outer, inner)

end ScreenSight.Containment
