import ScreenSight.Failure
import ScreenSight.Geometry.Box
import ScreenSight.Word

/-!
# Bucket layouts

An area of cells is cut into square buckets, numbered row by row.  Boxes are first pulled into the
area, so a box that lies outside counts for the buckets at the edge; an area without cells has no
place for any box.  Buckets are counted and numbered in words, which is right for every area whose
buckets are fewer than the words.
-/

namespace ScreenSight

/-- How an area of columns and rows is cut into buckets. -/
structure BucketLayout where
  width : Nat
  height : Nat
  cellSize : Nat
  cellSize_pos : 0 < cellSize
  deriving DecidableEq

/-- A rectangle of buckets, given by its outermost columns and rows. -/
structure BucketRange where
  firstColumn : Nat
  firstRow : Nat
  lastColumn : Nat
  lastRow : Nat
  deriving DecidableEq, Inhabited

namespace BucketLayout

/-- The layout of a given size, unless the buckets would have no cells. -/
def ofSizes (width height cellSize : Nat) : Except Failure BucketLayout :=
  if positive : 0 < cellSize then .ok ⟨width, height, cellSize, positive⟩
  else .error (.configuration "cell_size must be at least 1")

/-- The number of buckets that cover an extent of cells; there is always one. -/
def bucketsFor (layout : BucketLayout) (extent : Nat) : Nat :=
  max 1 ((extent + layout.cellSize - 1) / layout.cellSize)

/-- Number of columns of buckets. -/
def columns (layout : BucketLayout) : Nat :=
  layout.bucketsFor layout.width

/-- Number of rows of buckets. -/
def rows (layout : BucketLayout) : Nat :=
  layout.bucketsFor layout.height

/-- Number of buckets. -/
def count (layout : BucketLayout) : Nat :=
  Word.wrap (layout.columns * layout.rows)

/-- The bucket of a coordinate along an axis with a number of buckets. -/
def bucketOf (layout : BucketLayout) (value : Coordinate) (buckets : Nat) : Nat :=
  min (value.toInt.toNat / layout.cellSize) (buckets - 1)

/-- The number of the bucket in a column and row. -/
def index (layout : BucketLayout) (column row : Nat) : Nat :=
  Word.wrap (row * layout.columns + column)

/-- The number of the bucket of a point. -/
def indexAt (layout : BucketLayout) (point : Point) : Nat :=
  layout.index (layout.bucketOf point.x layout.columns) (layout.bucketOf point.y layout.rows)

/-- The buckets of a box after it has been pulled into the area. -/
def range? (layout : BucketLayout) (box : Box) : Option BucketRange :=
  (box.clampTo layout.width layout.height).map fun clamped =>
    { firstColumn := layout.bucketOf clamped.left layout.columns
      firstRow := layout.bucketOf clamped.top layout.rows
      lastColumn := layout.bucketOf clamped.right layout.columns
      lastRow := layout.bucketOf clamped.bottom layout.rows }

/-- The numbers of the buckets of a rectangle, row by row. -/
def indices (layout : BucketLayout) (range : BucketRange) : List Nat :=
  (List.range' range.firstRow (range.lastRow + 1 - range.firstRow)).flatMap fun row =>
    (List.range' range.firstColumn (range.lastColumn + 1 - range.firstColumn)).map fun column =>
      layout.index column row

end BucketLayout

end ScreenSight
