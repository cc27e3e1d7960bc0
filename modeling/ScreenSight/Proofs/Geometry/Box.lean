import ScreenSight.Geometry.Box
import ScreenSight.Proofs.Geometry.Coordinate

/-!
# Boxes in integer coordinates

The tests on boxes compare words.  Read as integers, their edges satisfy plain
inequalities, and pulling a box into an area clamps each edge.
-/

namespace ScreenSight.Box

theorem left_toInt_le (box : Box) : box.left.toInt ≤ box.right.toInt :=
  Int32.le_iff_toInt_le.mp box.left_le_right

theorem top_toInt_le (box : Box) : box.top.toInt ≤ box.bottom.toInt :=
  Int32.le_iff_toInt_le.mp box.top_le_bottom

theorem containsPoint_iff {box : Box} {point : Point} :
    box.containsPoint point = true ↔
      (box.left.toInt ≤ point.x.toInt ∧ point.x.toInt ≤ box.right.toInt) ∧
        box.top.toInt ≤ point.y.toInt ∧ point.y.toInt ≤ box.bottom.toInt := by
  simp only [containsPoint, Bool.and_eq_true, decide_eq_true_eq,
    Int32.le_iff_toInt_le]
  omega

theorem intersects_iff {first second : Box} :
    first.intersects second = true ↔
      (first.left.toInt ≤ second.right.toInt ∧ second.left.toInt ≤ first.right.toInt) ∧
        first.top.toInt ≤ second.bottom.toInt ∧ second.top.toInt ≤ first.bottom.toInt := by
  simp only [intersects, Bool.not_eq_true', Bool.or_eq_false_iff, decide_eq_false_iff_not,
    Int32.lt_iff_toInt_lt]
  omega

theorem strictlyContains_iff {outer inner : Box} {margin : Coordinate} :
    outer.strictlyContains inner margin = true ↔
      (outer.left.toInt + margin.toInt ≤ inner.left.toInt ∧
        inner.right.toInt ≤ outer.right.toInt - margin.toInt) ∧
      outer.top.toInt + margin.toInt ≤ inner.top.toInt ∧
        inner.bottom.toInt ≤ outer.bottom.toInt - margin.toInt := by
  simp only [strictlyContains, Bool.and_eq_true, decide_eq_true_eq]
  omega

section

variable {outer middle inner box : Box} {margin : Coordinate}

theorem strictlyContains_trans (nonnegative : 0 ≤ margin.toInt)
    (first : outer.strictlyContains middle margin = true)
    (second : middle.strictlyContains inner margin = true) :
    outer.strictlyContains inner margin = true := by
  rw [strictlyContains_iff] at first second ⊢
  omega

theorem not_strictlyContains_self (positive : 0 < margin.toInt) :
    ¬box.strictlyContains box margin = true := by
  rw [strictlyContains_iff]
  omega

end

/-- The corners of a box that was given by ordered corners. -/
theorem toInt_ofCorners_of_le {x1 y1 x2 y2 : Coordinate}
    (columns : x1.toInt ≤ x2.toInt) (rows : y1.toInt ≤ y2.toInt) :
    (ofCorners x1 y1 x2 y2).left.toInt = x1.toInt ∧
      (ofCorners x1 y1 x2 y2).right.toInt = x2.toInt ∧
      (ofCorners x1 y1 x2 y2).top.toInt = y1.toInt ∧
      (ofCorners x1 y1 x2 y2).bottom.toInt = y2.toInt := by
  simp only [ofCorners, Coordinate.toInt_min, Coordinate.toInt_max]
  omega

/-- A box is determined by its corners. -/
theorem ofCorners_self (box : Box) :
    ofCorners box.left box.top box.right box.bottom = box := by
  obtain ⟨left, top, right, bottom, columns, rows⟩ := box
  rw [Int32.le_iff_toInt_le] at columns rows
  simp only [ofCorners, Box.mk.injEq, ← Int32.toInt_inj, Coordinate.toInt_min,
    Coordinate.toInt_max]
  omega

/-- The place nearest to an integer on an axis with a positive number of cells,
as far as the plane goes. -/
def nearest (extent : Nat) (value : Int) : Int :=
  min (max value 0) (min ((extent : Int) - 1) 0x7FFFFFFF)

theorem nearest_mono (extent : Nat) {left right : Int} (before : left ≤ right) :
    nearest extent left ≤ nearest extent right := by
  unfold nearest
  omega

theorem nearest_nonneg {extent : Nat} (positive : 0 < extent) (value : Int) :
    0 ≤ nearest extent value := by
  unfold nearest
  omega

theorem nearest_lt (extent : Nat) (value : Int) : nearest extent value < extent := by
  unfold nearest
  omega

/-- A coordinate on the axis stays where it is. -/
theorem nearest_of_inside {extent : Nat} {value : Coordinate}
    (lower : 0 ≤ value.toInt) (upper : value.toInt < extent) :
    nearest extent value.toInt = value.toInt := by
  have bound := value.toInt_lt
  unfold nearest
  omega

theorem toInt_clampCoordinate {extent : Nat} (positive : 0 < extent)
    (value : Coordinate) :
    (clampCoordinate value (lastOf extent)).toInt = nearest extent value.toInt := by
  simp only [clampCoordinate, lastOf, Coordinate.toInt_min, Coordinate.toInt_max,
    Coordinate.toInt_saturate, Int32.toInt_zero, nearest]
  omega

/-- Pulling a box into an area with cells clamps each of its edges. -/
theorem exists_clampTo {width height : Nat} (box : Box)
    (wide : 0 < width) (high : 0 < height) :
    ∃ clamped, box.clampTo width height = some clamped ∧
      clamped.left.toInt = nearest width box.left.toInt ∧
      clamped.right.toInt = nearest width box.right.toInt ∧
      clamped.top.toInt = nearest height box.top.toInt ∧
      clamped.bottom.toInt = nearest height box.bottom.toInt := by
  have celled : ¬(width = 0 ∨ height = 0) := by omega
  refine ⟨_, if_neg celled, ?_⟩
  simp only [← toInt_clampCoordinate wide, ← toInt_clampCoordinate high]
  apply toInt_ofCorners_of_le
  · simpa only [toInt_clampCoordinate wide] using nearest_mono width box.left_toInt_le
  · simpa only [toInt_clampCoordinate high] using nearest_mono height box.top_toInt_le

/-- A box lies in an area that begins at the origin. -/
structure Within (box : Box) (width height : Nat) : Prop where
  left : 0 ≤ box.left.toInt
  right : box.right.toInt < width
  top : 0 ≤ box.top.toInt
  bottom : box.bottom.toInt < height

theorem within_ofCorners {width height : Nat} {x1 y1 x2 y2 : Coordinate}
    (first : x1 ∈ Coordinate.below width) (second : x2 ∈ Coordinate.below width)
    (upper : y1 ∈ Coordinate.below height) (lower : y2 ∈ Coordinate.below height) :
    (ofCorners x1 y1 x2 y2).Within width height := by
  rw [Coordinate.mem_below_iff] at first second upper lower
  constructor <;> simp only [ofCorners, Coordinate.toInt_min, Coordinate.toInt_max] <;> omega

end ScreenSight.Box
