import ScreenSight.Proofs.Geometry.Cells

/-!
# Tests on boxes as statements on cells

The tests on two boxes compare edges.  What they say is a matter of the cells alone: to
intersect is to share a cell, to be adjacent is to share none while a cell of one box
touches a cell of the other, and to lie strictly inside is to have every cell off the
perimeter of the outer box.  Growing a box stops at the ends of the plane, where there are
no cells to be reached, and the sums behind the other tests have words of their own.
-/

namespace ScreenSight

namespace Point

/-- Two cells differ by at most one in each coordinate. -/
def Touches (left right : Point) : Prop :=
  (left.x.toInt - right.x.toInt).natAbs ≤ 1 ∧ (left.y.toInt - right.y.toInt).natAbs ≤ 1

theorem Touches.symm {left right : Point} (touches : left.Touches right) :
    right.Touches left := by
  unfold Touches at touches ⊢
  omega

end Point

namespace Box

variable {first second third box : Box} {point : Point}

/-! ## Shared cells -/

theorem intersects_iff_exists_cell :
    first.intersects second = true ↔ ∃ cell ∈ first.cells, cell ∈ second.cells := by
  have firstColumns := first.left_toInt_le
  have secondColumns := second.left_toInt_le
  have firstRows := first.top_toInt_le
  have secondRows := second.top_toInt_le
  simp only [mem_cells_iff, containsPoint_iff, intersects_iff]
  constructor
  · intro overlap
    -- the top left corner of what they share
    refine ⟨⟨max first.left second.left, max first.top second.top⟩, ?_⟩
    simp only [Coordinate.toInt_max]
    omega
  · intro shared
    obtain ⟨cell, inFirst, inSecond⟩ := shared
    omega

theorem intersects_comm (first second : Box) :
    first.intersects second = second.intersects first := by
  rw [Bool.eq_iff_iff, intersects_iff, intersects_iff]
  omega

/-! ## Touching cells -/

/-- The edges of a grown box, which stop at the ends of the plane. -/
theorem toInt_grown (box : Box) :
    box.grown.left.toInt = max (-0x80000000) (box.left.toInt - 1) ∧
      box.grown.right.toInt = min (box.right.toInt + 1) 0x7FFFFFFF ∧
      box.grown.top.toInt = max (-0x80000000) (box.top.toInt - 1) ∧
      box.grown.bottom.toInt = min (box.bottom.toInt + 1) 0x7FFFFFFF := by
  have columns := box.left_toInt_le
  have rows := box.top_toInt_le
  have leftmost := box.left.le_toInt
  have rightmost := box.right.toInt_lt
  have topmost := box.top.le_toInt
  have bottommost := box.bottom.toInt_lt
  simp only [grown, ofCorners, Coordinate.toInt_min, Coordinate.toInt_max,
    Coordinate.toInt_saturate]
  omega

/-- A grown box has the cells that touch the box. -/
theorem mem_cells_grown_iff :
    point ∈ box.grown.cells ↔ ∃ cell ∈ box.cells, cell.Touches point := by
  obtain ⟨left, right, top, bottom⟩ := box.toInt_grown
  have columns := box.left_toInt_le
  have rows := box.top_toInt_le
  simp only [mem_cells_iff, containsPoint_iff, Point.Touches, left, right, top, bottom]
  constructor
  · intro inside
    -- the nearest cell of the box
    refine ⟨⟨min (max point.x box.left) box.right, min (max point.y box.top) box.bottom⟩, ?_⟩
    simp only [Coordinate.toInt_min, Coordinate.toInt_max]
    omega
  · intro near
    obtain ⟨cell, inside, touches⟩ := near
    have leftmost := point.x.le_toInt
    have rightmost := point.x.toInt_lt
    have topmost := point.y.le_toInt
    have bottommost := point.y.toInt_lt
    omega

theorem isAdjacent_iff :
    first.isAdjacent second = true ↔
      (¬∃ cell ∈ first.cells, cell ∈ second.cells) ∧
        ∃ own ∈ first.cells, ∃ other ∈ second.cells, own.Touches other := by
  rw [isAdjacent, Bool.and_eq_true, Bool.not_eq_true', ← Bool.not_eq_true,
    intersects_iff_exists_cell, intersects_iff_exists_cell]
  apply and_congr_right
  intro _
  simp only [mem_cells_grown_iff]
  constructor
  · intro reached
    obtain ⟨other, ⟨own, inFirst, touches⟩, inSecond⟩ := reached
    exact ⟨own, inFirst, other, inSecond, touches⟩
  · intro near
    obtain ⟨own, inFirst, other, inSecond, touches⟩ := near
    exact ⟨other, ⟨own, inFirst, touches⟩, inSecond⟩

theorem isAdjacent_symm (adjacent : first.isAdjacent second = true) :
    second.isAdjacent first = true := by
  rw [isAdjacent_iff] at adjacent ⊢
  obtain ⟨apart, own, inFirst, other, inSecond, touches⟩ := adjacent
  refine ⟨?_, other, inSecond, own, inFirst, touches.symm⟩
  intro shared
  obtain ⟨cell, inSecond, inFirst⟩ := shared
  exact apart ⟨cell, inFirst, inSecond⟩

/-! ## Cells off the perimeter -/

theorem mem_cells_and_not_mem_perimeter_iff :
    point ∈ box.cells ∧ point ∉ box.perimeter ↔
      (box.left < point.x ∧ point.x < box.right) ∧ box.top < point.y ∧ point.y < box.bottom := by
  rw [← mem_cells_and_not_onPerimeter_iff, mem_perimeter_iff, mem_cells_iff]
  apply and_congr_right
  intro inside
  rw [and_iff_right inside]

theorem strictlyContains_one_iff :
    first.strictlyContains second 1 = true ↔
      ∀ cell ∈ second.cells, cell ∈ first.cells ∧ cell ∉ first.perimeter := by
  have columns := second.left_toInt_le
  have rows := second.top_toInt_le
  have one : (1 : Coordinate).toInt = 1 := rfl
  simp only [mem_cells_and_not_mem_perimeter_iff]
  simp only [strictlyContains_iff, one, mem_cells_iff, containsPoint_iff, Int32.lt_iff_toInt_lt]
  constructor
  · intro nested cell inside
    omega
  · intro nested
    -- two opposite corners reach all four edges
    have upper := nested ⟨second.left, second.top⟩
    have lower := nested ⟨second.right, second.bottom⟩
    simp only at upper lower
    omega

theorem intersects_of_strictlyContains_one (nested : first.strictlyContains second 1 = true) :
    first.intersects second = true := by
  have corner : (⟨second.left, second.top⟩ : Point) ∈ second.cells := by
    rw [mem_cells_iff, containsPoint_iff]
    exact ⟨⟨Int.le_refl _, second.left_toInt_le⟩, Int.le_refl _, second.top_toInt_le⟩
  rw [strictlyContains_one_iff] at nested
  exact intersects_iff_exists_cell.mpr ⟨_, (nested _ corner).1, corner⟩

/-! ## Words -/

/-- What is computed from the edges of a box, step by step, comes out exactly on words of 64
bits. -/
structure ExactInWords (box : Box) (margin : Coordinate) : Prop where
  left : (box.left.toInt64 + margin.toInt64).toInt = box.left.toInt + margin.toInt
  right : (box.right.toInt64 - margin.toInt64).toInt = box.right.toInt - margin.toInt
  top : (box.top.toInt64 + margin.toInt64).toInt = box.top.toInt + margin.toInt
  bottom : (box.bottom.toInt64 - margin.toInt64).toInt = box.bottom.toInt - margin.toInt
  columns : (box.right.toInt64 - box.left.toInt64).toInt = box.right.toInt - box.left.toInt
  width : (box.right.toInt64 - box.left.toInt64 + 1).toInt = box.width
  rows : (box.bottom.toInt64 - box.top.toInt64).toInt = box.bottom.toInt - box.top.toInt
  height : (box.bottom.toInt64 - box.top.toInt64 + 1).toInt = box.height

theorem toInt_add_toInt64 (left right : Coordinate) :
    (left.toInt64 + right.toInt64).toInt = left.toInt + right.toInt := by
  have leftLower := left.le_toInt
  have leftUpper := left.toInt_lt
  have rightLower := right.le_toInt
  have rightUpper := right.toInt_lt
  rw [Int64.toInt_add, Int32.toInt_toInt64, Int32.toInt_toInt64]
  exact Int.bmod_eq_of_le (by omega) (by omega)

theorem toInt_sub_toInt64 (left right : Coordinate) :
    (left.toInt64 - right.toInt64).toInt = left.toInt - right.toInt := by
  have leftLower := left.le_toInt
  have leftUpper := left.toInt_lt
  have rightLower := right.le_toInt
  have rightUpper := right.toInt_lt
  rw [Int64.toInt_sub, Int32.toInt_toInt64, Int32.toInt_toInt64]
  exact Int.bmod_eq_of_le (by omega) (by omega)

theorem toInt_sub_toInt64_add_one (first last : Coordinate) :
    (last.toInt64 - first.toInt64 + 1).toInt = last.toInt - first.toInt + 1 := by
  have firstLower := first.le_toInt
  have firstUpper := first.toInt_lt
  have lastLower := last.le_toInt
  have lastUpper := last.toInt_lt
  have one : (1 : Int64).toInt = 1 := rfl
  rw [Int64.toInt_add, toInt_sub_toInt64, one]
  exact Int.bmod_eq_of_le (by omega) (by omega)

theorem exactInWords (box : Box) (margin : Coordinate) : box.ExactInWords margin where
  left := toInt_add_toInt64 box.left margin
  right := toInt_sub_toInt64 box.right margin
  top := toInt_add_toInt64 box.top margin
  bottom := toInt_sub_toInt64 box.bottom margin
  columns := toInt_sub_toInt64 box.right box.left
  width := toInt_sub_toInt64_add_one box.left box.right
  rows := toInt_sub_toInt64 box.bottom box.top
  height := toInt_sub_toInt64_add_one box.top box.bottom

/-! ## All tests together -/

/-- The tests on two boxes anywhere in the plane say what their cells say.  It follows that
intersection and adjacency are symmetric and exclude one another, and that lying strictly
inside is a strict order below intersection.  Nothing is lost to overflow on the way. -/
theorem tests_cellwise (first second : Box) :
    (∀ point, point ∈ first.cells ↔ first.containsPoint point = true) ∧
      first.cells.Pairwise (· < ·) ∧
      (first.intersects second = true ↔ ∃ cell ∈ first.cells, cell ∈ second.cells) ∧
      (first.isAdjacent second = true ↔
        (¬∃ cell ∈ first.cells, cell ∈ second.cells) ∧
          ∃ own ∈ first.cells, ∃ other ∈ second.cells, own.Touches other) ∧
      (first.strictlyContains second 1 = true ↔
        ∀ cell ∈ second.cells, cell ∈ first.cells ∧ cell ∉ first.perimeter) ∧
      first.intersects second = second.intersects first ∧
      first.isAdjacent second = second.isAdjacent first ∧
      ¬(first.intersects second = true ∧ first.isAdjacent second = true) ∧
      ¬first.strictlyContains first 1 = true ∧
      (first.strictlyContains second 1 = true → ¬second.strictlyContains first 1 = true) ∧
      (∀ third : Box, first.strictlyContains second 1 = true →
        second.strictlyContains third 1 = true → first.strictlyContains third 1 = true) ∧
      (first.strictlyContains second 1 = true → first.intersects second = true) ∧
      ∀ margin, first.ExactInWords margin := by
  have positive : 0 < (1 : Coordinate).toInt := by decide
  have chained {outer middle inner : Box} (around : outer.strictlyContains middle 1 = true)
      (within : middle.strictlyContains inner 1 = true) : outer.strictlyContains inner 1 = true :=
    strictlyContains_trans (Int.le_of_lt positive) around within
  refine ⟨fun _ => mem_cells_iff, first.pairwise_cells, intersects_iff_exists_cell,
    isAdjacent_iff, strictlyContains_one_iff, intersects_comm first second, ?_, ?_,
    not_strictlyContains_self positive, ?_, fun _ => chained,
    intersects_of_strictlyContains_one, first.exactInWords⟩
  · exact Bool.eq_iff_iff.mpr ⟨isAdjacent_symm, isAdjacent_symm⟩
  · intro both
    obtain ⟨shared, adjacent⟩ := both
    exact (isAdjacent_iff.mp adjacent).1 (intersects_iff_exists_cell.mp shared)
  · intro around within
    exact not_strictlyContains_self positive (chained around within)

end Box

end ScreenSight
