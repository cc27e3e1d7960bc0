import ScreenSight.Containment.Pairs
import ScreenSight.Proofs.Spatial.Layout

/-!
# Placing boxes in the index

Moving boxes to the origin and pulling them together stays within the words
that it is computed in, and never separates a box from one that contains it.
-/

namespace ScreenSight.Containment

/-- An integer has a signed word of 64 bits. -/
def FitsWord (value : Int) : Prop :=
  -0x8000000000000000 ≤ value ∧ value < 0x8000000000000000

namespace Axis

/-- The placement along some ranges is computed within words, and every place comes
back as a coordinate without saturation. -/
structure Exact (ranges : List (Coordinate × Coordinate)) : Prop where
  distance : FitsWord (lastOf ranges - firstOf ranges)
  length : FitsWord (lastOf ranges - firstOf ranges + 1)
  shift : ∀ value : Coordinate, FitsWord (value.toInt - (ofRanges ranges).offset)
  place : ∀ value : Coordinate, ((ofRanges ranges).place value).toInt =
    max 0 (min (value.toInt - (ofRanges ranges).offset) ((ofRanges ranges).extent - 1))

theorem place_mono (axis : Axis) {left right : Coordinate}
    (before : left.toInt ≤ right.toInt) :
    (axis.place left).toInt ≤ (axis.place right).toInt := by
  simp only [place, Coordinate.toInt_saturate]
  omega

theorem extent_bounds (ranges : List (Coordinate × Coordinate)) :
    0 < (ofRanges ranges).extent ∧ (ofRanges ranges).extent ≤ extentLimit := by
  simp only [ofRanges, extentLimit]
  omega

theorem foldl_min_bounds {start : Int} (values : List Coordinate)
    (lower : -0x80000000 ≤ start) (upper : start ≤ 0) :
    -0x80000000 ≤ (values.map Int32.toInt).foldl min start ∧
      (values.map Int32.toInt).foldl min start ≤ 0 := by
  induction values generalizing start with
  | nil => exact ⟨lower, upper⟩
  | cons value rest induction =>
      have bound := value.le_toInt
      exact induction (by omega) (by omega)

theorem firstOf_bounds (ranges : List (Coordinate × Coordinate)) :
    -0x80000000 ≤ firstOf ranges ∧ firstOf ranges ≤ 0 := by
  have lower : -0x80000000 ≤ (0 : Int) := by omega
  have bounds := foldl_min_bounds (ranges.map Prod.fst) lower (Int.le_refl 0)
  rw [List.map_map] at bounds
  exact bounds

theorem lastOf_bounds (ranges : List (Coordinate × Coordinate)) :
    -0x80000000 ≤ lastOf ranges ∧ lastOf ranges < 0x80000000 := by
  unfold lastOf
  cases found : (ranges.map fun range => range.2.toInt).max? with
  | none => simp
  | some last =>
      have member := List.max?_mem found
      obtain ⟨range, _, same⟩ := List.mem_map.mp member
      have lower := range.2.le_toInt
      have upper := range.2.toInt_lt
      rw [Option.getD_some, ← same]
      omega

theorem exact (ranges : List (Coordinate × Coordinate)) : Exact ranges := by
  have first := firstOf_bounds ranges
  have last := lastOf_bounds ranges
  constructor
  · unfold FitsWord
    omega
  · unfold FitsWord
    omega
  · intro value
    have lower := value.le_toInt
    have upper := value.toInt_lt
    simp only [FitsWord, ofRanges]
    omega
  · intro value
    simp only [Axis.place, Coordinate.toInt_saturate, ofRanges, extentLimit]
    omega

end Axis

namespace Frame

/-- The indexed area has cells, and is not too large. -/
structure Bounded (frame : Frame) : Prop where
  horizontal : 0 < frame.horizontal.extent ∧ frame.horizontal.extent ≤ extentLimit
  vertical : 0 < frame.vertical.extent ∧ frame.vertical.extent ≤ extentLimit

theorem bounded_ofBoxes (boxes : List Box) : (ofBoxes boxes).Bounded :=
  ⟨Axis.extent_bounds _, Axis.extent_bounds _⟩

namespace Bounded

variable {frame : Frame} {cellSize : Nat} {positive : 0 < cellSize}

theorem celled (bounded : frame.Bounded) :
    0 < (frame.layout cellSize positive).width ∧ 0 < (frame.layout cellSize positive).height := by
  obtain ⟨⟨wide, _⟩, high, _⟩ := bounded
  simp only [layout]
  omega

theorem exact (bounded : frame.Bounded) : (frame.layout cellSize positive).Exact := by
  obtain ⟨⟨_, narrow⟩, _, low⟩ := bounded
  simp only [extentLimit] at narrow low
  apply BucketLayout.exact_of_lt
  · simp only [layout]
    omega
  · simp only [layout]
    omega

end Bounded

theorem place_edges (frame : Frame) (box : Box) :
    (frame.place box).left.toInt = (frame.horizontal.place box.left).toInt ∧
      (frame.place box).right.toInt = (frame.horizontal.place box.right).toInt ∧
      (frame.place box).top.toInt = (frame.vertical.place box.top).toInt ∧
      (frame.place box).bottom.toInt = (frame.vertical.place box.bottom).toInt :=
  Box.toInt_ofCorners_of_le (frame.horizontal.place_mono box.left_toInt_le)
    (frame.vertical.place_mono box.top_toInt_le)

/-- What lies in a box shares a cell with it after both have been placed. -/
theorem place_intersects (frame : Frame) {outer inner : Box}
    (contained : outer.strictlyContains inner margin = true) :
    (frame.place outer).intersects (frame.place inner) = true := by
  have unit : margin.toInt = 1 := rfl
  obtain ⟨columns, rows⟩ := Box.strictlyContains_iff.mp contained
  rw [unit] at columns rows
  have innerColumns := inner.left_toInt_le
  have innerRows := inner.top_toInt_le
  obtain ⟨outerLeft, outerRight, outerTop, outerBottom⟩ := frame.place_edges outer
  obtain ⟨innerLeft, innerRight, innerTop, innerBottom⟩ := frame.place_edges inner
  rw [Box.intersects_iff, outerLeft, outerRight, outerTop, outerBottom, innerLeft,
    innerRight, innerTop, innerBottom]
  exact ⟨⟨frame.horizontal.place_mono (by omega), frame.horizontal.place_mono (by omega)⟩,
    frame.vertical.place_mono (by omega), frame.vertical.place_mono (by omega)⟩

end Frame

end ScreenSight.Containment
