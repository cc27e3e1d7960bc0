import Mathlib.Data.Nat.Init
import ScreenSight.Proofs.Geometry.Box
import ScreenSight.Spatial.Layout

/-!
# The buckets that a box covers

`BucketLayout.Covers` says by columns and rows which buckets a box reaches into
once it has been pulled into the area.  If the buckets can be counted in a word,
the numbers that the layout enumerates are exactly these buckets, all of them
exist, and the bucket of each cell of the area that lies in the box is among them.
-/

namespace ScreenSight.BucketLayout

/-- A point is a cell of the area. -/
def HasCell (layout : BucketLayout) (point : Point) : Prop :=
  (0 ≤ point.x.toInt ∧ point.x.toInt < layout.width) ∧
    0 ≤ point.y.toInt ∧ point.y.toInt < layout.height

instance (layout : BucketLayout) (point : Point) : Decidable (layout.HasCell point) :=
  inferInstanceAs (Decidable ((_ ∧ _) ∧ _ ∧ _))

/-- The number along an axis of the bucket that an integer is pulled into. -/
def bucketAlong (layout : BucketLayout) (extent : Nat) (value : Int) : Int :=
  Box.nearest extent value / layout.cellSize

/-- A bucket lies in the rectangle of buckets between the corners of a box that
was pulled into the area.  An area without cells has no such rectangle. -/
def Covers (layout : BucketLayout) (box : Box) (bucket : Nat) : Prop :=
  (0 < layout.width ∧ 0 < layout.height) ∧
    (layout.bucketAlong layout.width box.left.toInt ≤ (bucket % layout.columns : Nat) ∧
      (bucket % layout.columns : Nat) ≤ layout.bucketAlong layout.width box.right.toInt) ∧
    layout.bucketAlong layout.height box.top.toInt ≤ (bucket / layout.columns : Nat) ∧
      (bucket / layout.columns : Nat) ≤ layout.bucketAlong layout.height box.bottom.toInt

instance (layout : BucketLayout) (box : Box) (bucket : Nat) :
    Decidable (layout.Covers box bucket) :=
  inferInstanceAs (Decidable ((_ ∧ _) ∧ (_ ∧ _) ∧ _ ∧ _))

/-- The buckets can be counted in a word. -/
def Exact (layout : BucketLayout) : Prop :=
  Word.Fits (layout.columns * layout.rows)

instance (layout : BucketLayout) : Decidable layout.Exact :=
  inferInstanceAs (Decidable (Word.Fits _))

theorem bucketAlong_mono (layout : BucketLayout) (extent : Nat) {left right : Int}
    (before : left ≤ right) :
    layout.bucketAlong extent left ≤ layout.bucketAlong extent right := by
  have positive : (0 : Int) < layout.cellSize := by
    exact_mod_cast layout.cellSize_pos
  exact Int.ediv_le_ediv positive (Box.nearest_mono extent before)

theorem bucketAlong_nonneg (layout : BucketLayout) {extent : Nat} (positive : 0 < extent)
    (value : Int) : 0 ≤ layout.bucketAlong extent value :=
  Int.ediv_nonneg (Box.nearest_nonneg positive value) (Int.natCast_nonneg _)

theorem bucketsFor_pos (layout : BucketLayout) (extent : Nat) :
    0 < layout.bucketsFor extent := by
  unfold bucketsFor
  omega

theorem columns_pos (layout : BucketLayout) : 0 < layout.columns :=
  layout.bucketsFor_pos layout.width

theorem rows_pos (layout : BucketLayout) : 0 < layout.rows :=
  layout.bucketsFor_pos layout.height

/-- The buckets of an extent reach as far as its cells. -/
theorem div_lt_bucketsFor (layout : BucketLayout) {extent place : Nat}
    (inside : place < extent) :
    place / layout.cellSize < layout.bucketsFor extent := by
  have positive := layout.cellSize_pos
  have rounded : (extent + layout.cellSize - 1) / layout.cellSize =
      (extent - 1) / layout.cellSize + 1 := by
    rw [← Nat.add_div_right _ positive]
    congr 1
    omega
  have before : place / layout.cellSize ≤ (extent - 1) / layout.cellSize :=
    Nat.div_le_div_right (by omega)
  unfold bucketsFor
  omega

theorem bucketOf_lt (layout : BucketLayout) (value : Coordinate) {buckets : Nat}
    (positive : 0 < buckets) : layout.bucketOf value buckets < buckets := by
  unfold bucketOf
  omega

theorem bucketAlong_lt (layout : BucketLayout) {extent : Nat} (positive : 0 < extent)
    (value : Int) : layout.bucketAlong extent value < layout.bucketsFor extent := by
  have lower := Box.nearest_nonneg positive value
  have upper := Box.nearest_lt extent value
  have inside : (Box.nearest extent value).toNat < extent := by omega
  have reached := layout.div_lt_bucketsFor inside
  have restored : ((Box.nearest extent value).toNat : Int) = Box.nearest extent value :=
    Int.toNat_of_nonneg lower
  unfold bucketAlong
  rw [← restored]
  exact_mod_cast reached

/-- On the axis, the bound on bucket numbers changes nothing. -/
theorem bucketOf_eq_bucketAlong (layout : BucketLayout) {extent : Nat}
    {value : Coordinate} {edge : Int} (positive : 0 < extent)
    (pulled : value.toInt = Box.nearest extent edge) :
    (layout.bucketOf value (layout.bucketsFor extent) : Int) =
      layout.bucketAlong extent edge := by
  have reached := layout.bucketAlong_lt positive edge
  have restored : (value.toInt.toNat : Int) = Box.nearest extent edge := by
    rw [pulled]
    exact Int.toNat_of_nonneg (Box.nearest_nonneg positive edge)
  have quotient : ((value.toInt.toNat / layout.cellSize : Nat) : Int) =
      layout.bucketAlong extent edge := by
    rw [Int.natCast_ediv, restored, bucketAlong]
  unfold bucketOf
  omega

section

variable {layout : BucketLayout} {column row bucket : Nat}

theorem Exact.count_eq (exact : layout.Exact) : layout.count = layout.columns * layout.rows :=
  Word.wrap_of_fits exact

/-- Areas of less than `2 ^ 32` columns and rows are small enough, whatever the buckets. -/
theorem exact_of_lt (narrow : layout.width < 0x100000000) (low : layout.height < 0x100000000) :
    layout.Exact := by
  have smaller (extent : Nat) (bound : extent < 0x100000000) :
      layout.bucketsFor extent < 0x100000000 := by
    have quotient : (extent + layout.cellSize - 1) / layout.cellSize ≤ extent := by
      rw [Nat.div_le_iff_le_mul_add_pred layout.cellSize_pos]
      have grows := Nat.le_mul_of_pos_left extent layout.cellSize_pos
      omega
    unfold bucketsFor
    omega
  exact Nat.mul_lt_mul'' (smaller _ narrow) (smaller _ low)

theorem lt_columns_mul_rows (columnInside : column < layout.columns)
    (rowInside : row < layout.rows) :
    row * layout.columns + column < layout.columns * layout.rows := by
  have fits : (row + 1) * layout.columns ≤ layout.rows * layout.columns :=
    Nat.mul_le_mul_right _ rowInside
  rw [Nat.add_mul, Nat.one_mul] at fits
  rw [Nat.mul_comm layout.columns]
  omega

theorem Exact.index_eq (exact : layout.Exact) (columnInside : column < layout.columns)
    (rowInside : row < layout.rows) :
    layout.index column row = row * layout.columns + column :=
  Word.wrap_of_fits (Nat.lt_trans (lt_columns_mul_rows columnInside rowInside) exact)

theorem Exact.index_mod (exact : layout.Exact) (columnInside : column < layout.columns)
    (rowInside : row < layout.rows) :
    layout.index column row % layout.columns = column := by
  rw [exact.index_eq columnInside rowInside, Nat.mul_add_mod_self_right,
    Nat.mod_eq_of_lt columnInside]

theorem Exact.index_div (exact : layout.Exact) (columnInside : column < layout.columns)
    (rowInside : row < layout.rows) :
    layout.index column row / layout.columns = row := by
  rw [exact.index_eq columnInside rowInside, Nat.add_comm,
    Nat.add_mul_div_right _ _ layout.columns_pos, Nat.div_eq_of_lt columnInside, Nat.zero_add]

theorem Exact.index_mod_div (exact : layout.Exact) (rowInside : bucket / layout.columns < layout.rows) :
    layout.index (bucket % layout.columns) (bucket / layout.columns) = bucket := by
  rw [exact.index_eq (Nat.mod_lt _ layout.columns_pos) rowInside]
  exact Nat.div_add_mod' bucket layout.columns

theorem Exact.index_lt_count (exact : layout.Exact) (columnInside : column < layout.columns)
    (rowInside : row < layout.rows) : layout.index column row < layout.count := by
  rw [exact.index_eq columnInside rowInside, exact.count_eq]
  exact lt_columns_mul_rows columnInside rowInside

/-- Every point has a bucket, also outside the area. -/
theorem Exact.indexAt_lt_count (exact : layout.Exact) (point : Point) :
    layout.indexAt point < layout.count :=
  exact.index_lt_count (layout.bucketOf_lt _ layout.columns_pos)
    (layout.bucketOf_lt _ layout.rows_pos)

end

theorem mem_indices_iff {layout : BucketLayout} {range : BucketRange} {bucket : Nat} :
    bucket ∈ layout.indices range ↔
      ∃ row column, (range.firstRow ≤ row ∧ row ≤ range.lastRow) ∧
        (range.firstColumn ≤ column ∧ column ≤ range.lastColumn) ∧
        layout.index column row = bucket := by
  have between (first last value : Nat) :
      value ∈ List.range' first (last + 1 - first) ↔ first ≤ value ∧ value ≤ last := by
    rw [List.mem_range'_1]
    omega
  simp only [indices, List.mem_flatMap, List.mem_map, between]
  constructor
  · rintro ⟨row, rowInside, column, columnInside, same⟩
    exact ⟨row, column, rowInside, columnInside, same⟩
  · rintro ⟨row, column, rowInside, columnInside, same⟩
    exact ⟨row, rowInside, column, columnInside, same⟩

theorem range?_eq_none_iff {layout : BucketLayout} {box : Box} :
    layout.range? box = none ↔ layout.width = 0 ∨ layout.height = 0 := by
  rw [range?, Option.map_eq_none_iff, Box.clampTo]
  split <;> simp_all

theorem celled_of_range? {layout : BucketLayout} {box : Box} {range : BucketRange}
    (found : layout.range? box = some range) : 0 < layout.width ∧ 0 < layout.height := by
  have present : layout.range? box ≠ none := by simp [found]
  rw [ne_eq, range?_eq_none_iff] at present
  omega

/-- The rectangle that is enumerated has its corners where `Covers` puts them. -/
theorem range?_corners {layout : BucketLayout} {box : Box} {range : BucketRange}
    (found : layout.range? box = some range) :
    ((range.firstColumn : Int) = layout.bucketAlong layout.width box.left.toInt ∧
      (range.lastColumn : Int) = layout.bucketAlong layout.width box.right.toInt ∧
      range.lastColumn < layout.columns) ∧
    (range.firstRow : Int) = layout.bucketAlong layout.height box.top.toInt ∧
      (range.lastRow : Int) = layout.bucketAlong layout.height box.bottom.toInt ∧
      range.lastRow < layout.rows := by
  obtain ⟨wide, high⟩ := celled_of_range? found
  obtain ⟨clamped, clampedEq, left, right, top, bottom⟩ := box.exists_clampTo wide high
  rw [range?, clampedEq, Option.map_some, Option.some.injEq] at found
  subst found
  exact ⟨⟨layout.bucketOf_eq_bucketAlong wide left,
      layout.bucketOf_eq_bucketAlong wide right,
      layout.bucketOf_lt _ layout.columns_pos⟩,
    layout.bucketOf_eq_bucketAlong high top,
    layout.bucketOf_eq_bucketAlong high bottom,
    layout.bucketOf_lt _ layout.rows_pos⟩

theorem Exact.mem_indices_iff_covers {layout : BucketLayout} (exact : layout.Exact) {box : Box}
    {range : BucketRange} (found : layout.range? box = some range) {bucket : Nat} :
    bucket ∈ layout.indices range ↔ layout.Covers box bucket := by
  have celled := celled_of_range? found
  obtain ⟨⟨firstColumn, lastColumn, columnInside⟩, firstRow, lastRow, rowInside⟩ :=
    range?_corners found
  rw [mem_indices_iff]
  unfold Covers
  rw [← firstColumn, ← lastColumn, ← firstRow, ← lastRow]
  constructor
  · rintro ⟨row, column, rowBetween, columnBetween, rfl⟩
    have inColumns : column < layout.columns := by omega
    have inRows : row < layout.rows := by omega
    rw [exact.index_mod inColumns inRows, exact.index_div inColumns inRows]
    omega
  · rintro ⟨_, columnBetween, rowBetween⟩
    exact ⟨bucket / layout.columns, bucket % layout.columns, by omega, by omega,
      exact.index_mod_div (by omega)⟩

theorem not_covers_of_range?_eq_none {layout : BucketLayout} {box : Box} {bucket : Nat}
    (missing : layout.range? box = none) : ¬layout.Covers box bucket := by
  intro covered
  have celled := covered.1
  have cellless := range?_eq_none_iff.mp missing
  omega

theorem Exact.lt_count_of_covers {layout : BucketLayout} (exact : layout.Exact) {box : Box}
    {bucket : Nat} (covered : layout.Covers box bucket) : bucket < layout.count := by
  cases found : layout.range? box with
  | none => exact (not_covers_of_range?_eq_none found covered).elim
  | some range =>
      obtain ⟨⟨_, _, columnInside⟩, _, _, rowInside⟩ := range?_corners found
      obtain ⟨row, column, rowBetween, columnBetween, rfl⟩ :=
        mem_indices_iff.mp ((exact.mem_indices_iff_covers found).mpr covered)
      exact exact.index_lt_count (by omega) (by omega)

/-- A box covers the bucket of each place between its edges. -/
theorem Exact.covers_index {layout : BucketLayout} (exact : layout.Exact) {box : Box} {x y : Int}
    {column row : Nat} (celled : 0 < layout.width ∧ 0 < layout.height)
    (columnEq : layout.bucketAlong layout.width x = column)
    (rowEq : layout.bucketAlong layout.height y = row)
    (columnInside : box.left.toInt ≤ x ∧ x ≤ box.right.toInt)
    (rowInside : box.top.toInt ≤ y ∧ y ≤ box.bottom.toInt) :
    layout.Covers box (layout.index column row) := by
  have columnBound : column < layout.columns := by
    have bound := layout.bucketAlong_lt celled.1 x
    rw [columnEq] at bound
    exact_mod_cast bound
  have rowBound : row < layout.rows := by
    have bound := layout.bucketAlong_lt celled.2 y
    rw [rowEq] at bound
    exact_mod_cast bound
  refine ⟨celled, ?_, ?_⟩
  · rw [exact.index_mod columnBound rowBound, ← columnEq]
    exact ⟨layout.bucketAlong_mono _ columnInside.1, layout.bucketAlong_mono _ columnInside.2⟩
  · rw [exact.index_div columnBound rowBound, ← rowEq]
    exact ⟨layout.bucketAlong_mono _ rowInside.1, layout.bucketAlong_mono _ rowInside.2⟩

/-- The bucket of a cell is covered by every box that contains the cell. -/
theorem Exact.covers_indexAt {layout : BucketLayout} (exact : layout.Exact) {box : Box}
    {point : Point} (cell : layout.HasCell point) (inside : box.containsPoint point = true) :
    layout.Covers box (layout.indexAt point) := by
  obtain ⟨⟨leftmost, rightmost⟩, topmost, bottommost⟩ := cell
  obtain ⟨columnInside, rowInside⟩ := Box.containsPoint_iff.mp inside
  have celled : 0 < layout.width ∧ 0 < layout.height := by omega
  -- pulling leaves the cell where it is, so it stays between the edges
  have column := layout.bucketOf_eq_bucketAlong celled.1
    (Box.nearest_of_inside leftmost rightmost).symm
  have row := layout.bucketOf_eq_bucketAlong celled.2
    (Box.nearest_of_inside topmost bottommost).symm
  exact exact.covers_index celled column.symm row.symm columnInside rowInside

/-- Boxes that share a cell of the plane share a bucket, wherever the area lies. -/
theorem Exact.exists_covers_of_intersects {layout : BucketLayout} (exact : layout.Exact)
    (celled : 0 < layout.width ∧ 0 < layout.height) {first second : Box}
    (meeting : first.intersects second = true) :
    ∃ bucket, layout.Covers first bucket ∧ layout.Covers second bucket := by
  obtain ⟨columns, rows⟩ := Box.intersects_iff.mp meeting
  have firstColumns := first.left_toInt_le
  have secondColumns := second.left_toInt_le
  have firstRows := first.top_toInt_le
  have secondRows := second.top_toInt_le
  -- the bucket of the top left corner of what they share
  obtain ⟨column, columnEq⟩ := Int.eq_ofNat_of_zero_le
    (layout.bucketAlong_nonneg celled.1 (max first.left.toInt second.left.toInt))
  obtain ⟨row, rowEq⟩ := Int.eq_ofNat_of_zero_le
    (layout.bucketAlong_nonneg celled.2 (max first.top.toInt second.top.toInt))
  exact ⟨layout.index column row,
    exact.covers_index celled columnEq rowEq (by omega) (by omega),
    exact.covers_index celled columnEq rowEq (by omega) (by omega)⟩

end ScreenSight.BucketLayout
