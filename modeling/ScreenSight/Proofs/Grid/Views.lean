import Mathlib.Data.List.DropRight
import Mathlib.Data.List.Forall2
import ScreenSight.Grid.Region
import ScreenSight.Proofs.Geometry.Cells
import ScreenSight.Proofs.Grid.Reading

/-!
# Views of a grid

A character of a grid can be read by its address, in its row, or through a region, there
again by offset or in the lines of the region.  All of these ways read the same
characters: a region has been pulled into the grid, so none of its offsets misses a cell
and none of its lines is short.
-/

namespace ScreenSight

/-- What is left of a line without the white space at its end. -/
structure Trims (line kept : List Char) : Prop where
  parts : ∃ blanks, line = kept ++ blanks ∧ ∀ c ∈ blanks, Text.isBlank c = true
  ending : ∀ last, kept.getLast? = some last → Text.isBlank last = false

theorem trims_dropBlankEnd (line : List Char) : Trims line (Text.dropBlankEnd line) := by
  change Trims line (line.rdropWhile Text.isBlank)
  constructor
  · exact ⟨line.rtakeWhile Text.isBlank, List.rdropWhile_append_rtakeWhile.symm,
      fun _ => List.mem_rtakeWhile_imp⟩
  · intro last found
    have filled : line.rdropWhile Text.isBlank ≠ [] := by
      intro empty
      rw [empty] at found
      cases found
    rw [List.getLast?_eq_some_getLast filled, Option.some.injEq] at found
    rw [← found]
    exact Bool.eq_false_iff.mpr (List.rdropWhile_last_not Text.isBlank line filled)

namespace Grid

/-! ## Addresses -/

/-- An address belongs to a cell. -/
def Holds (grid : Grid) (x y : Coordinate) : Prop :=
  (0 ≤ x.toInt ∧ x.toInt < grid.width) ∧ 0 ≤ y.toInt ∧ y.toInt < grid.height

variable {grid : Grid} {x y : Coordinate}

theorem index?_eq_some_iff {place : Nat} :
    grid.index? x y = some place ↔
      grid.Holds x y ∧ place = y.toInt.toNat * grid.width + x.toInt.toNat := by
  unfold index? Holds
  cases columnOf : Coordinate.toNat? x with
  | none =>
      have left := Coordinate.toInt_neg_of_toNat?_eq_none columnOf
      simp only [reduceCtorEq, false_iff]
      omega
  | some column =>
      have columnSame := Coordinate.toInt_of_toNat?_eq_some columnOf
      cases rowOf : Coordinate.toNat? y with
      | none =>
          have above := Coordinate.toInt_neg_of_toNat?_eq_none rowOf
          simp only [reduceCtorEq, false_iff]
          omega
      | some row =>
          have rowSame := Coordinate.toInt_of_toNat?_eq_some rowOf
          simp only [columnSame, rowSame, Int.toNat_natCast]
          split <;> simp <;> omega

theorem contains_iff_holds : grid.contains x y = true ↔ grid.Holds x y := by
  rw [contains, Option.isSome_iff_exists]
  simp only [index?_eq_some_iff, exists_and_left, exists_eq, and_true]

theorem holds_of_get? {c : Char} (found : grid.get? x y = some c) : grid.Holds x y := by
  obtain ⟨place, placed, _⟩ := Option.bind_eq_some_iff.mp found
  exact (index?_eq_some_iff.mp placed).1

/-- A cell is read by its address as in its row. -/
theorem exists_row?_of_holds (holds : grid.Holds x y) :
    ∃ row c, grid.row? y.toInt.toNat = some row ∧ row[x.toInt.toNat]? = some c ∧
      grid.get? x y = some c := by
  obtain ⟨⟨leftmost, columns⟩, topmost, rows⟩ := holds
  have columnOf : Coordinate.toNat? x = some x.toInt.toNat :=
    Int.mem_toNat?.mpr (Int.toNat_of_nonneg leftmost).symm
  have rowOf : Coordinate.toNat? y = some y.toInt.toNat :=
    Int.mem_toNat?.mpr (Int.toNat_of_nonneg topmost).symm
  have inGrid : y.toInt.toNat < grid.height := by omega
  obtain ⟨row, present⟩ : ∃ row, grid.row? y.toInt.toNat = some row := ⟨_, row?_of_lt inGrid⟩
  have even : row.length = grid.width := by
    rw [← getElem?_rows] at present
    exact length_of_mem_rows (List.mem_of_getElem? present)
  have inside : x.toInt.toNat < row.length := by omega
  refine ⟨row, row[x.toInt.toNat], present, List.getElem?_eq_getElem inside, ?_⟩
  rw [get?_eq, columnOf, rowOf, Option.bind_some, Option.bind_some, present, Option.bind_some,
    List.getElem?_eq_getElem inside]

theorem get?_of_holds (holds : grid.Holds x y) :
    grid.get? x y = some (grid.charAt x.toInt.toNat y.toInt.toNat) := by
  obtain ⟨_, _, _, _, found⟩ := exists_row?_of_holds holds
  rw [found, charAt_of_get? found]

end Grid

/-! ## Regions -/

/-- A box has been pulled into a grid from two corners. -/
structure Grid.Pulls (grid : Grid) (x1 y1 x2 y2 : Coordinate) (area : Box) : Prop where
  within : area.Within grid.width grid.height
  left : area.left.toInt = Box.nearest grid.width (min x1.toInt x2.toInt)
  right : area.right.toInt = Box.nearest grid.width (max x1.toInt x2.toInt)
  top : area.top.toInt = Box.nearest grid.height (min y1.toInt y2.toInt)
  bottom : area.bottom.toInt = Box.nearest grid.height (max y1.toInt y2.toInt)

theorem Grid.area_region_eq_none_iff (grid : Grid) (x1 y1 x2 y2 : Coordinate) :
    (grid.region x1 y1 x2 y2).area = none ↔ grid.width = 0 ∨ grid.height = 0 := by
  unfold region Box.clampTo
  split
  · next cellless => simp [cellless]
  · next celled => simp [celled]

/-- Where there are cells, every region has an area. -/
theorem Grid.pulls_area_region {grid : Grid} {x1 y1 x2 y2 : Coordinate} {area : Box}
    (shown : (grid.region x1 y1 x2 y2).area = some area) : grid.Pulls x1 y1 x2 y2 area := by
  have celled : ¬(grid.width = 0 ∨ grid.height = 0) := by
    rw [← grid.area_region_eq_none_iff x1 y1 x2 y2, shown]
    exact Option.some_ne_none area
  have wide : 0 < grid.width := by omega
  have high : 0 < grid.height := by omega
  obtain ⟨clamped, pulled, left, right, top, bottom⟩ :=
    (Box.ofCorners x1 y1 x2 y2).exists_clampTo wide high
  obtain rfl : clamped = area := Option.some.inj (pulled.symm.trans shown)
  simp only [Box.ofCorners, Coordinate.toInt_min, Coordinate.toInt_max] at left right top bottom
  refine ⟨⟨?_, ?_, ?_, ?_⟩, left, right, top, bottom⟩
  · exact left ▸ Box.nearest_nonneg wide _
  · exact right ▸ Box.nearest_lt grid.width _
  · exact top ▸ Box.nearest_nonneg high _
  · exact bottom ▸ Box.nearest_lt grid.height _

namespace Region

/-- A view does not reach outside of its grid. -/
def Fits (region : Region) : Prop :=
  ∀ area, region.area = some area → area.Within region.grid.width region.grid.height

/-- An offset belongs to a cell of a view. -/
def Holds (region : Region) (dx dy : Coordinate) : Prop :=
  (0 ≤ dx.toInt ∧ dx.toInt < region.width) ∧ 0 ≤ dy.toInt ∧ dy.toInt < region.height

variable {region : Region} {area : Box} {dx dy : Coordinate}

theorem width_eq (shown : region.area = some area) :
    region.width = (area.right.toInt - area.left.toInt + 1).toNat := by
  simp [width, shown, Box.width]

theorem height_eq (shown : region.area = some area) :
    region.height = (area.bottom.toInt - area.top.toInt + 1).toNat := by
  simp [height, shown, Box.height]

/-- An offset of a view reads the grid as far from the corner of the area. -/
theorem get?_eq_some_iff (shown : region.area = some area) {c : Char} :
    region.get? dx dy = some c ↔
      region.Holds dx dy ∧ ∃ x y, x.toInt = area.left.toInt + dx.toInt ∧
        y.toInt = area.top.toInt + dy.toInt ∧ region.grid.get? x y = some c := by
  have columns := area.left_toInt_le
  have rows := area.top_toInt_le
  rw [Holds, width_eq shown, height_eq shown, get?, shown]
  simp only [Option.bind_eq_bind, Option.bind_some, Bool.or_eq_true, decide_eq_true_eq,
    Int32.lt_iff_toInt_lt, Int32.toInt_zero]
  constructor
  · intro read
    split at read
    · cases read
    · obtain ⟨x, columnOf, read⟩ := Option.bind_eq_some_iff.mp read
      obtain ⟨y, rowOf, read⟩ := Option.bind_eq_some_iff.mp read
      rw [Coordinate.ofInt?_eq_some_iff] at columnOf rowOf
      split at read
      · next inside =>
          rw [Box.containsPoint_iff] at inside
          simp only at inside
          exact ⟨by omega, x, y, columnOf, rowOf, read⟩
      · cases read
  · intro held
    obtain ⟨holds, x, y, columnOf, rowOf, found⟩ := held
    have inside : area.containsPoint ⟨x, y⟩ = true := by
      rw [Box.containsPoint_iff]
      simp only
      omega
    rw [if_neg (by omega), Coordinate.ofInt?_eq_some_iff.mpr columnOf, Option.bind_some,
      Coordinate.ofInt?_eq_some_iff.mpr rowOf, Option.bind_some, if_pos inside, found]

theorem holds_of_get? {c : Char} (read : region.get? dx dy = some c) :
    region.Holds dx dy := by
  cases shown : region.area with
  | none =>
      rw [get?, shown] at read
      cases read
  | some area => exact ((get?_eq_some_iff shown).mp read).1

theorem exists_area_of_holds (holds : region.Holds dx dy) : ∃ area, region.area = some area := by
  cases shown : region.area with
  | none =>
      obtain ⟨⟨leftmost, columns⟩, _⟩ := holds
      simp only [width, shown] at columns
      omega
  | some area => exact ⟨area, rfl⟩

/-- The lines of a view of cells are the characters in its rows. -/
theorem rows_eq (shown : region.area = some area)
    (within : area.Within region.grid.width region.grid.height) :
    region.rows = (Coordinate.upTo area.top area.bottom).map fun y =>
      (Coordinate.upTo area.left area.right).map fun x =>
        region.grid.charAt x.toInt.toNat y.toInt.toNat := by
  obtain ⟨leftmost, rightmost, topmost, bottommost⟩ := within
  simp only [rows, shown]
  apply List.map_congr_left
  intro y rowListed
  rw [← List.filterMap_eq_map]
  apply List.filterMap_congr
  intro x columnListed
  rw [Coordinate.mem_upTo_iff] at rowListed columnListed
  have holds : region.grid.Holds x y := by
    unfold Grid.Holds
    omega
  exact Grid.get?_of_holds holds

theorem length_rows (fits : region.Fits) :
    region.rows.length = region.height ∧ ∀ row ∈ region.rows, row.length = region.width := by
  cases shown : region.area with
  | none => simp [rows, height, shown]
  | some area =>
      rw [rows_eq shown (fits area shown), List.length_map, Coordinate.length_upTo,
        height_eq shown, width_eq shown]
      refine ⟨by omega, ?_⟩
      intro row listed
      obtain ⟨y, _, rfl⟩ := List.mem_map.mp listed
      rw [List.length_map, Coordinate.length_upTo]
      omega

/-- Every cell of a view is read by its offset as in its row, and in the grid as far from the
corner of the area. -/
theorem exists_row_of_holds (fits : region.Fits) (holds : region.Holds dx dy) :
    ∃ area x y row c, region.area = some area ∧ x.toInt = area.left.toInt + dx.toInt ∧
      y.toInt = area.top.toInt + dy.toInt ∧ region.rows[dy.toInt.toNat]? = some row ∧
      row[dx.toInt.toNat]? = some c ∧ region.get? dx dy = some c ∧
      region.grid.get? x y = some c := by
  obtain ⟨area, shown⟩ := exists_area_of_holds holds
  have within := fits area shown
  have size := holds
  rw [Holds, width_eq shown, height_eq shown] at size
  obtain ⟨x, columnListed, columnOf⟩ :=
    Coordinate.exists_getElem?_upTo area.left area.right dx.toInt.toNat (by omega)
  obtain ⟨y, rowListed, rowOf⟩ :=
    Coordinate.exists_getElem?_upTo area.top area.bottom dy.toInt.toNat (by omega)
  rw [Int.toNat_of_nonneg size.1.1] at columnOf
  rw [Int.toNat_of_nonneg size.2.1] at rowOf
  have inGrid : region.grid.Holds x y := by
    obtain ⟨leftmost, rightmost, topmost, bottommost⟩ := within
    unfold Grid.Holds
    omega
  have found := Grid.get?_of_holds inGrid
  let row := (Coordinate.upTo area.left area.right).map fun x =>
    region.grid.charAt x.toInt.toNat y.toInt.toNat
  refine ⟨area, x, y, row, _, shown, columnOf, rowOf, ?_, ?_,
    (get?_eq_some_iff shown).mpr ⟨holds, x, y, columnOf, rowOf, found⟩, found⟩
  · rw [rows_eq shown within, List.getElem?_map, rowListed]
    rfl
  · rw [List.getElem?_map, columnListed]
    rfl

/-- The text of a view is its lines without the white space at their ends. -/
theorem exists_lines_text (region : Region) :
    ∃ lines, region.text = Text.joinWith "\n" (lines.map String.ofList) ∧
      List.Forall₂ Trims region.rows lines := by
  refine ⟨region.rows.map Text.dropBlankEnd, ?_, ?_⟩
  · rw [text, List.map_map]
    rfl
  · rw [List.forall₂_map_right_iff, List.forall₂_same]
    exact fun line _ => trims_dropBlankEnd line

end Region

/-- All ways to read a grid agree, however it was made.  An address has a character just if it
belongs to a cell, and then the one in its row.  A region between any corners has been pulled
into the grid; each of its offsets reads as its row does and as the grid does that far from
the corner of the area, and no other offset reads anything; and its text is its lines without
the white space at their ends. -/
theorem Grid.views_agree (grid : Grid) (x1 y1 x2 y2 : Coordinate) :
    let region := grid.region x1 y1 x2 y2
    (∀ x y, ((grid.get? x y).isSome = true ↔ grid.Holds x y) ∧
      (grid.contains x y = true ↔ grid.Holds x y) ∧
      (grid.Holds x y → ∃ row c, grid.row? y.toInt.toNat = some row ∧
        row[x.toInt.toNat]? = some c ∧ grid.get? x y = some c)) ∧
    (region.area = none ↔ grid.width = 0 ∨ grid.height = 0) ∧
    (∀ area, region.area = some area → grid.Pulls x1 y1 x2 y2 area) ∧
    region.rows.length = region.height ∧
    (∀ row ∈ region.rows, row.length = region.width) ∧
    (∀ dx dy, region.Holds dx dy → ∃ area x y row c, region.area = some area ∧
      x.toInt = area.left.toInt + dx.toInt ∧ y.toInt = area.top.toInt + dy.toInt ∧
      region.rows[dy.toInt.toNat]? = some row ∧ row[dx.toInt.toNat]? = some c ∧
      region.get? dx dy = some c ∧ grid.get? x y = some c) ∧
    (∀ dx dy, ¬region.Holds dx dy → region.get? dx dy = none) ∧
    ∃ lines, region.text = Text.joinWith "\n" (lines.map String.ofList) ∧
      List.Forall₂ Trims region.rows lines := by
  intro region
  have fits : region.Fits := fun _ shown => (Grid.pulls_area_region shown).within
  obtain ⟨high, wide⟩ := Region.length_rows fits
  refine ⟨?_, grid.area_region_eq_none_iff x1 y1 x2 y2, fun _ => Grid.pulls_area_region, high,
    wide, fun _ _ => Region.exists_row_of_holds fits, ?_, region.exists_lines_text⟩
  · intro x y
    refine ⟨⟨?_, ?_⟩, Grid.contains_iff_holds, Grid.exists_row?_of_holds⟩
    · intro read
      obtain ⟨c, found⟩ := Option.isSome_iff_exists.mp read
      exact Grid.holds_of_get? found
    · intro holds
      rw [Grid.get?_of_holds holds, Option.isSome_some]
  · intro dx dy outside
    rw [Option.eq_none_iff_forall_ne_some]
    intro c read
    exact outside (Region.holds_of_get? read)

end ScreenSight
