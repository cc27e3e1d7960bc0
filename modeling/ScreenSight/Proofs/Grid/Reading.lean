import Mathlib.Data.List.Basic
import ScreenSight.Grid.Basic
import ScreenSight.Proofs.Geometry.Coordinate

/-!
# Reading grids

A grid made of lines reads like the lines themselves: filling them up to a common
width shows only where a cell without a character is told from a blank one.
-/

namespace ScreenSight

/-- The character in a column of a row of some lines.  What was never written is
blank. -/
def charIn (lines : List (List Char)) (column row : Nat) : Char :=
  (lines.getD row []).getD column blank

theorem getD_rightpad {α : Type} (items : List α) (length place : Nat) (filler : α) :
    (items.rightpad length filler).getD place filler = items.getD place filler := by
  simp only [List.getD_eq_getElem?_getD, List.rightpad, List.getElem?_append,
    List.getElem?_replicate]
  by_cases inside : place < items.length
  · simp [inside]
  · have absent : items[place]? = none := List.getElem?_eq_none (by omega)
    rw [if_neg inside, absent]
    split <;> rfl

theorem charIn_map_rightpad (lines : List (List Char)) (width column row : Nat) :
    charIn (lines.map fun line => line.rightpad width blank) column row =
      charIn lines column row := by
  simp only [charIn, List.getD_eq_getElem?_getD (i := row), List.getElem?_map]
  cases lines[row]? with
  | none => rfl
  | some line =>
      simp only [Option.map_some, Option.getD_some]
      exact getD_rightpad line width column blank

theorem charIn_of_ge {lines : List (List Char)} {row : Nat} (below : lines.length ≤ row)
    (column : Nat) : charIn lines column row = blank := by
  rw [charIn, List.getD_eq_getElem?_getD (i := row), List.getElem?_eq_none below]
  rfl

theorem charIn_concat (lines : List (List Char)) (line : List Char) (column row : Nat) :
    charIn (lines ++ [line]) column row =
      if row = lines.length then line.getD column blank else charIn lines column row := by
  rcases Nat.lt_trichotomy row lines.length with inside | last | below
  · rw [if_neg (Nat.ne_of_lt inside), charIn, List.getD_eq_getElem?_getD (i := row),
      List.getElem?_append_left inside, ← List.getD_eq_getElem?_getD, charIn]
  · subst last
    rw [if_pos rfl, charIn, List.getD_eq_getElem?_getD (i := lines.length),
      List.getElem?_concat_length, Option.getD_some]
  · have beyond : (lines ++ [line]).length ≤ row := by
      rw [List.length_append]
      exact below
    rw [if_neg (Nat.ne_of_gt below), charIn_of_ge beyond, charIn_of_ge (Nat.le_of_lt below)]

/-- A line with nothing to see at the end does not show. -/
theorem charIn_concat_of_blank {line : List Char}
    (empty : ∀ column, line.getD column blank = blank) (lines : List (List Char))
    (column row : Nat) : charIn (lines ++ [line]) column row = charIn lines column row := by
  rw [charIn_concat]
  split
  · next below => rw [empty, charIn_of_ge (Nat.le_of_eq below.symm)]
  · rfl

/-- Among pieces of one length each piece is found by its number. -/
theorem take_drop_flatten {α : Type} {pieces : List (List α)} {length : Nat}
    (even : ∀ piece ∈ pieces, piece.length = length) {place : Nat} {piece : List α}
    (present : pieces[place]? = some piece) :
    (pieces.flatten.drop (place * length)).take length = piece := by
  induction pieces generalizing place with
  | nil => simp at present
  | cons head tail induction =>
      have headLength : head.length = length := even head List.mem_cons_self
      cases place with
      | zero =>
          have same : head = piece := by simpa using present
          rw [Nat.zero_mul, List.drop_zero, List.flatten_cons, ← headLength,
            List.take_left' rfl, same]
      | succ place =>
          have later : tail[place]? = some piece := by simpa using present
          have skip : (place + 1) * length = head.length + place * length := by
            rw [headLength, Nat.succ_mul, Nat.add_comm]
          rw [List.flatten_cons, skip, List.drop_length_add_append]
          exact induction (fun piece member => even piece (List.mem_cons_of_mem _ member)) later

namespace Grid

/-- The character in a column and row of a grid, blank outside of it. -/
def charAt (grid : Grid) (column row : Nat) : Char :=
  charIn grid.rows column row

theorem row?_of_lt {grid : Grid} {row : Nat} (inside : row < grid.height) :
    grid.row? row =
      some ((grid.cells.get.toList.drop (row * grid.width)).take grid.width) := by
  simp [row?, inside]

theorem row?_of_ge {grid : Grid} {row : Nat} (outside : grid.height ≤ row) :
    grid.row? row = none := by
  simp [row?, Nat.not_lt.mpr outside]

theorem getElem?_rows (grid : Grid) (row : Nat) : grid.rows[row]? = grid.row? row := by
  have mapped : grid.rows = (List.range grid.height).map fun row =>
      (grid.cells.get.toList.drop (row * grid.width)).take grid.width := by
    rw [rows, ← List.filterMap_eq_map]
    apply List.filterMap_congr
    intro row member
    exact row?_of_lt (List.mem_range.mp member)
  rw [mapped, List.getElem?_map]
  by_cases inside : row < grid.height
  · rw [List.getElem?_range inside, row?_of_lt inside]
    rfl
  · rw [row?_of_ge (Nat.not_lt.mp inside),
      List.getElem?_eq_none (by simpa using inside)]
    rfl

theorem length_of_mem_rows {grid : Grid} {line : List Char} (member : line ∈ grid.rows) :
    line.length = grid.width := by
  obtain ⟨row, present⟩ := List.getElem?_of_mem member
  rw [getElem?_rows] at present
  by_cases inside : row < grid.height
  · rw [row?_of_lt inside, Option.some.injEq] at present
    have size := grid.size_cells
    have ends : row * grid.width + grid.width ≤ grid.width * grid.height := by
      rw [← Nat.succ_mul, Nat.mul_comm grid.width]
      exact Nat.mul_le_mul_right grid.width inside
    rw [← present, List.length_take, List.length_drop, Array.length_toList, size]
    omega
  · rw [row?_of_ge (Nat.not_lt.mp inside)] at present
    cases present

/-- Reading by coordinates is reading in a row. -/
theorem get?_eq (grid : Grid) (x y : Coordinate) :
    grid.get? x y =
      (Coordinate.toNat? y).bind fun row =>
        (Coordinate.toNat? x).bind fun column =>
          (grid.row? row).bind fun cells => cells[column]? := by
  unfold get? index?
  cases Coordinate.toNat? x with
  | none => cases Coordinate.toNat? y <;> rfl
  | some column =>
      cases Coordinate.toNat? y with
      | none => rfl
      | some row =>
          simp only [Option.bind_some]
          by_cases low : row < grid.height
          · rw [row?_of_lt low, Option.bind_some, List.getElem?_take, List.getElem?_drop]
            by_cases inside : column < grid.width
            · simp [low, inside]
            · simp [inside]
          · rw [row?_of_ge (Nat.not_lt.mp low)]
            simp [low]

/-- A cell that is there has the character that the grid reads. -/
theorem charAt_of_get? {grid : Grid} {x y : Coordinate} {c : Char}
    (found : grid.get? x y = some c) : grid.charAt x.toInt.toNat y.toInt.toNat = c := by
  rw [get?_eq] at found
  obtain ⟨row, rowOf, found⟩ := Option.bind_eq_some_iff.mp found
  obtain ⟨column, columnOf, found⟩ := Option.bind_eq_some_iff.mp found
  obtain ⟨line, lineOf, found⟩ := Option.bind_eq_some_iff.mp found
  have rowSame : y.toInt.toNat = row := by
    rw [Coordinate.toInt_of_toNat?_eq_some rowOf, Int.toNat_natCast]
  have columnSame : x.toInt.toNat = column := by
    rw [Coordinate.toInt_of_toNat?_eq_some columnOf, Int.toNat_natCast]
  rw [charAt, charIn, rowSame, columnSame, List.getD_eq_getElem?_getD (i := row),
    getElem?_rows, lineOf, Option.getD_some, List.getD_eq_getElem?_getD, found,
    Option.getD_some]

/-- Where there is no cell the grid reads blank. -/
theorem charAt_eq_blank {grid : Grid} {column row : Nat}
    (outside : grid.width ≤ column ∨ grid.height ≤ row) :
    grid.charAt column row = blank := by
  rw [charAt, charIn, List.getD_eq_getElem?_getD (i := row), getElem?_rows]
  by_cases low : row < grid.height
  · have wide : grid.width ≤ column := by omega
    rw [row?_of_lt low, Option.getD_some, List.getD_eq_getElem?_getD,
      List.getElem?_eq_none (by simp; omega)]
    rfl
  · rw [row?_of_ge (Nat.not_lt.mp low)]
    rfl

theorem getD_get? (grid : Grid) (x y : Coordinate) :
    (grid.get? x y).getD blank =
      ((Coordinate.toNat? y).bind fun row =>
        (Coordinate.toNat? x).map fun column => grid.charAt column row).getD blank := by
  rw [get?_eq]
  cases Coordinate.toNat? y with
  | none => rfl
  | some row =>
      cases Coordinate.toNat? x with
      | none => rfl
      | some column =>
          simp only [Option.bind_some, Option.map_some, Option.getD_some, charAt, charIn,
            List.getD_eq_getElem?_getD, getElem?_rows]
          cases grid.row? row <;> rfl

/-- Grids that read the same have the same cells but for blank ones. -/
theorem getD_get?_congr {grid other : Grid}
    (same : ∀ column row, grid.charAt column row = other.charAt column row)
    (x y : Coordinate) : (grid.get? x y).getD blank = (other.get? x y).getD blank := by
  simp only [getD_get?, same]

theorem ofLengths_eq (lengths : List Nat) (rows : Thunk (List (List Char)))
    (known : rows.get.map List.length = lengths) :
    ofLengths lengths rows known = ofRows rows.get := by
  subst known
  rfl

theorem ofText_eq (text : String) (tabWidth : Nat) :
    ofText text tabWidth = ofRows ((linesOf text.toList).map (expandTabs tabWidth 0)) :=
  ofLengths_eq _ _ _

theorem ofRows_of_eq_zero {lines : List (List Char)} (nothing : widest lines = 0) :
    ofRows lines = empty :=
  dif_pos nothing

theorem ofRows_of_ne_zero {lines : List (List Char)} (written : widest lines ≠ 0) :
    (ofRows lines).width = widest lines ∧ (ofRows lines).height = lines.length ∧
      (ofRows lines).cells.get =
        (lines.flatMap fun line => line.rightpad (widest lines) blank).toArray := by
  have filled : ofRows lines = _ := dif_neg written
  rw [filled]
  exact ⟨rfl, List.length_map List.length, rfl⟩

theorem rows_ofRows {lines : List (List Char)} (written : widest lines ≠ 0) :
    (ofRows lines).rows = lines.map fun line => line.rightpad (widest lines) blank := by
  have even : ∀ piece ∈ lines.map fun line => line.rightpad (widest lines) blank,
      piece.length = widest lines := by
    intro piece member
    obtain ⟨line, present, rfl⟩ := List.mem_map.mp member
    have short := length_le_widest present
    simp [List.rightpad]
    omega
  obtain ⟨width, height, cells⟩ := ofRows_of_ne_zero written
  apply List.ext_getElem?
  intro row
  rw [getElem?_rows]
  by_cases inside : row < lines.length
  · rw [row?_of_lt (height ▸ inside)]
    have present := List.getElem?_eq_getElem
      (l := lines.map fun line => line.rightpad (widest lines) blank) (by simpa using inside)
    rw [present, ← take_drop_flatten even present]
    rw [width, cells, List.toList_toArray, List.flatMap_def]
  · rw [row?_of_ge (height ▸ Nat.not_lt.mp inside), List.getElem?_eq_none (by simpa using inside)]

/-- A grid of lines reads like the lines. -/
theorem charAt_ofRows (lines : List (List Char)) (column row : Nat) :
    (ofRows lines).charAt column row = charIn lines column row := by
  by_cases written : widest lines = 0
  · have nothing : (ofRows lines).charAt column row = blank :=
      charAt_eq_blank (.inl (by rw [ofRows_of_eq_zero written]; exact Nat.zero_le _))
    have short : (lines.getD row []).length = 0 := by
      rw [List.getD_eq_getElem?_getD]
      cases present : lines[row]? with
      | none => rfl
      | some line =>
          have bound := length_le_widest (List.mem_of_getElem? present)
          simpa [written] using bound
    rw [nothing, charIn, List.length_eq_zero_iff.mp short]
    rfl
  · rw [charAt, rows_ofRows written, charIn_map_rightpad]

/-- Lines with anything to see keep their number. -/
theorem height_ofRows {lines : List (List Char)} {column row : Nat}
    (visible : charIn lines column row ≠ blank) : (ofRows lines).height = lines.length := by
  have written : widest lines ≠ 0 := by
    intro none
    apply visible
    rw [← charAt_ofRows]
    exact charAt_eq_blank (.inl (by rw [ofRows_of_eq_zero none]; exact Nat.zero_le _))
  exact (ofRows_of_ne_zero written).2.1

end Grid

end ScreenSight
