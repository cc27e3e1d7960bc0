import ScreenSight.Proofs.Detection.Pipeline
import ScreenSight.Proofs.Geometry.Box
import ScreenSight.Proofs.Grid.Reading

/-!
# Frames and brackets lie on their grid

Frames end at corners and brackets at characters that are read off the grid, so their
boxes do not reach beyond it.
-/

namespace ScreenSight

/-- Every box of a component lies on a grid. -/
def Component.LiesOn (component : Component) (grid : Grid) : Prop :=
  ∀ box ∈ component.box.toList ++ component.refinedBox.toList, box.Within grid.width grid.height

theorem Component.liesOn_of_box {component : Component} {grid : Grid} {box : Box}
    (detected : component.box = some box) (unrefined : component.refinedBox = none)
    (within : box.Within grid.width grid.height) : component.LiesOn grid := by
  intro other member
  rw [detected, unrefined] at member
  rwa [List.mem_singleton.mp member]

/-! ## Frames -/

namespace FrameStyle

theorem findRight?_mem {style : FrameStyle} {grid : Grid} {y right : Coordinate}
    {columns : List Coordinate} (found : style.findRight? grid y columns = some right) :
    right ∈ columns :=
  List.mem_of_find?_eq_some found

theorem findBottom?_mem {style : FrameStyle} {grid : Grid} {x bottom : Coordinate}
    {rows : List Coordinate} (found : style.findBottom? grid x rows = some bottom) :
    bottom ∈ rows := by
  induction rows with
  | nil => cases found
  | cons y below induction =>
      rw [findBottom?] at found
      split at found
      · cases found
      · split at found
        · cases found
          exact List.mem_cons_self
        · split at found
          · exact List.mem_cons_of_mem y (induction found)
          · cases found

theorem within_of_trace? {style : FrameStyle} {grid : Grid} {corner : Point} {box : Box}
    (corners : corner ∈ grid.points) (found : style.trace? grid corner = some box) :
    box.Within grid.width grid.height := by
  obtain ⟨y, row, corners⟩ := List.mem_flatMap.mp corners
  obtain ⟨x, column, rfl⟩ := List.mem_map.mp corners
  obtain ⟨right, rightFound, found⟩ := Option.bind_eq_some_iff.mp found
  obtain ⟨bottom, bottomFound, found⟩ := Option.bind_eq_some_iff.mp found
  have behind := List.mem_of_mem_filter (findRight?_mem rightFound)
  have below := List.mem_of_mem_filter (findBottom?_mem bottomFound)
  split at found
  · cases found
    exact Box.within_ofCorners (Coordinate.mem_below_of_mem_scanned column)
      (Coordinate.mem_below_of_mem_scanned behind) (Coordinate.mem_below_of_mem_scanned row)
      (Coordinate.mem_below_of_mem_scanned below)
  · cases found

end FrameStyle

theorem Detector.liesOn_frame {grid : Grid} {claimed : CellSet} {detected : Detected}
    (member : detected ∈ Detector.frame.detect grid claimed) :
    detected.component.LiesOn grid := by
  obtain ⟨corner, corners, member⟩ := List.mem_flatMap.mp member
  rw [FrameStyle.framesAt] at member
  split at member
  · cases member
  · obtain ⟨style, _, traced⟩ := List.mem_filterMap.mp member
    obtain ⟨box, found, rfl⟩ := Option.map_eq_some_iff.mp traced
    exact Component.liesOn_of_box rfl rfl
      (FrameStyle.within_of_trace? (List.mem_of_mem_filter corners) found)

/-! ## Brackets -/

namespace BracketSpan

theorem lastColumn_of_ofPair? {pair : BracketPair} {column : Nat} {behind : List Char}
    {span : BracketSpan} (found : ofPair? pair column behind = some span) :
    span.lastColumn + span.trailing.length = column + behind.length := by
  simp only [ofPair?] at found
  split at found
  · cases found
  · next closing trailing rest =>
      split at found
      · cases found
      · cases found
        have parts := congrArg List.length
          (List.takeWhile_append_dropWhile (p := (· != pair.closing)) (l := behind))
        rw [rest, List.length_append, List.length_cons] at parts
        simp only [lastColumn]
        omega

theorem lastColumn_of_first? {column : Nat} {row : List Char} {span : BracketSpan}
    (found : first? column row = some span) :
    span.lastColumn + span.trailing.length + 1 = column + row.length := by
  cases row with
  | nil => cases found
  | cons c behind =>
      obtain ⟨pair, _, opened⟩ := Option.bind_eq_some_iff.mp found
      rw [lastColumn_of_ofPair? opened, List.length_cons, Nat.add_assoc]

/-- Spans end in the row that they are found in. -/
theorem lastColumn_lt_of_mem_scan (claimed : CellSet) (y : Coordinate) (column : Nat)
    (row : List Char) {span : BracketSpan} (member : span ∈ scan claimed y column row) :
    span.lastColumn < column + row.length := by
  fun_induction scan claimed y column row with
  | case1 => cases member
  | case2 column c behind _ induction =>
      have bound := induction member
      rw [List.length_cons]
      omega
  | case3 => cases member
  | case4 column c behind first found _ others _ induction =>
      have ends := lastColumn_of_first? found
      have bound := induction member
      omega
  | case5 column c behind first found _ others _ induction =>
      have ends := lastColumn_of_first? found
      rcases List.mem_cons.mp member with same | later
      · rw [same]
        omega
      · have bound := induction later
        omega

theorem cell_mem_below {width column : Nat} (inside : column < width) (y : Coordinate) :
    (cell y column).x ∈ Coordinate.below width := by
  rw [Coordinate.mem_below_iff, cell, Coordinate.toInt_saturate]
  omega

end BracketSpan

theorem Detector.liesOn_bracket {grid : Grid} {claimed : CellSet} {detected : Detected}
    (member : detected ∈ Detector.bracket.detect grid claimed) :
    detected.component.LiesOn grid := by
  obtain ⟨⟨row, y⟩, line, member⟩ := List.mem_flatMap.mp member
  obtain ⟨span, scanned, rfl⟩ := List.mem_map.mp member
  obtain ⟨written, low⟩ := List.of_mem_zip line
  have last := BracketSpan.lastColumn_lt_of_mem_scan claimed y 0 row scanned
  rw [Nat.zero_add, Grid.length_of_mem_rows written] at last
  have first : span.column < grid.width := by
    rw [BracketSpan.lastColumn] at last
    omega
  exact Component.liesOn_of_box rfl rfl
    (Box.within_ofCorners (BracketSpan.cell_mem_below first y)
      (BracketSpan.cell_mem_below last y) low low)

/-! ## Both -/

/-- What the standard pipeline finds lies on the grid. -/
theorem Pipeline.liesOn_standard {grid : Grid} {component : Component}
    (member : component ∈ Pipeline.standard.detect grid) : component.LiesOn grid := by
  obtain ⟨detector, listed, claimed, detected, found, id, rfl⟩ := exists_of_mem_detect member
  rcases mem_standard listed with rfl | rfl
  · exact Detector.liesOn_frame found
  · exact Detector.liesOn_bracket found

end ScreenSight
