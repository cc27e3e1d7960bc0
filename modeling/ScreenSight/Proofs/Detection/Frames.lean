import Mathlib.Data.List.Nodup
import ScreenSight.Proofs.Detection.Shapes
import ScreenSight.Proofs.Geometry.Cells
import ScreenSight.Proofs.Grid.Views
import ScreenSight.Proofs.Ordered.Set
import ScreenSight.Recognition.View

/-!
# Which frames a grid has

Frames are traced from their top left corner to the first corner on the right and to the
first one below.  What is found are the boxes with the four corners of a style and with
fitting upper and left edges, one for each top left corner at most.  A grid with more
columns or rows than there are coordinates is scanned in part or not at all.
-/

namespace ScreenSight

namespace Box

/-- The cell from which a frame is traced. -/
def corner (box : Box) : Point :=
  ⟨box.left, box.top⟩

end Box

theorem Grid.mem_below_of_get? {grid : Grid} {x y : Coordinate} {c : Char}
    (found : grid.get? x y = some c) :
    x ∈ Coordinate.below grid.width ∧ y ∈ Coordinate.below grid.height := by
  obtain ⟨place, indexed, _⟩ := Option.bind_eq_some_iff.mp found
  rw [index?] at indexed
  split at indexed
  · next column row columnOf rowOf =>
      split at indexed
      · next inside =>
          have columnValue := Coordinate.toInt_of_toNat?_eq_some columnOf
          have rowValue := Coordinate.toInt_of_toNat?_eq_some rowOf
          rw [Coordinate.mem_below_iff, Coordinate.mem_below_iff]
          omega
      · cases indexed
  · cases indexed

theorem Grid.mem_points_iff {grid : Grid} {point : Point} :
    point ∈ grid.points ↔
      point.x ∈ Coordinate.scanned grid.width ∧ point.y ∈ Coordinate.scanned grid.height := by
  obtain ⟨x, y⟩ := point
  simp only [points, List.mem_flatMap, List.mem_map, Point.mk.injEq]
  constructor
  · intro listed
    obtain ⟨_, low, _, within, rfl, rfl⟩ := listed
    exact ⟨within, low⟩
  · intro inside
    obtain ⟨within, low⟩ := inside
    exact ⟨y, low, x, within, rfl, rfl⟩

theorem Grid.pairwise_points (grid : Grid) : grid.points.Pairwise (· < ·) := by
  refine List.pairwise_flatMap.mpr ⟨?_, ?_⟩
  · intro y _
    refine List.pairwise_map.mpr ((Coordinate.pairwise_scanned grid.width).imp ?_)
    intro left right before
    exact .inr ⟨rfl, before⟩
  · refine (Coordinate.pairwise_scanned grid.height).imp ?_
    intro upper lower above first firstListed second secondListed
    obtain ⟨_, _, rfl⟩ := List.mem_map.mp firstListed
    obtain ⟨_, _, rfl⟩ := List.mem_map.mp secondListed
    exact .inl above

/-- A scan of a grid comes to all cells of a box that has any there. -/
def Grid.Scans (grid : Grid) (box : Box) : Prop :=
  box.right.toInt < Coordinate.scanEnd grid.width ∧
    box.bottom.toInt < Coordinate.scanEnd grid.height

theorem Grid.corner_mem_points {grid : Grid} {box : Box} {c : Char}
    (found : grid.at? box.corner = some c) (scanned : grid.Scans box) :
    box.corner ∈ grid.points := by
  have columns := box.left_toInt_le
  have rows := box.top_toInt_le
  obtain ⟨column, row⟩ := mem_below_of_get? found
  obtain ⟨within, low⟩ := scanned
  rw [mem_points_iff, Coordinate.mem_scanned_iff, Coordinate.mem_scanned_iff]
  rw [Coordinate.mem_below_iff] at column row
  simp only [Box.corner] at column row ⊢
  omega

namespace FrameStyle

variable {style : FrameStyle} {grid : Grid}

/-! ## Corners -/

/-- The style with one glyph for all its corners. -/
def ascii : FrameStyle :=
  ⟨"ascii", '+', '+', '+', '+', '-', '|'⟩

theorem bottomLeft_ne : ∀ style ∈ all, style.bottomLeft ≠ style.vertical ∧
    style.bottomLeft ≠ blank := by
  decide

theorem nodup_topLeft : (all.map topLeft).Nodup := by
  decide

/-- Among increasing coordinates the first one that passes a test has none before it. -/
theorem find?_eq_some_iff {places : List Coordinate} (increasing : places.Pairwise (· < ·))
    {test : Coordinate → Bool} {place : Coordinate} :
    places.find? test = some place ↔
      place ∈ places ∧ test place = true ∧
        ∀ other ∈ places, other < place → ¬test other = true := by
  rw [List.find?_eq_some_iff_append]
  constructor
  · intro first
    obtain ⟨passes, before, behind, rfl, fails⟩ := first
    refine ⟨by simp, passes, ?_⟩
    intro other listed earlier
    have ordered := (List.pairwise_append.mp increasing).2.1
    rcases List.mem_append.mp listed with first | rest
    · simpa using fails other first
    · rcases List.mem_cons.mp rest with rfl | last
      · exact absurd earlier Int32.lt_irrefl
      · have later := (List.pairwise_cons.mp ordered).1 other last
        exact absurd earlier (Int32.lt_asymm later)
  · intro least
    obtain ⟨listed, passes, fails⟩ := least
    obtain ⟨before, behind, rfl⟩ := List.append_of_mem listed
    refine ⟨passes, before, behind, rfl, ?_⟩
    intro other first
    have earlier := (List.pairwise_append.mp increasing).2.2 other first place List.mem_cons_self
    simpa using fails other (List.mem_append_left _ first) earlier

theorem findRight?_eq_some_iff {x y right : Coordinate} :
    style.findRight? grid y (columnsAfter grid x) = some right ↔
      x < right ∧ right.toInt < Coordinate.scanEnd grid.width ∧
        grid.get? right y = some style.topRight ∧
        ∀ column, x < column → column < right → grid.get? column y ≠ some style.topRight := by
  have increasing : (columnsAfter grid x).Pairwise (· < ·) :=
    (Coordinate.pairwise_scanned grid.width).filter _
  rw [findRight?, FrameStyle.find?_eq_some_iff increasing]
  simp only [columnsAfter, List.mem_filter, decide_eq_true_eq, beq_iff_eq,
    Coordinate.mem_scanned_iff]
  constructor
  · intro found
    obtain ⟨⟨⟨_, scanned⟩, behind⟩, found, none⟩ := found
    refine ⟨behind, scanned, found, ?_⟩
    intro column after before again
    have inGrid := Coordinate.mem_below_iff.mp (Grid.mem_below_of_get? again).1
    have earlier := Int32.lt_iff_toInt_lt.mp before
    exact none column ⟨⟨inGrid.1, by omega⟩, after⟩ before again
  · intro nearest
    obtain ⟨behind, scanned, found, none⟩ := nearest
    have inGrid := Coordinate.mem_below_iff.mp (Grid.mem_below_of_get? found).1
    refine ⟨⟨⟨inGrid.1, scanned⟩, behind⟩, found, ?_⟩
    intro column listed before
    exact none column listed.2 before

/-- A cell of a left edge is not the end of it. -/
def Continues (style : FrameStyle) (found : Option Char) : Prop :=
  found = some style.vertical ∨ found = some blank

instance (style : FrameStyle) (found : Option Char) : Decidable (style.Continues found) :=
  inferInstanceAs (Decidable (_ ∨ _))

theorem Continues.ne_bottomLeft (known : style ∈ all) {found : Option Char}
    (continues : style.Continues found) : found ≠ some style.bottomLeft := by
  obtain ⟨notVertical, notBlank⟩ := bottomLeft_ne style known
  rcases continues with rfl | rfl
  · simpa using notVertical.symm
  · simpa using notBlank.symm

theorem findBottom?_cons (x y : Coordinate) (below : List Coordinate) :
    style.findBottom? grid x (y :: below) =
      if grid.get? x y = some style.bottomLeft then some y
      else if style.Continues (grid.get? x y) then style.findBottom? grid x below
      else none := by
  rw [findBottom?]
  cases grid.get? x y with
  | none => simp [Continues]
  | some c => simp [Continues]

theorem findBottom?_eq_some_iff_of_increasing (known : style ∈ all) {x bottom : Coordinate}
    {rows : List Coordinate} (increasing : rows.Pairwise (· < ·)) :
    style.findBottom? grid x rows = some bottom ↔
      bottom ∈ rows ∧ grid.get? x bottom = some style.bottomLeft ∧
        ∀ y ∈ rows, y < bottom → style.Continues (grid.get? x y) := by
  induction rows with
  | nil => simp [findBottom?]
  | cons y below induction =>
      obtain ⟨first, increasing⟩ := List.pairwise_cons.mp increasing
      by_cases continues : style.Continues (grid.get? x y)
      · rw [findBottom?_cons, if_neg (continues.ne_bottomLeft known), if_pos continues,
          induction increasing, List.mem_cons, List.forall_mem_cons]
        constructor
        · intro found
          obtain ⟨listed, ends, edge⟩ := found
          exact ⟨.inr listed, ends, fun _ => continues, edge⟩
        · intro found
          obtain ⟨rfl | listed, ends, _, edge⟩ := found
          · exact absurd ends (continues.ne_bottomLeft known)
          · exact ⟨listed, ends, edge⟩
      · rw [findBottom?_cons, if_neg continues, List.mem_cons, List.forall_mem_cons]
        constructor
        · intro found
          split at found
          · next ends =>
              obtain rfl := Option.some.inj found
              refine ⟨.inl rfl, ends, fun above => absurd above Int32.lt_irrefl, ?_⟩
              intro row listed above
              exact absurd above (Int32.lt_asymm (first row listed))
          · cases found
        · intro found
          obtain ⟨rfl | listed, ends, edge, _⟩ := found
          · exact if_pos ends
          · exact absurd (edge (first bottom listed)) continues

theorem findBottom?_eq_some_iff (known : style ∈ all) {x y bottom : Coordinate}
    (low : 0 ≤ y.toInt) :
    style.findBottom? grid x (rowsAfter grid y) = some bottom ↔
      y < bottom ∧ bottom.toInt < Coordinate.scanEnd grid.height ∧
        grid.get? x bottom = some style.bottomLeft ∧
        ∀ row, y < row → row < bottom → style.Continues (grid.get? x row) := by
  have increasing : (rowsAfter grid y).Pairwise (· < ·) :=
    (Coordinate.pairwise_scanned grid.height).filter _
  rw [findBottom?_eq_some_iff_of_increasing known increasing]
  simp only [rowsAfter, List.mem_filter, decide_eq_true_eq, Coordinate.mem_scanned_iff]
  constructor
  · intro found
    obtain ⟨⟨⟨_, scanned⟩, below⟩, ends, edge⟩ := found
    refine ⟨below, scanned, ends, ?_⟩
    intro row after before
    refine edge row ⟨?_, after⟩ before
    rw [Int32.lt_iff_toInt_lt] at after before
    omega
  · intro nearest
    obtain ⟨below, scanned, ends, edge⟩ := nearest
    have inGrid := Coordinate.mem_below_iff.mp (Grid.mem_below_of_get? ends).2
    refine ⟨⟨⟨inGrid.1, scanned⟩, below⟩, ends, ?_⟩
    intro row listed before
    exact edge row listed.2 before

/-! ## Boxes of frames -/

/-- A style has its corners at the corners of a box, the upper right one is the first on
its row, and nothing but vertical glyphs and blanks stands between the left ones. -/
structure Outlines (style : FrameStyle) (grid : Grid) (box : Box) : Prop where
  wide : box.left < box.right
  high : box.top < box.bottom
  topLeft : grid.get? box.left box.top = some style.topLeft
  topRight : grid.get? box.right box.top = some style.topRight
  bottomLeft : grid.get? box.left box.bottom = some style.bottomLeft
  bottomRight : grid.get? box.right box.bottom = some style.bottomRight
  topEdge : ∀ x, box.left < x → x < box.right → grid.get? x box.top ≠ some style.topRight
  leftEdge : ∀ y, box.top < y → y < box.bottom →
    grid.get? box.left y = some style.vertical ∨ grid.get? box.left y = some blank

theorem trace?_eq_some_iff (known : style ∈ all) {corner : Point}
    (start : grid.at? corner = some style.topLeft) {box : Box} :
    style.trace? grid corner = some box ↔
      box.corner = corner ∧ style.Outlines grid box ∧ grid.Scans box := by
  obtain ⟨x, y⟩ := corner
  have low : 0 ≤ y.toInt := (Coordinate.mem_below_iff.mp (Grid.mem_below_of_get? start).2).1
  simp only [trace?, Option.bind_eq_bind, Option.bind_eq_some_iff, findRight?_eq_some_iff,
    findBottom?_eq_some_iff known low, Option.ite_none_right_eq_some, Option.some.injEq]
  constructor
  · intro traced
    obtain ⟨right, ⟨wide, rightScanned, topRight, topEdge⟩, bottom,
      ⟨high, bottomScanned, bottomLeft, leftEdge⟩, bottomRight, rfl⟩ := traced
    rw [Box.ofCorners_of_le (Int32.le_of_lt wide) (Int32.le_of_lt high)]
    exact ⟨rfl, ⟨wide, high, start, topRight, bottomLeft, bottomRight, topEdge, leftEdge⟩,
      rightScanned, bottomScanned⟩
  · intro framed
    obtain ⟨same, outlines, rightScanned, bottomScanned⟩ := framed
    cases same
    exact ⟨box.right, ⟨outlines.wide, rightScanned, outlines.topRight, outlines.topEdge⟩,
      box.bottom, ⟨outlines.high, bottomScanned, outlines.bottomLeft, outlines.leftEdge⟩,
      outlines.bottomRight, box.ofCorners_self⟩

/-! ## Frames from a corner -/

/-- The styles and boxes of the frames whose top left corner is a given cell. -/
def outlinesAt (grid : Grid) (corner : Point) : List (FrameStyle × Box) :=
  (all.filter fun style => some style.topLeft == grid.at? corner).filterMap fun style =>
    (style.trace? grid corner).map fun box => (style, box)

theorem framesAt_eq (grid : Grid) (corner : Point) :
    framesAt grid corner =
      (outlinesAt grid corner).map fun frame => ⟨frame.1.component grid frame.2, .high⟩ := by
  rw [framesAt, outlinesAt]
  cases grid.at? corner with
  | none => simp
  | some c =>
      rw [List.map_filterMap]
      simp [Option.map_map, Function.comp_def]

theorem mem_outlinesAt_iff {corner : Point} {box : Box} :
    (style, box) ∈ outlinesAt grid corner ↔
      style ∈ all ∧ (style.Outlines grid box ∧ grid.Scans box) ∧ box.corner = corner := by
  simp only [outlinesAt, List.mem_filterMap, List.mem_filter, beq_iff_eq, Option.map_eq_some_iff,
    Prod.mk.injEq]
  constructor
  · intro traced
    obtain ⟨_, ⟨known, start⟩, _, traced, rfl, rfl⟩ := traced
    obtain ⟨same, outlines⟩ := (trace?_eq_some_iff known start.symm).mp traced
    exact ⟨known, outlines, same⟩
  · intro framed
    obtain ⟨known, outlines, rfl⟩ := framed
    have start : grid.at? box.corner = some style.topLeft := outlines.1.topLeft
    exact ⟨style, ⟨known, start.symm⟩, box,
      (trace?_eq_some_iff known start).mpr ⟨rfl, outlines⟩, rfl, rfl⟩

/-- No two styles share their top left corner. -/
theorem length_outlinesAt_le_one (grid : Grid) (corner : Point) :
    (outlinesAt grid corner).length ≤ 1 := by
  refine Nat.le_trans (List.length_filterMap_le _ _) ?_
  cases grid.at? corner with
  | none => simp
  | some c =>
      have single := List.nodup_iff_count_le_one.mp nodup_topLeft c
      rw [List.count, List.countP_map, List.countP_eq_length_filter] at single
      simpa [Function.comp_def] using single

theorem pairwise_of_length_le_one {α : Type} {related : α → α → Prop} {items : List α}
    (few : items.length ≤ 1) : items.Pairwise related := by
  match items with
  | [] => exact .nil
  | [item] => exact List.pairwise_singleton related item
  | _ :: _ :: _ => simp at few

/-! ## Cells of frames -/

/-- The border of a component are the glyphs of a style on the edge of a box, and its
inside are the cells off the edge. -/
structure Draws (style : FrameStyle) (grid : Grid) (box : Box) (component : Component) :
    Prop where
  boxed : component.box = some box
  boundary : ∀ cell, cell ∈ component.boundary ↔
    cell ∈ box.perimeter ∧ ∃ c, grid.at? cell = some c ∧ style.isGlyph c = true
  corners : ∀ x ∈ [box.left, box.right], ∀ y ∈ [box.top, box.bottom],
    ⟨x, y⟩ ∈ component.boundary
  interior : ∀ cell, cell ∈ component.interior ↔
    (box.left < cell.x ∧ cell.x < box.right) ∧ box.top < cell.y ∧ cell.y < box.bottom
  disjoint : ∀ cell ∈ component.boundary, cell ∉ component.interior
  within : ∀ cell, cell ∈ component.boundary ∨ cell ∈ component.interior →
    box.containsPoint cell = true
  symbols : ∀ c ∈ (grid.view component).symbols, style.isGlyph c = true

theorem mem_boundary_component_iff {box : Box} {cell : Point} :
    cell ∈ (style.component grid box).boundary ↔
      cell ∈ box.perimeter ∧ ∃ c, grid.at? cell = some c ∧ style.isGlyph c = true := by
  simp only [component, SortedSet.mem_ofList, List.mem_filter]
  cases grid.at? cell <;> simp

theorem mem_interior_component_iff {box : Box} {cell : Point} :
    cell ∈ (style.component grid box).interior ↔
      (box.left < cell.x ∧ cell.x < box.right) ∧ box.top < cell.y ∧ cell.y < box.bottom := by
  rw [← Box.mem_cells_and_not_onPerimeter_iff]
  simp [component]

theorem Outlines.corner_mem_boundary {box : Box} (outlines : style.Outlines grid box) :
    ∀ x ∈ [box.left, box.right], ∀ y ∈ [box.top, box.bottom],
      (⟨x, y⟩ : Point) ∈ (style.component grid box).boundary := by
  have columns := Int32.le_iff_toInt_le.mp box.left_le_right
  have rows := Int32.le_iff_toInt_le.mp box.top_le_bottom
  have drawn {x y : Coordinate} {c : Char} (column : x = box.left ∨ x = box.right)
      (row : y = box.top ∨ y = box.bottom) (found : grid.get? x y = some c)
      (glyph : style.isGlyph c = true) :
      (⟨x, y⟩ : Point) ∈ (style.component grid box).boundary := by
    refine mem_boundary_component_iff.mpr ⟨Box.mem_perimeter_iff.mpr ⟨?_, ?_⟩, c, found, glyph⟩
    · simp only [Box.containsPoint_iff]
      rcases column with rfl | rfl <;> rcases row with rfl | rfl <;> omega
    · rcases column with rfl | rfl <;> simp [Box.onPerimeter]
  intro x column y row
  simp only [List.mem_cons, List.not_mem_nil, or_false] at column row
  rcases column with rfl | rfl <;> rcases row with rfl | rfl
  · exact drawn (.inl rfl) (.inl rfl) outlines.topLeft (by simp [isGlyph, glyphs])
  · exact drawn (.inl rfl) (.inr rfl) outlines.bottomLeft (by simp [isGlyph, glyphs])
  · exact drawn (.inr rfl) (.inl rfl) outlines.topRight (by simp [isGlyph, glyphs])
  · exact drawn (.inr rfl) (.inr rfl) outlines.bottomRight (by simp [isGlyph, glyphs])

theorem boundaryCells_of_mem {component : Component} {cell : Point}
    (drawn : cell ∈ component.boundary) : component.boundaryCells = component.boundary := by
  have nonempty : ¬component.boundary.isEmpty = true := by
    intro empty
    rw [SortedSet.mem_def, List.isEmpty_iff.mp empty] at drawn
    cases drawn
  rw [Component.boundaryCells, if_neg nonempty]

theorem Outlines.draws {box : Box} (outlines : style.Outlines grid box) :
    style.Draws grid box (style.component grid box) where
  boxed := rfl
  boundary _ := mem_boundary_component_iff
  corners := outlines.corner_mem_boundary
  interior _ := mem_interior_component_iff
  disjoint := by
    intro cell border inside
    obtain ⟨perimeter, _⟩ := mem_boundary_component_iff.mp border
    rw [mem_interior_component_iff, ← Box.mem_cells_and_not_onPerimeter_iff] at inside
    exact inside.2 (Box.mem_perimeter_iff.mp perimeter).2
  within := by
    intro cell drawn
    rcases drawn with border | inside
    · exact (Box.mem_perimeter_iff.mp (mem_boundary_component_iff.mp border).1).1
    · rw [mem_interior_component_iff, ← Box.mem_cells_and_not_onPerimeter_iff] at inside
      exact Box.mem_cells_iff.mp inside.1
  symbols := by
    intro c visible
    have corner := outlines.corner_mem_boundary box.left List.mem_cons_self box.top
      List.mem_cons_self
    rw [Grid.view, Grid.symbolsAt, boundaryCells_of_mem corner, SortedSet.mem_ofList] at visible
    obtain ⟨cell, border, shown⟩ := List.mem_filterMap.mp visible
    obtain ⟨_, glyph, found, drawn⟩ := mem_boundary_component_iff.mp border
    obtain rfl := Option.some.inj (found.symm.trans shown)
    exact drawn

/-! ## Scanning -/

/-- On a grid whose columns and rows are coordinates a scan comes to every frame. -/
theorem Outlines.scans {box : Box} (outlines : style.Outlines grid box)
    (narrow : grid.width < 0x80000000) (low : grid.height < 0x80000000) : grid.Scans box := by
  obtain ⟨column, row⟩ := Grid.mem_below_of_get? outlines.bottomRight
  rw [Grid.Scans, Coordinate.scanEnd_of_lt narrow, Coordinate.scanEnd_of_lt low]
  exact ⟨(Coordinate.mem_below_iff.mp column).2, (Coordinate.mem_below_iff.mp row).2⟩

/-- The styles and boxes of the unclaimed frames in the order in which they are found. -/
def outlinesOn (grid : Grid) (claimed : CellSet) : List (FrameStyle × Box) :=
  (grid.points.filter fun corner => !claimed.contains corner).flatMap (outlinesAt grid)

theorem mem_outlinesOn_iff {claimed : CellSet} {box : Box} :
    (style, box) ∈ outlinesOn grid claimed ↔
      style ∈ all ∧ (style.Outlines grid box ∧ grid.Scans box) ∧ box.corner ∉ claimed := by
  simp only [outlinesOn, List.mem_flatMap, List.mem_filter, mem_outlinesAt_iff,
    Bool.not_eq_true', Bool.eq_false_iff, ne_eq, SortedSet.contains_iff]
  constructor
  · intro found
    obtain ⟨_, ⟨_, free⟩, known, outlines, rfl⟩ := found
    exact ⟨known, outlines, free⟩
  · intro framed
    obtain ⟨known, outlines, free⟩ := framed
    exact ⟨box.corner, ⟨Grid.corner_mem_points outlines.1.topLeft outlines.2, free⟩, known,
      outlines, rfl⟩

theorem pairwise_outlinesOn (grid : Grid) (claimed : CellSet) :
    (outlinesOn grid claimed).Pairwise fun left right => left.2.corner < right.2.corner := by
  refine List.pairwise_flatMap.mpr ⟨?_, ?_⟩
  · intro corner _
    exact pairwise_of_length_le_one (length_outlinesAt_le_one grid corner)
  · refine (grid.pairwise_points.filter _).imp ?_
    intro first second before left leftFound right rightFound
    obtain ⟨_, _, rfl⟩ := mem_outlinesAt_iff.mp leftFound
    obtain ⟨_, _, rfl⟩ := mem_outlinesAt_iff.mp rightFound
    exact before

theorem detect_eq (grid : Grid) (claimed : CellSet) :
    Detector.frame.detect grid claimed =
      (outlinesOn grid claimed).map fun frame => ⟨frame.1.component grid frame.2, .high⟩ := by
  rw [outlinesOn, List.map_flatMap]
  exact List.flatMap_congr fun corner _ => framesAt_eq grid corner

end FrameStyle

namespace Detector

open FrameStyle

/-- The frames that are found are the unclaimed ones that the scan comes to, one for each
top left corner at most and in reading order of these, and each is drawn with the glyphs of
its style.  The scan comes to all frames of a grid whose columns and rows are coordinates. -/
theorem detect_frame (grid : Grid) (claimed : CellSet) :
    ∃ frames : List (FrameStyle × Box),
      frame.detect grid claimed =
        frames.map (fun frame => ⟨frame.1.component grid frame.2, .high⟩) ∧
      frames.Pairwise (fun left right => left.2.corner < right.2.corner) ∧
      (∀ style box, (style, box) ∈ frames ↔
        style ∈ FrameStyle.all ∧ (style.Outlines grid box ∧ grid.Scans box) ∧
          box.corner ∉ claimed) ∧
      (∀ frame ∈ frames, frame.1.Draws grid frame.2 (frame.1.component grid frame.2)) ∧
      (grid.width < 0x80000000 → grid.height < 0x80000000 →
        ∀ style box, (style, box) ∈ frames ↔
          style ∈ FrameStyle.all ∧ style.Outlines grid box ∧ box.corner ∉ claimed) := by
  refine ⟨outlinesOn grid claimed, detect_eq grid claimed, pairwise_outlinesOn grid claimed,
    fun _ _ => mem_outlinesOn_iff, ?_, ?_⟩
  · intro frame member
    exact (mem_outlinesOn_iff.mp member).2.1.1.draws
  · intro narrow low style box
    rw [mem_outlinesOn_iff]
    constructor
    · rintro ⟨known, ⟨outlines, _⟩, free⟩
      exact ⟨known, outlines, free⟩
    · rintro ⟨known, outlines, free⟩
      exact ⟨known, ⟨outlines, outlines.scans narrow low⟩, free⟩

/-- Four corners, and a gap behind the upper ones. -/
def besideGap (gap : Nat) : Grid :=
  Grid.ofText "++\t\n++" (gap + 2)

theorem besideGap_eq {gap : Nat} (broad : 0 < gap) :
    besideGap gap = Grid.ofRows ['+' :: '+' :: List.replicate gap blank, ['+', '+']] := by
  have lines : Grid.linesOf "++\t\n++".toList = [['+', '+', '\t'], ['+', '+']] := by decide
  have stop : nextTabStop (gap + 2) 2 = gap + 2 := by
    rw [nextTabStop, Nat.max_eq_left (by omega), Nat.div_eq_of_lt (by omega), Nat.zero_add,
      Nat.one_mul]
  rw [besideGap, Grid.ofText_eq, lines]
  simp [Grid.expandTabs, stop]

theorem size_besideGap {gap : Nat} (broad : 0 < gap) :
    (besideGap gap).width = gap + 2 ∧ (besideGap gap).height = 2 := by
  have widest : Grid.widest ['+' :: '+' :: List.replicate gap blank, ['+', '+']] = gap + 2 := by
    simp [Grid.widest, Grid.largest]
  obtain ⟨width, height, _⟩ := Grid.ofRows_of_ne_zero (widest.trans_ne (by omega))
  rw [besideGap_eq broad]
  exact ⟨width.trans widest, height⟩

theorem outlines_besideGap {gap : Nat} (broad : 0 < gap) :
    FrameStyle.ascii.Outlines (besideGap gap) (Box.ofCorners 0 0 1 1) := by
  obtain ⟨width, height⟩ := size_besideGap broad
  have corner {x y : Coordinate}
      (near : (0 ≤ x.toInt ∧ x.toInt < 2) ∧ 0 ≤ y.toInt ∧ y.toInt < 2)
      (read : charIn ['+' :: '+' :: List.replicate gap blank, ['+', '+']]
        x.toInt.toNat y.toInt.toNat = '+') : (besideGap gap).get? x y = some '+' := by
    have holds : (besideGap gap).Holds x y := by
      rw [Grid.Holds, width, height]
      omega
    rw [Grid.get?_of_holds holds, besideGap_eq broad, Grid.charAt_ofRows, read]
  have between {low : Coordinate} (after : (0 : Coordinate) < low) :
      ¬low < (1 : Coordinate) := by
    rw [Int32.lt_iff_toInt_lt] at after ⊢
    simp only [Int32.toInt_zero, Int32.toInt_one] at after ⊢
    omega
  exact
    { wide := by decide
      high := by decide
      topLeft := corner (by decide) rfl
      topRight := corner (by decide) rfl
      bottomLeft := corner (by decide) rfl
      bottomRight := corner (by decide) rfl
      topEdge := fun _ after before => absurd before (between after)
      leftEdge := fun _ after before => absurd before (between after) }

/-- The low bits of a number of columns can be those of a negative number.  Then nothing is
scanned, so that a frame is missed. -/
theorem detect_frame_besideGap :
    FrameStyle.ascii ∈ FrameStyle.all ∧
      FrameStyle.ascii.Outlines (besideGap 0x7FFFFFFE) (Box.ofCorners 0 0 1 1) ∧
      frame.detect (besideGap 0x7FFFFFFE) SortedSet.empty = [] := by
  refine ⟨by decide, outlines_besideGap (by decide), ?_⟩
  have nowhere : ∀ corner, corner ∉ (besideGap 0x7FFFFFFE).points := by
    intro corner listed
    have columns := (Grid.mem_points_iff.mp listed).1
    rw [(size_besideGap (by decide)).1, Coordinate.mem_scanned_iff] at columns
    have none : Coordinate.scanEnd (0x7FFFFFFE + 2) = 0 := by decide
    omega
  rw [detect_eq, FrameStyle.outlinesOn, List.eq_nil_iff_forall_not_mem.mpr nowhere]
  rfl

end Detector

end ScreenSight
