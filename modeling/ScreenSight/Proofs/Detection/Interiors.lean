import ScreenSight.Proofs.Detection.Frames

/-!
# What lies inside a frame

The inside of a frame is recorded as the set of the cells off its edge.  A frame of two rows
or two columns has none, and an empty set counts as one that was not recorded.  What is read
in its place is the part of the edge that is not drawn, which is the title and the gaps.
-/

namespace ScreenSight

namespace Box

/-- A cell lies in a box and not on its edge. -/
def Inside (box : Box) (cell : Point) : Prop :=
  (box.left < cell.x ∧ cell.x < box.right) ∧ box.top < cell.y ∧ cell.y < box.bottom

instance (box : Box) (cell : Point) : Decidable (box.Inside cell) :=
  inferInstanceAs (Decidable (_ ∧ _))

/-- A box has more than two rows and columns. -/
def IsRoomy (box : Box) : Prop :=
  2 < box.width ∧ 2 < box.height

instance (box : Box) : Decidable box.IsRoomy :=
  inferInstanceAs (Decidable (_ ∧ _))

/-- The cells of a box that are not on its edge. -/
def insideCells (box : Box) : CellSet :=
  SortedSet.ofList (box.cells.filter fun cell => !box.onPerimeter cell)

variable {box : Box}

theorem mem_insideCells_iff {cell : Point} : cell ∈ box.insideCells ↔ box.Inside cell := by
  rw [Inside, ← mem_cells_and_not_onPerimeter_iff]
  simp [insideCells]

/-- Only boxes with more than two rows and columns have cells that are not on the edge. -/
theorem exists_inside_iff : (∃ cell, box.Inside cell) ↔ box.IsRoomy := by
  have columns := box.left_toInt_le
  have rows := box.top_toInt_le
  simp only [Inside, IsRoomy, width, height, Int32.lt_iff_toInt_lt]
  constructor
  · rintro ⟨cell, across, down⟩
    omega
  · intro roomy
    have right := box.right.toInt_lt
    have bottom := box.bottom.toInt_lt
    have left := box.left.le_toInt
    have top := box.top.le_toInt
    refine ⟨⟨Coordinate.saturate (box.left.toInt + 1),
      Coordinate.saturate (box.top.toInt + 1)⟩, ?_⟩
    simp only [Coordinate.toInt_saturate]
    omega

theorem Inside.isRoomy {cell : Point} (inside : box.Inside cell) : box.IsRoomy :=
  exists_inside_iff.mp ⟨cell, inside⟩

end Box

namespace Component

variable {component : Component} {box : Box}

theorem interiorCells_of_mem {cell : Point} (recorded : cell ∈ component.interior) :
    component.interiorCells = component.interior := by
  have nonempty : ¬component.interior.isEmpty = true := by
    intro empty
    rw [SortedSet.mem_def, List.isEmpty_iff.mp empty] at recorded
    cases recorded
  rw [interiorCells, if_neg nonempty]

theorem interiorCells_of_forall_not_mem (unrecorded : ∀ cell, cell ∉ component.interior)
    (boxed : component.effectiveBox = some box) :
    component.interiorCells = SortedSet.ofList
      (box.cells.filter fun cell => !component.boundaryCells.contains cell) := by
  have empty : component.interior.isEmpty = true :=
    List.isEmpty_iff.mpr (List.eq_nil_iff_forall_not_mem.mpr unrecorded)
  rw [interiorCells, if_pos empty, boxed]

end Component

namespace FrameStyle

variable {style : FrameStyle} {grid : Grid} {box : Box}

/-- Whether a cell shows a glyph of a style. -/
def isDrawn (style : FrameStyle) (grid : Grid) (cell : Point) : Bool :=
  (grid.at? cell).any style.isGlyph

/-- The cells of a box that show no glyph of a style. -/
def undrawnCells (style : FrameStyle) (grid : Grid) (box : Box) : CellSet :=
  SortedSet.ofList (box.cells.filter fun cell => !style.isDrawn grid cell)

theorem mem_undrawnCells_iff {cell : Point} :
    cell ∈ style.undrawnCells grid box ↔ cell ∈ box.cells ∧ ¬style.isDrawn grid cell = true := by
  simp [undrawnCells]

theorem mem_boundary_iff_isDrawn {cell : Point} :
    cell ∈ (style.component grid box).boundary ↔
      (cell ∈ box.cells ∧ box.onPerimeter cell = true) ∧ style.isDrawn grid cell = true := by
  rw [mem_boundary_component_iff, Box.mem_perimeter_iff, Box.mem_cells_iff, isDrawn,
    Option.any_eq_true]

/-- What is read as the inside of a frame: the cells off its edge, and where there are none,
those that are not drawn. -/
theorem Outlines.interiorCells_component (outlines : style.Outlines grid box) :
    (style.component grid box).interiorCells =
      if box.IsRoomy then box.insideCells else style.undrawnCells grid box := by
  by_cases roomy : box.IsRoomy
  · obtain ⟨cell, inside⟩ := Box.exists_inside_iff.mpr roomy
    have recorded : cell ∈ (style.component grid box).interior :=
      Box.mem_insideCells_iff.mpr inside
    rw [if_pos roomy, Component.interiorCells_of_mem recorded]
    rfl
  · have nothing (cell : Point) : ¬box.Inside cell := fun inside => roomy inside.isRoomy
    have unrecorded (cell : Point) : cell ∉ (style.component grid box).interior :=
      fun listed => nothing cell (Box.mem_insideCells_iff.mp listed)
    have corner := outlines.corner_mem_boundary box.left List.mem_cons_self box.top
      List.mem_cons_self
    rw [if_neg roomy, Component.interiorCells_of_forall_not_mem unrecorded rfl,
      boundaryCells_of_mem corner, undrawnCells]
    refine congrArg SortedSet.ofList (List.filter_congr ?_)
    intro cell listed
    -- every cell lies on the edge, so only what is drawn is left out
    have edge : box.onPerimeter cell = true := by
      by_contra off
      exact nothing cell (Box.mem_cells_and_not_onPerimeter_iff.mp ⟨listed, off⟩)
    have drawn : (style.component grid box).boundary.contains cell = style.isDrawn grid cell := by
      rw [Bool.eq_iff_iff, SortedSet.contains_iff, mem_boundary_iff_isDrawn]
      simp [listed, edge]
    rw [drawn]

/-- The cells off the edge of a frame are what is read as its inside, unless a frame of two rows
or columns has a title or gaps. -/
theorem Outlines.interiorCells_inside_iff (outlines : style.Outlines grid box) :
    (∀ cell, cell ∈ (style.component grid box).interiorCells ↔ box.Inside cell) ↔
      box.IsRoomy ∨ ∀ cell ∈ box.cells, style.isDrawn grid cell = true := by
  rw [outlines.interiorCells_component]
  by_cases roomy : box.IsRoomy
  · simp [roomy, Box.mem_insideCells_iff]
  · have nothing (cell : Point) : ¬box.Inside cell := fun inside => roomy inside.isRoomy
    simp [roomy, nothing, mem_undrawnCells_iff]

end FrameStyle

namespace Detector

variable {grid : Grid} {claimed : CellSet}

theorem mem_detect_frame_iff {detected : Detected} :
    detected ∈ Detector.frame.detect grid claimed ↔
      ∃ style ∈ FrameStyle.all, ∃ box, (style.Outlines grid box ∧ grid.Scans box) ∧
        box.corner ∉ claimed ∧ detected = ⟨style.component grid box, .high⟩ := by
  simp only [FrameStyle.detect_eq, List.mem_map, Prod.exists, FrameStyle.mem_outlinesOn_iff]
  constructor
  · rintro ⟨style, box, ⟨known, outlines, free⟩, rfl⟩
    exact ⟨style, known, box, outlines, free, rfl⟩
  · rintro ⟨style, known, box, outlines, free, rfl⟩
    exact ⟨style, box, ⟨known, outlines, free⟩, rfl⟩

/-- What is read as the inside of a frame, and so its text, are the cells off its edge if the
frame has more than two rows and columns, and otherwise the cells that are not drawn.  So it
is the inside of the frame unless a frame of two rows or columns has a title or gaps. -/
theorem interiorCells_frame {detected : Detected}
    (found : detected ∈ Detector.frame.detect grid claimed) :
    ∃ style ∈ FrameStyle.all, ∃ box,
      detected.component.effectiveBox = some box ∧ style.Outlines grid box ∧
      detected.component.interiorCells =
        (if box.IsRoomy then box.insideCells else style.undrawnCells grid box) ∧
      (grid.view detected.component).text =
        grid.textAt (if box.IsRoomy then box.insideCells else style.undrawnCells grid box) ∧
      ((∀ cell, cell ∈ detected.component.interiorCells ↔ box.Inside cell) ↔
        box.IsRoomy ∨ ∀ cell ∈ box.cells, style.isDrawn grid cell = true) := by
  obtain ⟨style, known, box, ⟨outlines, _⟩, _, rfl⟩ := mem_detect_frame_iff.mp found
  have cells := outlines.interiorCells_component
  refine ⟨style, known, box, rfl, outlines, cells, ?_, outlines.interiorCells_inside_iff⟩
  rw [Grid.view, cells]

/-- A captioned frame without an inside, and one with two cells in it. -/
def captioned : Grid :=
  Grid.ofText "┌ab┐ ┌ab┐\n└──┘ │cd│\n     └──┘" 1

theorem detect_captioned :
    ∃ flat roomy, Detector.frame.detect captioned SortedSet.empty = [flat, roomy] ∧
      (flat.component.effectiveBox = some (Box.ofCorners 0 0 3 1) ∧
        flat.component.interiorCells.toList = [⟨1, 0⟩, ⟨2, 0⟩] ∧
        (captioned.view flat.component).text = "ab") ∧
      roomy.component.effectiveBox = some (Box.ofCorners 5 0 8 2) ∧
        roomy.component.interiorCells.toList = [⟨6, 1⟩, ⟨7, 1⟩] ∧
        (captioned.view roomy.component).text = "cd" := by
  have shown : (Detector.frame.detect captioned SortedSet.empty).map (fun detected =>
      (detected.component.effectiveBox, detected.component.interiorCells.toList,
        (captioned.view detected.component).text)) =
      [(some (Box.ofCorners 0 0 3 1), [⟨1, 0⟩, ⟨2, 0⟩], "ab"),
        (some (Box.ofCorners 5 0 8 2), [⟨6, 1⟩, ⟨7, 1⟩], "cd")] := by
    decide +kernel
  obtain ⟨flat, rest, listed, flatShown, restShown⟩ := List.map_eq_cons_iff.mp shown
  obtain ⟨roomy, nothing, rfl, roomyShown, nothingShown⟩ := List.map_eq_cons_iff.mp restShown
  obtain rfl := List.map_eq_nil_iff.mp nothingShown
  simp only [Prod.mk.injEq] at flatShown roomyShown
  exact ⟨flat, roomy, listed, flatShown, roomyShown⟩

theorem interiorCells_frame_captioned :
    ∃ flat ∈ Detector.frame.detect captioned SortedSet.empty,
      ∃ roomy ∈ Detector.frame.detect captioned SortedSet.empty,
        (captioned.view flat.component).text = "ab" ∧
        (captioned.view roomy.component).text = "cd" ∧
        (∃ box, flat.component.effectiveBox = some box ∧ ¬box.IsRoomy ∧
          ¬∀ cell, cell ∈ flat.component.interiorCells ↔ box.Inside cell) ∧
        ∃ box, roomy.component.effectiveBox = some box ∧ box.IsRoomy ∧
          ∀ cell, cell ∈ roomy.component.interiorCells ↔ box.Inside cell := by
  obtain ⟨flat, roomy, listed, ⟨flatBox, _, flatText⟩, roomyBox, _, roomyText⟩ :=
    detect_captioned
  have flatFound : flat ∈ Detector.frame.detect captioned SortedSet.empty := by simp [listed]
  have roomyFound : roomy ∈ Detector.frame.detect captioned SortedSet.empty := by simp [listed]
  refine ⟨flat, flatFound, roomy, roomyFound, flatText, roomyText, ?_, ?_⟩
  · obtain ⟨style, known, box, boxed, _, _, _, exact⟩ := interiorCells_frame flatFound
    obtain rfl := Option.some.inj (flatBox.symm.trans boxed)
    refine ⟨_, flatBox, by decide, ?_⟩
    have undrawn : ∀ style ∈ FrameStyle.all, ¬style.isDrawn captioned ⟨1, 0⟩ = true := by
      decide +kernel
    rw [exact]
    rintro (roomy | drawn)
    · exact absurd roomy (by decide)
    · exact undrawn style known (drawn ⟨1, 0⟩ (by decide))
  · obtain ⟨style, known, box, boxed, _, _, _, exact⟩ := interiorCells_frame roomyFound
    obtain rfl := Option.some.inj (roomyBox.symm.trans boxed)
    exact ⟨_, roomyBox, by decide, exact.mpr (.inl (by decide))⟩

/-- The caption of a frame without an inside is read as its inside. -/
theorem interiorCells_not_inside :
    ¬∀ (grid : Grid) (claimed : CellSet), ∀ detected ∈ Detector.frame.detect grid claimed,
      ∀ box, detected.component.effectiveBox = some box →
        ∀ cell, cell ∈ detected.component.interiorCells ↔ box.Inside cell := by
  intro always
  obtain ⟨flat, roomy, listed, ⟨boxed, cells, _⟩, _⟩ := detect_captioned
  have found : flat ∈ Detector.frame.detect captioned SortedSet.empty := by simp [listed]
  have caption : ⟨1, 0⟩ ∈ flat.component.interiorCells := by
    rw [SortedSet.mem_def, cells]
    exact List.mem_cons_self
  have inside := (always captioned SortedSet.empty flat found _ boxed ⟨1, 0⟩).mp caption
  exact absurd inside (by decide)

end Detector

end ScreenSight
