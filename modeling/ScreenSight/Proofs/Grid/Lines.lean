import ScreenSight.Proofs.Grid.Views
import ScreenSight.Proofs.Ordered.Runs
import ScreenSight.Proofs.Ordered.Set

/-!
# The text of a set of cells

Each row of a grid makes a line of its own, from the cells of the set that stand in the row,
and the lines are put together from top to bottom.  Cells outside of the grid have no
character, so they never show.
-/

namespace ScreenSight

/-! ## White space at both ends -/

/-- What is left of a line without the white space at both ends. -/
structure Strips (line kept : List Char) : Prop where
  parts : ∃ front behind, line = front ++ (kept ++ behind) ∧
    ∀ c ∈ front ++ behind, Text.isBlank c = true
  beginning : ∀ first, kept.head? = some first → Text.isBlank first = false
  ending : ∀ last, kept.getLast? = some last → Text.isBlank last = false

theorem strips_dropBlankEnds (line : List Char) : Strips line (Text.dropBlankEnds line) := by
  obtain ⟨⟨behind, split, blankBehind⟩, ending⟩ :=
    trims_dropBlankEnd (line.dropWhile Text.isBlank)
  refine ⟨⟨line.takeWhile Text.isBlank, behind, ?_, ?_⟩, ?_, ending⟩
  · rw [Text.dropBlankEnds, ← split, List.takeWhile_append_dropWhile]
  · intro c member
    rcases List.mem_append.mp member with before | after
    · exact List.mem_takeWhile_imp before
    · exact blankBehind c after
  · intro first found
    have stops := List.head?_dropWhile_not Text.isBlank line
    rw [split, List.head?_append_of_ne_nil] at stops
    · rw [Text.dropBlankEnds] at found
      rwa [found] at stops
    · intro empty
      rw [Text.dropBlankEnds, empty] at found
      cases found

theorem dropBlankEnd_append {kept behind : List Char}
    (blank : ∀ c ∈ behind, Text.isBlank c = true) :
    Text.dropBlankEnd (kept ++ behind) = Text.dropBlankEnd kept := by
  rw [Text.dropBlankEnd, List.reverse_append, List.dropWhile_append_of_pos]
  · rfl
  · intro c member
    exact blank c (List.mem_reverse.mp member)

theorem dropBlankEnd_eq_self {kept : List Char}
    (ending : ∀ last, kept.getLast? = some last → Text.isBlank last = false) :
    Text.dropBlankEnd kept = kept := by
  change kept.rdropWhile Text.isBlank = kept
  rw [List.rdropWhile_eq_self_iff]
  intro filled
  rw [ending _ (List.getLast?_eq_some_getLast filled)]
  exact Bool.false_ne_true

/-- Nothing else is left of a line. -/
theorem Strips.eq_dropBlankEnds {line kept : List Char} (strips : Strips line kept) :
    kept = Text.dropBlankEnds line := by
  obtain ⟨⟨front, behind, rfl, blank⟩, beginning, ending⟩ := strips
  have blankFront (c : Char) (member : c ∈ front) : Text.isBlank c = true :=
    blank c (List.mem_append_left behind member)
  have blankBehind (c : Char) (member : c ∈ behind) : Text.isBlank c = true :=
    blank c (List.mem_append_right front member)
  rw [Text.dropBlankEnds, List.dropWhile_append_of_pos blankFront]
  cases kept with
  | nil =>
      rw [List.nil_append, List.dropWhile_eq_nil_iff.mpr blankBehind]
      rfl
  | cons first rest =>
      rw [List.cons_append, List.dropWhile_cons_of_neg (by simp [beginning first rfl]),
        ← List.cons_append, dropBlankEnd_append blankBehind, dropBlankEnd_eq_self ending]

theorem strips_iff {line kept : List Char} :
    Strips line kept ↔ kept = Text.dropBlankEnds line :=
  ⟨Strips.eq_dropBlankEnds, fun same => same ▸ strips_dropBlankEnds line⟩

namespace Grid

variable {grid : Grid} {points : SortedSet Point} {y : Coordinate}

/-! ## Rows of a set -/

/-- A line consists of the characters of the cells of a set in a row of a grid, from left to
right. -/
def ReadsRow (grid : Grid) (points : SortedSet Point) (y : Coordinate) (line : List Char) :
    Prop :=
  ∃ cells : List Point, cells.Pairwise (fun left right => left.x < right.x) ∧
    (∀ cell, cell ∈ cells ↔ cell ∈ points ∧ cell.y = y ∧ grid.Holds cell.x cell.y) ∧
    List.Forall₂ (fun cell c => grid.at? cell = some c) cells line

/-- The characters of the cells of a set in a row. -/
def rowAt (grid : Grid) (points : SortedSet Point) (y : Coordinate) : List Char :=
  (points.toList.filter fun point => point.y == y).filterMap grid.at?

/-- The cells of a set that belong to a grid. -/
def held (grid : Grid) (points : SortedSet Point) : SortedSet Point :=
  points.filter fun point => grid.contains point.x point.y

theorem mem_held_iff {point : Point} :
    point ∈ grid.held points ↔ point ∈ points ∧ grid.Holds point.x point.y := by
  rw [held, SortedSet.mem_filter, contains_iff_holds]

theorem at?_of_not_holds {point : Point} (outside : ¬grid.Holds point.x point.y) :
    grid.at? point = none := by
  rw [Option.eq_none_iff_forall_ne_some]
  intro c found
  exact outside (holds_of_get? found)

/-- Cells outside of the grid are passed over. -/
theorem filterMap_held {α : Type} {read : Point → Option α}
    (outside : ∀ point, ¬grid.Holds point.x point.y → read point = none) :
    (grid.held points).toList.filterMap read = points.toList.filterMap read := by
  change (points.toList.filter _).filterMap read = _
  rw [List.filterMap_filter]
  apply List.filterMap_congr
  intro point _
  split
  · rfl
  · next absent =>
      rw [contains_iff_holds] at absent
      exact (outside point absent).symm

/-- Where everything can be read, the values read are those of one list only. -/
theorem forall₂_eq_some_iff {α β : Type} {read : α → Option β} {items : List α} {values : List β}
    (readable : ∀ item ∈ items, ∃ value, read item = some value) :
    List.Forall₂ (fun item value => read item = some value) items values ↔
      values = items.filterMap read := by
  induction items generalizing values with
  | nil => exact List.forall₂_nil_left_iff
  | cons item rest induction =>
      obtain ⟨value, found⟩ := readable item List.mem_cons_self
      have readableRest : ∀ other ∈ rest, ∃ value, read other = some value :=
        fun other member => readable other (List.mem_cons_of_mem item member)
      rw [List.filterMap_cons_some found, List.forall₂_cons_left_iff]
      constructor
      · rintro ⟨first, others, same, reads, rfl⟩
        rw [(induction readableRest).mp reads, Option.some.inj (found.symm.trans same)]
      · rintro rfl
        exact ⟨value, _, found, (induction readableRest).mpr rfl, rfl⟩

theorem rowAt_held (grid : Grid) (points : SortedSet Point) (y : Coordinate) :
    grid.rowAt (grid.held points) y = grid.rowAt points y := by
  rw [rowAt, rowAt, List.filterMap_filter, List.filterMap_filter]
  apply filterMap_held
  intro point outside
  rw [at?_of_not_holds outside, ite_self]

/-- The cells of a set in a row, from left to right, are those of one list only. -/
theorem rowCells_iff (grid : Grid) (points : SortedSet Point) (y : Coordinate)
    {cells : List Point} :
    (cells.Pairwise (fun left right => left.x < right.x) ∧
        ∀ cell, cell ∈ cells ↔ cell ∈ points ∧ cell.y = y ∧ grid.Holds cell.x cell.y) ↔
      cells = (grid.held points).toList.filter fun point => point.y == y := by
  let row := (grid.held points).toList.filter fun point => point.y == y
  have inRow (cell : Point) :
      cell ∈ row ↔ cell ∈ points ∧ cell.y = y ∧ grid.Holds cell.x cell.y := by
    rw [List.mem_filter, ← SortedSet.mem_def, mem_held_iff, beq_iff_eq, and_assoc,
      and_comm (a := grid.Holds cell.x cell.y)]
  have increasing : row.Pairwise (· < ·) := (grid.held points).increasing.filter _
  constructor
  · rintro ⟨rightwards, inCells⟩
    have ordered : cells.Pairwise (· < ·) := by
      refine rightwards.imp_of_mem ?_
      intro left right leftMember rightMember before
      have leftRow := ((inCells left).mp leftMember).2.1
      have rightRow := ((inCells right).mp rightMember).2.1
      exact .inr ⟨leftRow.trans rightRow.symm, before⟩
    exact ordered.eq_of_mem_iff increasing fun cell => (inCells cell).trans (inRow cell).symm
  · rintro rfl
    refine ⟨?_, inRow⟩
    refine increasing.imp_of_mem ?_
    intro left right leftMember rightMember before
    have leftRow := ((inRow left).mp leftMember).2.1
    have rightRow := ((inRow right).mp rightMember).2.1
    rcases before with above | ⟨_, before⟩
    · rw [leftRow, rightRow] at above
      exact absurd above Int32.lt_irrefl
    · exact before

/-- A row of a set reads as one line. -/
theorem readsRow_iff {line : List Char} :
    grid.ReadsRow points y line ↔ line = grid.rowAt points y := by
  have readable : ∀ cell ∈ (grid.held points).toList.filter fun point => point.y == y,
      ∃ c, grid.at? cell = some c := by
    intro cell member
    have inGrid := (mem_held_iff.mp (List.mem_filter.mp member).1).2
    exact ⟨_, get?_of_holds inGrid⟩
  rw [← rowAt_held, rowAt, ← forall₂_eq_some_iff readable]
  constructor
  · rintro ⟨cells, rightwards, inCells, spelled⟩
    rwa [(rowCells_iff grid points y).mp ⟨rightwards, inCells⟩] at spelled
  · intro spelled
    obtain ⟨rightwards, inCells⟩ := (rowCells_iff grid points y).mpr rfl
    exact ⟨_, rightwards, inCells, spelled⟩

/-! ## Lines -/

/-- The text of a set is put together from its rows, of which there may be some that show
nothing. -/
theorem exists_rows_textAt (grid : Grid) (points : SortedSet Point) :
    ∃ rows : List Coordinate, rows.Pairwise (· < ·) ∧
      (∀ y, grid.rowAt points y ≠ [] → y ∈ rows) ∧
      grid.textAt points = Text.joinWith "\n"
        (((rows.map fun y => Text.dropBlankEnds (grid.rowAt points y)).filter
          fun line => !line.isEmpty).map String.ofList) := by
  let numbered (point : Point) : Option (Coordinate × Char) :=
    (grid.at? point).map fun c => (point.y, c)
  have sorted : (points.toList.filterMap numbered).Pairwise fun earlier later =>
      earlier.1 = later.1 ∨ earlier.1 < later.1 := by
    refine points.increasing.filterMap numbered ?_
    intro first second before earlier firstFound later secondFound
    obtain ⟨_, _, rfl⟩ := Option.map_eq_some_iff.mp firstFound
    obtain ⟨_, _, rfl⟩ := Option.map_eq_some_iff.mp secondFound
    rcases before with above | ⟨same, _⟩
    · exact .inr above
    · exact .inl same
  have run (y : Coordinate) :
      ((points.toList.filterMap numbered).filter fun item => item.1 == y).map Prod.snd =
        grid.rowAt points y := by
    rw [rowAt, List.filter_filterMap, List.map_filterMap, List.filterMap_filter]
    apply List.filterMap_congr
    intro point _
    simp only [numbered]
    cases grid.at? point with
    | none => simp
    | some c => by_cases same : point.y = y <;> simp [same]
  obtain ⟨rows, increasing, occurring, split⟩ := exists_splitBy_key sorted
  refine ⟨rows, increasing, ?_, ?_⟩
  · intro y filled
    rw [← run] at filled
    obtain ⟨item, member⟩ := List.exists_mem_of_ne_nil _ (mt List.map_eq_nil_iff.mpr filled)
    obtain ⟨listed, same⟩ := List.mem_filter.mp member
    exact (occurring y).mpr ⟨item, listed, eq_of_beq same⟩
  · rw [textAt]
    change Text.joinWith "\n"
      (((((points.toList.filterMap numbered).splitBy fun left right => left.1 == right.1).map
        fun line => Text.dropBlankEnds (line.map Prod.snd)).filter
          fun line => !line.isEmpty).map String.ofList) = _
    rw [split, List.map_map]
    simp only [Function.comp_def, run]

/-- Sets with the same cells of a grid have the same text there. -/
theorem textAt_congr {other : SortedSet Point}
    (same : ∀ point, grid.Holds point.x point.y → (point ∈ points ↔ point ∈ other)) :
    grid.textAt points = grid.textAt other := by
  have heldSame : grid.held points = grid.held other := by
    apply SortedSet.ext_mem
    intro point
    rw [mem_held_iff, mem_held_iff]
    exact and_congr_left (same point)
  have found (set : SortedSet Point) :
      ((grid.held set).toList.filterMap fun point => (grid.at? point).map fun c => (point.y, c)) =
        set.toList.filterMap fun point => (grid.at? point).map fun c => (point.y, c) := by
    apply filterMap_held
    intro point outside
    rw [at?_of_not_holds outside, Option.map_none]
  rw [textAt, textAt, ← found points, ← found other, heldSame]

/-- The text of a set of cells has a line for each row that has something to show: what is left
of the characters of its cells, from left to right, without the white space at both ends.
The lines stand in the order of the rows, and there are no others.  Whatever is in the set
outside of the grid makes no difference. -/
theorem textAt_lines (grid : Grid) (points : SortedSet Point) :
    (∃ lines : List (Coordinate × List Char),
      grid.textAt points = Text.joinWith "\n" (lines.map fun line => String.ofList line.2) ∧
      lines.Pairwise (fun upper lower => upper.1 < lower.1) ∧
      ∀ y kept, (y, kept) ∈ lines ↔
        kept ≠ [] ∧ ∃ line, grid.ReadsRow points y line ∧ Strips line kept) ∧
    ∀ other, (∀ point, grid.Holds point.x point.y → (point ∈ points ↔ point ∈ other)) →
      grid.textAt points = grid.textAt other := by
  refine ⟨?_, fun _ => textAt_congr⟩
  obtain ⟨rows, increasing, filled, text⟩ := exists_rows_textAt grid points
  let stripped (y : Coordinate) : List Char := Text.dropBlankEnds (grid.rowAt points y)
  refine ⟨(rows.map fun y => (y, stripped y)).filter fun line => !line.2.isEmpty, ?_, ?_, ?_⟩
  · rw [text, List.filter_map, List.filter_map, List.map_map, List.map_map]
    rfl
  · refine List.Pairwise.filter _ ?_
    exact List.pairwise_map.mpr increasing
  · intro y kept
    simp only [readsRow_iff, strips_iff, exists_eq_left, List.mem_filter, List.mem_map,
      Prod.mk.injEq, Bool.not_eq_true', List.isEmpty_eq_false_iff]
    constructor
    · rintro ⟨⟨_, _, rfl, rfl⟩, shown⟩
      exact ⟨shown, rfl⟩
    · rintro ⟨shown, rfl⟩
      refine ⟨⟨y, filled y ?_, rfl, rfl⟩, shown⟩
      intro empty
      rw [empty] at shown
      exact shown rfl

/-- The row of blanks between the others shows nothing, and neither do the cells outside. -/
example :
    (ofRows ["[ OK ]".toList, [], "[X] Go".toList]).textAt (SortedSet.ofList
      [⟨2, 0⟩, ⟨3, 0⟩, ⟨1, 1⟩, ⟨1, 2⟩, ⟨-1, 0⟩, ⟨0, 3⟩]) = "OK\nX" := by
  decide +kernel

end Grid

end ScreenSight
