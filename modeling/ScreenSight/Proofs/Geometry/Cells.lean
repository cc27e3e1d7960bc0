import ScreenSight.Proofs.Geometry.Box

/-!
# Cells of boxes

The cells of a box are the points in it, in reading order, and its perimeter are those
on one of its edges.  Ranges of coordinates are increasing.
-/

namespace ScreenSight

namespace Coordinate

theorem pairwise_below (count : Nat) : (below count).Pairwise (· < ·) := by
  refine List.pairwise_map.mpr (List.pairwise_lt_range.imp_of_mem ?_)
  intro left right leftListed rightListed before
  rw [List.mem_range] at leftListed rightListed
  have leftExact : (Int32.ofInt left).toInt = left :=
    Int32.toInt_ofInt_of_le (by omega) (by omega)
  have rightExact : (Int32.ofInt right).toInt = right :=
    Int32.toInt_ofInt_of_le (by omega) (by omega)
  rw [Int32.lt_iff_toInt_lt, leftExact, rightExact]
  omega

theorem pairwise_scanned (extent : Nat) : (scanned extent).Pairwise (· < ·) :=
  pairwise_below (scanEnd extent)

theorem mem_upTo_iff {first last value : Coordinate} :
    value ∈ upTo first last ↔
      first.toInt ≤ value.toInt ∧ value.toInt ≤ last.toInt := by
  have lower := first.le_toInt
  have upper := last.toInt_lt
  simp only [upTo, List.mem_map, List.mem_range]
  constructor
  · intro counted
    obtain ⟨offset, small, rfl⟩ := counted
    have exact : (Int32.ofInt (first.toInt + offset)).toInt = first.toInt + offset :=
      Int32.toInt_ofInt_of_le (by omega) (by omega)
    omega
  · intro between
    obtain ⟨notBefore, notBehind⟩ := between
    have reached : first.toInt + ((value.toInt - first.toInt).toNat : Int) = value.toInt := by
      omega
    exact ⟨(value.toInt - first.toInt).toNat, by omega, by rw [reached, Int32.ofInt_toInt]⟩

theorem length_upTo (first last : Coordinate) :
    (upTo first last).length = (last.toInt + 1 - first.toInt).toNat := by
  simp [upTo]

theorem toInt_getElem_upTo {first last : Coordinate} {place : Nat}
    (inside : place < (upTo first last).length) :
    (upTo first last)[place].toInt = first.toInt + place := by
  have lower := first.le_toInt
  have upper := last.toInt_lt
  have bound : place < (last.toInt + 1 - first.toInt).toNat := by
    rwa [length_upTo] at inside
  simp only [upTo, List.getElem_map, List.getElem_range]
  exact Int32.toInt_ofInt_of_le (by omega) (by omega)

theorem exists_getElem?_upTo (first last : Coordinate) (place : Nat)
    (inside : first.toInt + place ≤ last.toInt) :
    ∃ value, (upTo first last)[place]? = some value ∧ value.toInt = first.toInt + place := by
  have listed : place < (upTo first last).length := by
    rw [length_upTo]
    omega
  exact ⟨_, List.getElem?_eq_getElem listed, toInt_getElem_upTo listed⟩

theorem pairwise_upTo (first last : Coordinate) : (upTo first last).Pairwise (· < ·) := by
  rw [List.pairwise_iff_getElem]
  intro left right leftListed rightListed before
  rw [Int32.lt_iff_toInt_lt, toInt_getElem_upTo leftListed, toInt_getElem_upTo rightListed]
  omega

end Coordinate

namespace Point

instance : Std.Trichotomous (α := Point) (· < ·) where
  trichotomous left right notBefore notAfter := by
    obtain ⟨leftX, leftY⟩ := left
    obtain ⟨rightX, rightY⟩ := right
    simp only [lt_def, Int32.lt_iff_toInt_lt, ← Int32.toInt_inj, mk.injEq] at notBefore notAfter ⊢
    omega

instance : Std.Asymm (α := Point) (· < ·) where
  asymm left _ before after := lt_irrefl left (lt_trans before after)

end Point

namespace Box

theorem mem_cells_iff {box : Box} {point : Point} :
    point ∈ box.cells ↔ box.containsPoint point = true := by
  obtain ⟨x, y⟩ := point
  simp only [cells, List.mem_flatMap, List.mem_map, Coordinate.mem_upTo_iff, Point.mk.injEq,
    containsPoint_iff]
  constructor
  · intro listed
    obtain ⟨_, rows, _, columns, rfl, rfl⟩ := listed
    exact ⟨columns, rows⟩
  · intro inside
    obtain ⟨columns, rows⟩ := inside
    exact ⟨y, rows, x, columns, rfl, rfl⟩

/-- The cells come in reading order. -/
theorem pairwise_cells (box : Box) : box.cells.Pairwise (· < ·) := by
  rw [cells, List.pairwise_flatMap]
  constructor
  · intro y _
    refine List.pairwise_map.mpr ((Coordinate.pairwise_upTo box.left box.right).imp ?_)
    intro left right before
    exact .inr ⟨rfl, before⟩
  · refine (Coordinate.pairwise_upTo box.top box.bottom).imp ?_
    intro upper lower above cell inUpper other inLower
    obtain ⟨_, _, rfl⟩ := List.mem_map.mp inUpper
    obtain ⟨_, _, rfl⟩ := List.mem_map.mp inLower
    exact .inl above

theorem mem_perimeter_iff {box : Box} {point : Point} :
    point ∈ box.perimeter ↔ box.containsPoint point = true ∧ box.onPerimeter point = true := by
  rw [perimeter, List.mem_filter, mem_cells_iff]

/-- The cells off the perimeter lie strictly inside. -/
theorem mem_cells_and_not_onPerimeter_iff {box : Box} {point : Point} :
    point ∈ box.cells ∧ ¬box.onPerimeter point = true ↔
      (box.left < point.x ∧ point.x < box.right) ∧ box.top < point.y ∧ point.y < box.bottom := by
  simp only [mem_cells_iff, containsPoint_iff, onPerimeter, Bool.or_eq_true, beq_iff_eq,
    ← Int32.toInt_inj, Int32.lt_iff_toInt_lt]
  omega

/-- The corners of a box that was given by ordered corners are kept. -/
theorem ofCorners_of_le {x1 y1 x2 y2 : Coordinate} (columns : x1 ≤ x2) (rows : y1 ≤ y2) :
    ofCorners x1 y1 x2 y2 = ⟨x1, y1, x2, y2, columns, rows⟩ := by
  rw [Int32.le_iff_toInt_le] at columns rows
  simp only [ofCorners, mk.injEq, ← Int32.toInt_inj, Coordinate.toInt_min, Coordinate.toInt_max]
  omega

end Box

end ScreenSight
