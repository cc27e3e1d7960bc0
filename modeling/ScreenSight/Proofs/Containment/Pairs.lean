import Mathlib.Data.List.Induction
import Mathlib.Data.List.Sort
import Std.Data.String.ToNat
import ScreenSight.Containment.Hierarchy
import ScreenSight.Proofs.Containment.Placement
import ScreenSight.Proofs.Ordered.Sorting
import ScreenSight.Proofs.Spatial.Index

/-!
# Nested pairs by exhaustive search

The spatial index is only a shortcut.  Whatever the size of its buckets, the
pairs that it leads to are those of a search that compares each box with every
other one, in the same order.
-/

namespace ScreenSight.Containment

/-- The nested pairs of a container, by comparison with every box. -/
def searchAround (boxed : List (Nat × Box)) (outer : Nat × Box) : List (Nat × Nat) :=
  (boxed.filter fun inner =>
    inner.1 != outer.1 && outer.2.strictlyContains inner.2 margin).map fun inner =>
      (outer.1, inner.1)

/-- The nested pairs of some components by exhaustive search: the containers by
falling area, and what they contain by position. -/
def searchPairs (components : List Component) : List (Nat × Nat) :=
  (byArea (boxedPositions components)).flatMap
    (searchAround (boxedPositions components))

theorem mem_boxedPositions_iff {components : List Component} {position : Nat} {box : Box} :
    (position, box) ∈ boxedPositions components ↔ boxAt? components position = some box := by
  simp only [boxedPositions, boxAt?, List.mem_filterMap, Option.map_eq_some_iff,
    Option.bind_eq_some_iff, Prod.mk.injEq]
  constructor
  · rintro ⟨⟨component, place⟩, member, found, boxed, rfl, rfl⟩
    exact ⟨component, List.mk_mem_zipIdx_iff_getElem?.mp member, boxed⟩
  · rintro ⟨component, present, boxed⟩
    exact ⟨(component, position), List.mk_mem_zipIdx_iff_getElem?.mpr present, box, boxed,
      rfl, rfl⟩

theorem boxedPositions_increasing (components : List Component) :
    (boxedPositions components).Pairwise fun left right => left.1 < right.1 := by
  have places : (components.zipIdx.map Prod.snd).Pairwise (· < ·) := by
    rw [List.zipIdx_map_snd]
    exact List.pairwise_lt_range'
  refine List.Pairwise.filterMap _ ?_ (List.pairwise_map.mp places)
  rintro ⟨left, leftPlace⟩ ⟨right, rightPlace⟩ before first firstEq second secondEq
  obtain ⟨_, _, rfl⟩ := Option.map_eq_some_iff.mp firstEq
  obtain ⟨_, _, rfl⟩ := Option.map_eq_some_iff.mp secondEq
  exact before

theorem keyOf_injective {left right : Nat} (same : keyOf left = keyOf right) :
    left = right :=
  Nat.repr_injective same

section

variable (frame : Frame) (cellSize : Nat) (positive : 0 < cellSize)

theorem indexOf_append (boxed : List (Nat × Box)) (position : Nat) (box : Box) :
    indexOf frame cellSize positive (boxed ++ [(position, box)]) =
      (indexOf frame cellSize positive boxed).insert (keyOf position) (frame.place box) := by
  rw [indexOf, List.foldl_append]
  rfl

theorem layout_indexOf (boxed : List (Nat × Box)) :
    (indexOf frame cellSize positive boxed).layout = frame.layout cellSize positive := by
  induction boxed using List.reverseRecOn with
  | nil => rfl
  | append_singleton boxed last induction =>
      rw [indexOf_append, SpatialIndex.layout_insert, induction]

theorem consistent_indexOf (bounded : frame.Bounded) (boxed : List (Nat × Box)) :
    (indexOf frame cellSize positive boxed).Consistent := by
  induction boxed using List.reverseRecOn with
  | nil => exact SpatialIndex.consistent_empty bounded.exact
  | append_singleton boxed last induction =>
      rw [indexOf_append]
      exact induction.insert _ _

/-- Each box is recorded under the key of its own position. -/
theorem box?_indexOf (bounded : frame.Bounded) {boxed : List (Nat × Box)}
    (increasing : boxed.Pairwise fun left right => left.1 < right.1)
    (position : Nat) (placed : Box) :
    (indexOf frame cellSize positive boxed).box? (keyOf position) = some placed ↔
      ∃ box, (position, box) ∈ boxed ∧ frame.place box = placed := by
  induction boxed using List.reverseRecOn with
  | nil => simp [indexOf]
  | append_singleton boxed last induction =>
      obtain ⟨lastPosition, lastBox⟩ := last
      obtain ⟨earlier, _, before⟩ := List.pairwise_append.mp increasing
      have celled : 0 < (indexOf frame cellSize positive boxed).layout.width ∧
          0 < (indexOf frame cellSize positive boxed).layout.height := by
        rw [layout_indexOf]
        exact bounded.celled
      rw [indexOf_append, SpatialIndex.box?_insert celled]
      by_cases same : position = lastPosition
      · subst position
        have absent (box : Box) : (lastPosition, box) ∉ boxed := by
          intro present
          exact Nat.lt_irrefl _ (before _ present (lastPosition, lastBox) (by simp))
        simp [absent]
      · have other : keyOf position ≠ keyOf lastPosition :=
          fun equal => same (keyOf_injective equal)
        rw [if_neg other, induction earlier]
        simp [same]

end

theorem positionsOf_append (boxed : List (Nat × Box)) (position : Nat) (box : Box) :
    positionsOf (boxed ++ [(position, box)]) =
      (positionsOf boxed).insert (keyOf position) position := by
  rw [positionsOf, List.map_append, SortedMap.ofList, List.foldl_append]
  rfl

/-- A key leads back to the position that it was made of. -/
theorem get?_positionsOf {boxed : List (Nat × Box)} {key : String} {position : Nat} :
    (positionsOf boxed).get? key = some position ↔
      key = keyOf position ∧ ∃ box, (position, box) ∈ boxed := by
  induction boxed using List.reverseRecOn with
  | nil => simp [positionsOf, SortedMap.ofList]
  | append_singleton boxed last induction =>
      obtain ⟨lastPosition, lastBox⟩ := last
      rw [positionsOf_append, SortedMap.get?_insert]
      by_cases same : key = keyOf lastPosition
      · rw [if_pos same, Option.some.injEq]
        constructor
        · rintro rfl
          exact ⟨same, lastBox, by simp⟩
        · rintro ⟨equal, _⟩
          exact keyOf_injective (same.symm.trans equal)
      · rw [if_neg same, induction]
        constructor
        · rintro ⟨equal, box, present⟩
          exact ⟨equal, box, List.mem_append_left _ present⟩
        · rintro ⟨rfl, box, present⟩
          have other : position ≠ lastPosition := fun equal => same (congrArg keyOf equal)
          have earlier : (position, box) ∈ boxed := by simpa [other] using present
          exact ⟨rfl, box, earlier⟩

theorem candidates_increasing (index : SpatialIndex String) (boxed : List (Nat × Box))
    (frame : Frame) (outer : Nat) (outerBox : Box) :
    (candidates index (positionsOf boxed) frame outer outerBox).Pairwise (· < ·) := by
  let placed := frame.place outerBox
  let found := index.inRegion placed.left placed.top placed.right placed.bottom
  let positions := (found.toList.filterMap (positionsOf boxed).get?).filter (· != outer)
  have injective (left right : String) (position : Nat)
      (leftFound : position ∈ (positionsOf boxed).get? left)
      (rightFound : position ∈ (positionsOf boxed).get? right) : left = right :=
    (get?_positionsOf.mp leftFound).1.trans (get?_positionsOf.mp rightFound).1.symm
  have distinct : positions.Nodup :=
    (found.increasing.nodup.filterMap injective).filter _
  have sorted : positions.mergeSort.Pairwise (· ≤ ·) :=
    List.pairwise_mergeSort' (· ≤ ·) positions
  have sortedDistinct : positions.mergeSort.Nodup :=
    (List.mergeSort_perm positions _).nodup_iff.mpr distinct
  exact (sorted.and sortedDistinct).imp fun both => Nat.lt_of_le_of_ne both.1 both.2

section

variable {frame : Frame} {cellSize : Nat} {positive : 0 < cellSize}
variable {boxed : List (Nat × Box)}

/-- The candidates around a box are the positions that share a bucket with it. -/
theorem mem_candidates_iff (bounded : frame.Bounded)
    (increasing : boxed.Pairwise fun left right => left.1 < right.1)
    {outer inner : Nat} {outerBox : Box} :
    inner ∈ candidates (indexOf frame cellSize positive boxed) (positionsOf boxed) frame
        outer outerBox ↔
      inner ≠ outer ∧ ∃ innerBox, (inner, innerBox) ∈ boxed ∧
        ∃ bucket, (frame.layout cellSize positive).Covers (frame.place innerBox) bucket ∧
          (frame.layout cellSize positive).Covers (frame.place outerBox) bucket := by
  have consistent := consistent_indexOf frame cellSize positive bounded boxed
  simp only [candidates, List.mem_mergeSort, List.mem_filter, List.mem_filterMap,
    bne_iff_ne, ← SortedSet.mem_def, consistent.mem_inRegion_iff, layout_indexOf,
    Box.ofCorners_self]
  constructor
  · rintro ⟨⟨key, ⟨box, found, bucket, covered⟩, lookup⟩, different⟩
    obtain ⟨rfl, _⟩ := get?_positionsOf.mp lookup
    obtain ⟨innerBox, present, rfl⟩ :=
      (box?_indexOf frame cellSize positive bounded increasing inner box).mp found
    exact ⟨different, innerBox, present, bucket, covered⟩
  · rintro ⟨different, innerBox, present, bucket, covered⟩
    exact ⟨⟨keyOf inner,
      ⟨frame.place innerBox,
        (box?_indexOf frame cellSize positive bounded increasing inner _).mpr
          ⟨innerBox, present, rfl⟩,
        bucket, covered⟩,
      get?_positionsOf.mpr ⟨rfl, innerBox, present⟩⟩, different⟩

/-- The index loses nothing that lies in a box. -/
theorem mem_candidates_of_strictlyContains (bounded : frame.Bounded)
    (increasing : boxed.Pairwise fun left right => left.1 < right.1)
    {outer inner : Nat} {outerBox innerBox : Box} (different : inner ≠ outer)
    (present : (inner, innerBox) ∈ boxed)
    (contained : outerBox.strictlyContains innerBox margin = true) :
    inner ∈ candidates (indexOf frame cellSize positive boxed) (positionsOf boxed) frame
      outer outerBox := by
  obtain ⟨bucket, outerCovers, innerCovers⟩ :=
    bounded.exact.exists_covers_of_intersects bounded.celled (frame.place_intersects contained)
  exact (mem_candidates_iff bounded increasing).mpr
    ⟨different, innerBox, present, bucket, innerCovers, outerCovers⟩

/-- The candidates that lie in a box are all the positions whose boxes do. -/
theorem mem_filter_candidates_iff {components : List Component} (bounded : frame.Bounded)
    (outer : Nat × Box) (inner : Nat) :
    let boxed := boxedPositions components
    inner ∈ (candidates (indexOf frame cellSize positive boxed) (positionsOf boxed) frame
        outer.1 outer.2).filter (isNestedIn components outer.2) ↔
      inner ≠ outer.1 ∧ ∃ innerBox, (inner, innerBox) ∈ boxed ∧
        outer.2.strictlyContains innerBox margin = true := by
  intro boxed
  have increasing := boxedPositions_increasing components
  rw [List.mem_filter]
  constructor
  · rintro ⟨candidate, nested⟩
    obtain ⟨different, innerBox, present, _⟩ :=
      (mem_candidates_iff bounded increasing).mp candidate
    rw [isNestedIn, mem_boxedPositions_iff.mp present] at nested
    exact ⟨different, innerBox, present, nested⟩
  · rintro ⟨different, innerBox, present, contained⟩
    have candidate : inner ∈ candidates (indexOf frame cellSize positive boxed)
        (positionsOf boxed) frame outer.1 outer.2 :=
      mem_candidates_of_strictlyContains bounded increasing different present contained
    refine ⟨candidate, ?_⟩
    rw [isNestedIn, mem_boxedPositions_iff.mp present]
    exact contained

/-- The candidates that lie in a box are what the search finds around it. -/
theorem map_filter_candidates {components : List Component} (bounded : frame.Bounded)
    (outer : Nat × Box) :
    let boxed := boxedPositions components
    ((candidates (indexOf frame cellSize positive boxed) (positionsOf boxed) frame
        outer.1 outer.2).filter (isNestedIn components outer.2)).map
      (fun inner => (outer.1, inner)) = searchAround boxed outer := by
  intro boxed
  have increasing := boxedPositions_increasing components
  let nested := boxed.filter fun inner =>
    inner.1 != outer.1 && outer.2.strictlyContains inner.2 margin
  -- both lists of positions increase, so equal members make them equal
  have found := (candidates_increasing (indexOf frame cellSize positive boxed) boxed frame
    outer.1 outer.2).filter (isNestedIn components outer.2)
  have searched : (nested.map Prod.fst).Pairwise (· < ·) :=
    List.pairwise_map.mpr (increasing.filter _)
  have samePositions := found.eq_of_mem_iff searched (by
    intro inner
    refine (mem_filter_candidates_iff bounded outer inner).trans ?_
    simp only [nested, List.mem_map, List.mem_filter, Bool.and_eq_true, bne_iff_ne,
      Prod.exists, exists_and_right, exists_eq_right]
    constructor
    · rintro ⟨different, innerBox, present, contained⟩
      exact ⟨innerBox, present, different, contained⟩
    · rintro ⟨innerBox, present, different, contained⟩
      exact ⟨different, innerBox, present, contained⟩)
  rw [samePositions, List.map_map]
  rfl

end

/-- Containers come by falling area, and equal areas by position. -/
theorem byArea_ordered {boxed : List (Nat × Box)}
    (increasing : boxed.Pairwise fun left right => left.1 < right.1) :
    (byArea boxed).Pairwise fun left right =>
      right.2.area < left.2.area ∨ left.2.area = right.2.area ∧ left.1 < right.1 := by
  refine (mergeSort_pairwise_place ?_ ?_ increasing).imp ?_
  · intro first second third
    simp only [decide_eq_true_eq]
    omega
  · intro left right
    simp only [Bool.or_eq_true, decide_eq_true_eq]
    omega
  · rintro left right ⟨falling, stable⟩
    simp only [decide_eq_true_eq] at falling stable
    omega

theorem pairs_eq_searchPairs (components : List Component) (cellSize : Nat)
    (positive : 0 < cellSize) :
    pairs components cellSize positive = searchPairs components := by
  let boxed := boxedPositions components
  have bounded := Frame.bounded_ofBoxes (boxed.map Prod.snd)
  exact List.flatMap_congr fun outer _ => map_filter_candidates bounded outer

end ScreenSight.Containment

namespace ScreenSight.ContainmentAnalyzer

open Containment

/-- The pairs of an analyzer are those of the exhaustive search, whatever the size of
its buckets.  The search goes through all boxed positions, with the containers by
falling area and otherwise by position, and the placement for the index never leaves
the words that it is computed in. -/
theorem pairs_exhaustive (analyzer : ContainmentAnalyzer) (model : Model) :
    let boxed := boxedPositions model.components
    analyzer.pairs model = searchPairs model.components ∧
      (∀ other : ContainmentAnalyzer, other.pairs model = analyzer.pairs model) ∧
      (∀ position box, (position, box) ∈ boxed ↔
        boxAt? model.components position = some box) ∧
      (boxed.Pairwise fun left right => left.1 < right.1) ∧
      (byArea boxed).Perm boxed ∧
      ((byArea boxed).Pairwise fun left right =>
        right.2.area < left.2.area ∨ left.2.area = right.2.area ∧ left.1 < right.1) ∧
      Axis.Exact (Frame.columnsOf (boxed.map Prod.snd)) ∧
      Axis.Exact (Frame.rowsOf (boxed.map Prod.snd)) := by
  intro boxed
  have increasing := boxedPositions_increasing model.components
  have searched (some : ContainmentAnalyzer) :
      some.pairs model = searchPairs model.components :=
    pairs_eq_searchPairs model.components some.cellSize some.cellSize_pos
  exact ⟨searched analyzer, fun other => (searched other).trans (searched analyzer).symm,
    fun _ _ => mem_boxedPositions_iff, increasing, List.mergeSort_perm boxed _,
    byArea_ordered increasing, Axis.exact _, Axis.exact _⟩

end ScreenSight.ContainmentAnalyzer
