import ScreenSight.Proofs.Spatial.Refinement

/-!
# What a query for a region finds

A query for a region looks at whole buckets.  So it finds the boxes that overlap the region
once both have been pulled into the area and rounded to buckets, and every box that shares a
cell with the region is among them, wherever in the plane that cell lies.
-/

namespace ScreenSight

namespace BucketLayout

/-- Two boxes overlap along both axes after they have been pulled into the area and their
edges have been rounded down to buckets. -/
def Meets (layout : BucketLayout) (first second : Box) : Prop :=
  ∃ firstPulled secondPulled,
    first.clampTo layout.width layout.height = some firstPulled ∧
    second.clampTo layout.width layout.height = some secondPulled ∧
    (firstPulled.left.toInt / layout.cellSize ≤ secondPulled.right.toInt / layout.cellSize ∧
      secondPulled.left.toInt / layout.cellSize ≤ firstPulled.right.toInt / layout.cellSize) ∧
    firstPulled.top.toInt / layout.cellSize ≤ secondPulled.bottom.toInt / layout.cellSize ∧
      secondPulled.top.toInt / layout.cellSize ≤ firstPulled.bottom.toInt / layout.cellSize

variable {layout : BucketLayout} {first second : Box}

/-- Nothing meets in an area without cells. -/
theorem Meets.celled (meets : layout.Meets first second) :
    0 < layout.width ∧ 0 < layout.height := by
  obtain ⟨_, _, pulled, _⟩ := meets
  rw [Box.clampTo] at pulled
  split at pulled
  · cases pulled
  · omega

theorem meets_iff (celled : 0 < layout.width ∧ 0 < layout.height) :
    layout.Meets first second ↔
      (layout.bucketAlong layout.width first.left.toInt ≤
          layout.bucketAlong layout.width second.right.toInt ∧
        layout.bucketAlong layout.width second.left.toInt ≤
          layout.bucketAlong layout.width first.right.toInt) ∧
      layout.bucketAlong layout.height first.top.toInt ≤
          layout.bucketAlong layout.height second.bottom.toInt ∧
        layout.bucketAlong layout.height second.top.toInt ≤
          layout.bucketAlong layout.height first.bottom.toInt := by
  obtain ⟨firstPulled, firstFound, firstLeft, firstRight, firstTop, firstBottom⟩ :=
    first.exists_clampTo celled.1 celled.2
  obtain ⟨secondPulled, secondFound, secondLeft, secondRight, secondTop, secondBottom⟩ :=
    second.exists_clampTo celled.1 celled.2
  simp only [bucketAlong, ← firstLeft, ← firstRight, ← firstTop, ← firstBottom, ← secondLeft,
    ← secondRight, ← secondTop, ← secondBottom]
  constructor
  · intro meets
    obtain ⟨_, _, firstSame, secondSame, overlap⟩ := meets
    obtain rfl := Option.some.inj (firstFound.symm.trans firstSame)
    obtain rfl := Option.some.inj (secondFound.symm.trans secondSame)
    exact overlap
  · intro overlap
    exact ⟨firstPulled, secondPulled, firstFound, secondFound, overlap⟩

/-- Along an axis two ranges that overlap in buckets have one in common. -/
theorem exists_common {extent : Nat} (positive : 0 < extent) {left right otherLeft otherRight : Int}
    (ordered : left ≤ right) (otherOrdered : otherLeft ≤ otherRight)
    (meeting : layout.bucketAlong extent left ≤ layout.bucketAlong extent otherRight ∧
      layout.bucketAlong extent otherLeft ≤ layout.bucketAlong extent right) :
    ∃ place : Nat, place < layout.bucketsFor extent ∧
      (layout.bucketAlong extent left ≤ place ∧ place ≤ layout.bucketAlong extent right) ∧
      layout.bucketAlong extent otherLeft ≤ place ∧
        place ≤ layout.bucketAlong extent otherRight := by
  have range := layout.bucketAlong_mono extent ordered
  have otherRange := layout.bucketAlong_mono extent otherOrdered
  have lower := layout.bucketAlong_nonneg positive left
  have upper := layout.bucketAlong_lt positive right
  refine ⟨(max (layout.bucketAlong extent left) (layout.bucketAlong extent otherLeft)).toNat, ?_⟩
  omega

/-- Two boxes share a bucket if and only if they meet. -/
theorem Exact.exists_covers_iff_meets (exact : layout.Exact) :
    (∃ bucket, layout.Covers first bucket ∧ layout.Covers second bucket) ↔
      layout.Meets first second := by
  constructor
  · intro shared
    obtain ⟨bucket, ⟨celled, firstColumns, firstRows⟩, _, secondColumns, secondRows⟩ := shared
    rw [meets_iff celled]
    omega
  · intro meets
    have celled := meets.celled
    obtain ⟨columnsMeet, rowsMeet⟩ := (meets_iff celled).mp meets
    obtain ⟨column, inside, firstColumn, secondColumn⟩ :=
      exists_common celled.1 first.left_toInt_le second.left_toInt_le columnsMeet
    obtain ⟨row, low, firstRow, secondRow⟩ :=
      exists_common celled.2 first.top_toInt_le second.top_toInt_le rowsMeet
    have columnEq : layout.index column row % layout.columns = column :=
      exact.index_mod inside low
    have rowEq : layout.index column row / layout.columns = row := exact.index_div inside low
    refine ⟨layout.index column row, ⟨celled, ?_⟩, celled, ?_⟩
    · rw [columnEq, rowEq]
      exact ⟨firstColumn, firstRow⟩
    · rw [columnEq, rowEq]
      exact ⟨secondColumn, secondRow⟩

end BucketLayout

namespace SpatialIndex

end SpatialIndex

end ScreenSight
