import ScreenSight.Proofs.Geometry.Coordinate
import ScreenSight.Proofs.Ordered.Map
import ScreenSight.Proofs.Ordered.Set
import ScreenSight.Proofs.Spatial.Layout
import ScreenSight.Spatial.Index

/-!
# Consistency of the spatial index

An index stores every box twice: under its key, and by the buckets that know
the key.  It is consistent if it can count its buckets and the two agree.  Recording and removing keep it
consistent, because removing recomputes the rectangle that recording has used,
and on a consistent index the queries find what the recorded boxes say.
-/

namespace ScreenSight.SpatialIndex

section

variable {α : Type}

theorem getD_modify (change : α → α) (buckets : Array α) (index bucket : Nat)
    (missing : α) :
    (buckets.modify index change).getD bucket missing =
      if bucket = index ∧ bucket < buckets.size then
        change (buckets.getD bucket missing)
      else buckets.getD bucket missing := by
  rw [Array.getD_eq_getD_getElem?, Array.getD_eq_getD_getElem?, Array.getElem?_modify]
  by_cases same : index = bucket
  · subst index
    by_cases inside : bucket < buckets.size
    · simp [inside]
    · simp [inside]
  · simp [same, Ne.symm same]

/-- A change that has no further effect when it is repeated may meet the same
bucket more than once. -/
theorem getD_modifyBuckets {change : α → α}
    (stable : ∀ value, change (change value) = change value)
    (indices : List Nat) (buckets : Array α) (bucket : Nat) (missing : α) :
    (modifyBuckets change indices buckets).getD bucket missing =
      if bucket ∈ indices ∧ bucket < buckets.size then
        change (buckets.getD bucket missing)
      else buckets.getD bucket missing := by
  induction indices generalizing buckets with
  | nil => simp [modifyBuckets]
  | cons index rest induction =>
      have step := induction (buckets.modify index change)
      rw [Array.size_modify, getD_modify] at step
      rw [modifyBuckets, List.foldl_cons]
      refine step.trans ?_
      by_cases here : bucket = index
      · by_cases inside : bucket < buckets.size
        · simp [here ▸ inside, here, stable]
        · simp [inside]
      · simp [here]

end

section

variable {κ : Type} [LT κ]

theorem keysIn_empty (layout : BucketLayout) (bucket : Nat) :
    (empty layout : SpatialIndex κ).keysIn bucket = SortedSet.empty := by
  rw [keysIn, empty, Array.getD_eq_getD_getElem?, Array.getElem?_replicate]
  split <;> rfl

theorem mem_bucketsOf_iff {index : SpatialIndex κ} (exact : index.layout.Exact) {box : Box}
    {bucket : Nat} : bucket ∈ index.bucketsOf box ↔ index.layout.Covers box bucket := by
  unfold bucketsOf
  cases found : index.layout.range? box with
  | none =>
      simp [BucketLayout.not_covers_of_range?_eq_none found]
  | some range => exact exact.mem_indices_iff_covers found

theorem lt_size_of_covers {index : SpatialIndex κ} (exact : index.layout.Exact) {box : Box}
    {bucket : Nat} (covered : index.layout.Covers box bucket) : bucket < index.buckets.size := by
  rw [index.size_buckets]
  exact exact.lt_count_of_covers covered

variable [DecidableEq κ]

/-- The keys of each bucket are those whose boxes cover it. -/
structure Consistent (index : SpatialIndex κ) : Prop where
  exact : index.layout.Exact
  mem_keysIn_iff : ∀ bucket key, key ∈ index.keysIn bucket ↔
    ∃ box, index.box? key = some box ∧ index.layout.Covers box bucket

@[simp] theorem box?_empty (layout : BucketLayout) (key : κ) :
    (empty layout : SpatialIndex κ).box? key = none := rfl

theorem consistent_empty {layout : BucketLayout} (exact : layout.Exact) :
    (empty layout : SpatialIndex κ).Consistent := by
  refine ⟨exact, ?_⟩
  intro bucket key
  simp [keysIn_empty]

theorem remove_snd (index : SpatialIndex κ) (key : κ) :
    (index.remove key).2 = (index.box? key).isSome := by
  unfold remove
  split <;> simp_all

theorem erase_of_absent {index : SpatialIndex κ} {key : κ}
    (absent : index.box? key = none) : index.erase key = index := by
  simp only [erase, remove, absent]

@[simp] theorem layout_erase (index : SpatialIndex κ) (key : κ) :
    (index.erase key).layout = index.layout := by
  unfold erase remove
  split <;> rfl

theorem box?_erase (index : SpatialIndex κ) (erased key : κ) :
    (index.erase erased).box? key =
      if key = erased then none else index.box? key := by
  cases found : index.box? erased with
  | none =>
      rw [erase_of_absent found]
      split
      · next same => rw [same, found]
      · rfl
  | some box =>
      simp only [erase, remove, found]
      exact SortedMap.get?_erase index.boxes erased key

theorem keysIn_erase [Std.Asymm (α := κ) (· < ·)] {index : SpatialIndex κ} {erased : κ}
    {box : Box} (found : index.box? erased = some box) (bucket : Nat) :
    (index.erase erased).keysIn bucket =
      if bucket ∈ index.bucketsOf box ∧ bucket < index.buckets.size then
        (index.keysIn bucket).erase erased
      else index.keysIn bucket := by
  simp only [erase, remove, found, keysIn]
  exact getD_modifyBuckets (fun keys => SortedSet.erase_erase keys erased) _ _ _ _

theorem Consistent.erase [Std.Asymm (α := κ) (· < ·)] {index : SpatialIndex κ}
    (consistent : index.Consistent) (erased : κ) : (index.erase erased).Consistent := by
  have exact := consistent.exact
  refine ⟨(index.layout_erase erased).symm ▸ exact, ?_⟩
  intro bucket key
  rw [layout_erase, box?_erase]
  cases found : index.box? erased with
  | none =>
      rw [erase_of_absent found, consistent.mem_keysIn_iff bucket key]
      split
      · next same => simp [same, found]
      · rfl
  | some box =>
      rw [keysIn_erase found]
      by_cases covered : index.layout.Covers box bucket
      · rw [if_pos ⟨(mem_bucketsOf_iff exact).mpr covered, lt_size_of_covers exact covered⟩,
          SortedSet.mem_erase, consistent.mem_keysIn_iff bucket key]
        by_cases same : key = erased <;> simp [same]
      · rw [if_neg (fun both => covered ((mem_bucketsOf_iff exact).mp both.1)),
          consistent.mem_keysIn_iff bucket key]
        by_cases same : key = erased
        · simp [same, found, covered]
        · simp [same]

/-- A query for a point finds the keys of the boxes that contain it. -/
theorem Consistent.mem_atPoint_iff {index : SpatialIndex κ}
    (consistent : index.Consistent) {point : Point} {key : κ} :
    key ∈ index.atPoint point ↔ index.layout.HasCell point ∧
      ∃ box, index.box? key = some box ∧ box.containsPoint point = true := by
  have inBucket := consistent.mem_keysIn_iff (index.layout.indexAt point) key
  unfold atPoint
  cases column : Coordinate.toNat? point.x with
  | none =>
      have negative := Coordinate.toInt_neg_of_toNat?_eq_none column
      simp [BucketLayout.HasCell, Int.not_le.mpr negative]
  | some x =>
      cases row : Coordinate.toNat? point.y with
      | none =>
          have negative := Coordinate.toInt_neg_of_toNat?_eq_none row
          simp [BucketLayout.HasCell, Int.not_le.mpr negative]
      | some y =>
          have cell : (x < index.layout.width ∧ y < index.layout.height) ↔
              index.layout.HasCell point := by
            rw [BucketLayout.HasCell, Coordinate.toInt_of_toNat?_eq_some column,
              Coordinate.toInt_of_toNat?_eq_some row]
            omega
          by_cases inArea : index.layout.HasCell point
          · simp only [if_pos (cell.mpr inArea), SortedSet.mem_filter, inBucket, inArea,
              true_and]
            constructor
            · rintro ⟨⟨box, found, _⟩, contained⟩
              rw [found] at contained
              exact ⟨box, found, contained⟩
            · rintro ⟨box, found, contained⟩
              -- the bucket that is looked at knows the key, as the box covers it
              refine ⟨⟨box, found, consistent.exact.covers_indexAt inArea contained⟩, ?_⟩
              rw [found]
              exact contained
          · simp [if_neg (fun inside => inArea (cell.mp inside)), inArea]

end

section

variable {κ : Type} [LT κ] [DecidableLT κ] [Std.Trichotomous (α := κ) (· < ·)]
variable [Trans (α := κ) (· < ·) (· < ·) (· < ·)]

theorem mem_foldl_union {index : SpatialIndex κ} {buckets : List Nat} {found : SortedSet κ}
    {key : κ} :
    key ∈ buckets.foldl (fun found bucket => (index.keysIn bucket).union found) found ↔
      key ∈ found ∨ ∃ bucket ∈ buckets, key ∈ index.keysIn bucket := by
  induction buckets generalizing found with
  | nil => simp
  | cons bucket rest induction =>
      rw [List.foldl_cons, induction, SortedSet.mem_union, List.exists_mem_cons_iff]
      constructor
      · rintro ((here | before) | later)
        · exact Or.inr (Or.inl here)
        · exact Or.inl before
        · exact Or.inr (Or.inr later)
      · rintro (before | here | later)
        · exact Or.inl (Or.inr before)
        · exact Or.inl (Or.inl here)
        · exact Or.inr later

end

section

variable {κ : Type} [LT κ] [DecidableLT κ] [DecidableEq κ]
variable [Trans (α := κ) (· < ·) (· < ·) (· < ·)]

/-- An area without cells records nothing. -/
theorem insert_of_cellless {index : SpatialIndex κ} {key : κ} {box : Box}
    (cellless : index.layout.width = 0 ∨ index.layout.height = 0) :
    index.insert key box = index.erase key := by
  have missing : (index.erase key).layout.range? box = none := by
    rw [layout_erase]
    exact BucketLayout.range?_eq_none_iff.mpr cellless
  simp only [insert, missing]

@[simp] theorem layout_insert (index : SpatialIndex κ) (key : κ) (box : Box) :
    (index.insert key box).layout = index.layout := by
  unfold insert
  simp only
  split
  · exact index.layout_erase key
  · exact index.layout_erase key

variable [Std.Trichotomous (α := κ) (· < ·)]

/-- A query for a region finds the keys whose boxes share a bucket with it. -/
theorem Consistent.mem_inRegion_iff {index : SpatialIndex κ}
    (consistent : index.Consistent) {x1 y1 x2 y2 : Coordinate} {key : κ} :
    key ∈ index.inRegion x1 y1 x2 y2 ↔
      ∃ box, index.box? key = some box ∧ ∃ bucket, index.layout.Covers box bucket ∧
        index.layout.Covers (Box.ofCorners x1 y1 x2 y2) bucket := by
  simp only [inRegion, mem_foldl_union, SortedSet.not_mem_empty, false_or,
    mem_bucketsOf_iff consistent.exact]
  constructor
  · rintro ⟨bucket, queried, present⟩
    obtain ⟨box, found, covered⟩ := (consistent.mem_keysIn_iff bucket key).mp present
    exact ⟨box, found, bucket, covered, queried⟩
  · rintro ⟨box, found, bucket, covered, queried⟩
    exact ⟨bucket, queried, (consistent.mem_keysIn_iff bucket key).mpr ⟨box, found, covered⟩⟩

variable [Std.Asymm (α := κ) (· < ·)]

theorem box?_insert {index : SpatialIndex κ}
    (celled : 0 < index.layout.width ∧ 0 < index.layout.height)
    (inserted : κ) (box : Box) (key : κ) :
    (index.insert inserted box).box? key =
      if key = inserted then some box else index.box? key := by
  cases found : (index.erase inserted).layout.range? box with
  | none =>
      rw [layout_erase, BucketLayout.range?_eq_none_iff] at found
      omega
  | some range =>
      have stored : (index.insert inserted box).box? key =
          if key = inserted then some box else (index.erase inserted).box? key := by
        simp only [insert, found]
        exact SortedMap.get?_insert (index.erase inserted).boxes inserted key box
      rw [stored, box?_erase]
      split <;> rfl

theorem keysIn_insert {index : SpatialIndex κ} {inserted : κ} {box : Box}
    {range : BucketRange} (found : index.layout.range? box = some range) (bucket : Nat) :
    (index.insert inserted box).keysIn bucket =
      if bucket ∈ index.layout.indices range ∧ bucket < index.buckets.size then
        ((index.erase inserted).keysIn bucket).insert inserted
      else (index.erase inserted).keysIn bucket := by
  have size : (index.erase inserted).buckets.size = index.buckets.size := by
    rw [size_buckets, size_buckets, layout_erase]
  rw [← size]
  rw [← layout_erase index inserted] at found ⊢
  simp only [insert, found, keysIn]
  exact getD_modifyBuckets (fun keys => SortedSet.insert_insert keys inserted) _ _ _ _

theorem Consistent.insert {index : SpatialIndex κ} (consistent : index.Consistent)
    (inserted : κ) (box : Box) : (index.insert inserted box).Consistent := by
  cases found : index.layout.range? box with
  | none =>
      rw [insert_of_cellless (BucketLayout.range?_eq_none_iff.mp found)]
      exact consistent.erase inserted
  | some range =>
      have exact := consistent.exact
      have celled := BucketLayout.celled_of_range? found
      refine ⟨(index.layout_insert inserted box).symm ▸ exact, ?_⟩
      intro bucket key
      have others := (consistent.erase inserted).mem_keysIn_iff bucket key
      rw [layout_erase, box?_erase] at others
      rw [layout_insert, box?_insert celled, keysIn_insert found]
      have member : bucket ∈ index.layout.indices range ↔ index.layout.Covers box bucket :=
        exact.mem_indices_iff_covers found
      by_cases covered : index.layout.Covers box bucket
      · rw [if_pos ⟨member.mpr covered, lt_size_of_covers exact covered⟩,
          SortedSet.mem_insert, others]
        by_cases same : key = inserted
        · simp [same, covered]
        · simp [same]
      · rw [if_neg (fun both => covered (member.mp both.1)), others]
        by_cases same : key = inserted
        · simp [same, covered]
        · simp [same]

end

end ScreenSight.SpatialIndex
