/-!
# Stable sorting

Sorting keeps the order of items that compare alike.  If places increase along
a list, they still increase along each run of equal items of the sorted list.
Sorting by a test, which puts what satisfies it behind the rest, changes nothing
where nothing else stands behind such an item.
-/

namespace ScreenSight

/-- Numbered places increase. -/
theorem pairwise_zipIdx {α : Type} (items : List α) :
    items.zipIdx.Pairwise fun earlier later => earlier.2 < later.2 := by
  apply List.pairwise_map.mp
  rw [List.zipIdx_map_snd]
  exact List.pairwise_lt_range'

theorem mergeSort_pairwise_place {α : Type} {le : α → α → Bool} {place : α → Nat}
    (transitive : ∀ first second third, le first second = true →
      le second third = true → le first third = true)
    (total : ∀ left right, (le left right || le right left) = true) {items : List α}
    (increasing : items.Pairwise fun left right => place left < place right) :
    (items.mergeSort le).Pairwise fun left right =>
      le left right = true ∧ (le right left = true → place left < place right) := by
  induction items with
  | nil => simp
  | cons item rest induction =>
      obtain ⟨later, restIncreasing⟩ := List.pairwise_cons.mp increasing
      have sorted := List.pairwise_mergeSort transitive total (item :: rest)
      obtain ⟨before, behind, whole, others, smaller⟩ :=
        List.mergeSort_cons transitive total item rest
      -- the item is put behind everything smaller and in front of all equals
      have ordered := induction restIncreasing
      rw [others] at ordered
      rw [whole] at sorted ⊢
      obtain ⟨beforeOrdered, behindOrdered, across⟩ := List.pairwise_append.mp ordered
      obtain ⟨_, itemSorted, _⟩ := List.pairwise_append.mp sorted
      refine List.pairwise_append.mpr ⟨beforeOrdered, ?_, ?_⟩
      · refine List.pairwise_cons.mpr ⟨?_, behindOrdered⟩
        intro other present
        have inSorted : other ∈ rest.mergeSort le := by
          rw [others]
          exact List.mem_append_right before present
        have inRest : other ∈ rest := List.mem_mergeSort.mp inSorted
        exact ⟨(List.pairwise_cons.mp itemSorted).1 other present,
          fun _ => later other inRest⟩
      · intro other present last lastPresent
        rcases List.mem_cons.mp lastPresent with same | inBehind
        · subst last
          have notAfter : le item other = false := by
            simpa using smaller other present
          have either := total item other
          rw [notAfter, Bool.false_or] at either
          exact ⟨either, fun after => by rw [notAfter] at after; cases after⟩
        · exact across other present last inBehind

/-- A list is sorted by a test if and only if its two parts make it up. -/
theorem filter_append_filter_eq_iff {α : Type} {test : α → Bool} {items : List α} :
    (items.filter fun item => !test item) ++ items.filter test = items ↔
      items.Pairwise fun earlier later => test earlier = true → test later = true := by
  constructor
  · intro whole
    rw [← whole, List.pairwise_append]
    refine ⟨?_, ?_, ?_⟩
    · apply List.pairwise_of_forall_mem_list
      intro earlier first _ _ tested
      simp [tested] at first
    · apply List.pairwise_of_forall_mem_list
      intro _ _ later second _
      exact (List.mem_filter.mp second).2
    · intro _ _ later second _
      exact (List.mem_filter.mp second).2
  · intro split
    induction items with
    | nil => rfl
    | cons head tail induction =>
        obtain ⟨behind, rest⟩ := List.pairwise_cons.mp split
        by_cases tested : test head = true
        · have all : ∀ item ∈ head :: tail, test item = true := by
            intro item present
            rcases List.mem_cons.mp present with same | later
            · rw [same, tested]
            · exact behind item later tested
          have none : ((head :: tail).filter fun item => !test item) = [] := by
            rw [List.filter_eq_nil_iff]
            intro item present
            simp [all item present]
          rw [none, List.nil_append, List.filter_eq_self.mpr all]
        · rw [List.filter_cons_of_pos (by simpa using tested),
            List.filter_cons_of_neg tested, List.cons_append, induction rest]

end ScreenSight
