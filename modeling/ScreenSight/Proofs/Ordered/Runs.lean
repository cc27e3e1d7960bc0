import Mathlib.Data.List.SplitBy
import ScreenSight.Proofs.Ordered.Sorting

/-!
# Runs of equal keys

A list in the order of a key is split where the key changes.  No key comes back, so the
pieces are the parts of the list with one key each, in the order of the keys.
-/

namespace ScreenSight

section

variable {α κ : Type} [DecidableEq κ] [LT κ] [Std.Asymm (α := κ) (· < ·)]
variable {key : α → κ} {first : α} {rest items : List α}

/-- What has another key than the first item stands behind all that has the same one. -/
theorem filter_run_append_filter
    (sorted : (first :: rest).Pairwise fun earlier later =>
      key earlier = key later ∨ key earlier < key later) :
    ((first :: rest).filter fun item => key item == key first) ++
      ((first :: rest).filter fun item => key item != key first) = first :: rest := by
  have parts := @filter_append_filter_eq_iff α (fun item => key item != key first) (first :: rest)
  simp only [bne, Bool.not_not] at parts ⊢
  refine parts.mpr ?_
  obtain ⟨behindFirst, sortedRest⟩ := List.pairwise_cons.mp sorted
  refine List.pairwise_cons.mpr ⟨by simp, ?_⟩
  refine sortedRest.imp_of_mem ?_
  intro earlier later present _ order changed
  have beyond : key first < key earlier := by
    rcases behindFirst earlier present with same | before
    · simp [same] at changed
    · exact before
  rcases order with same | before
  · rwa [← same]
  · have different : key later ≠ key first := by
      intro back
      rw [back] at before
      exact Std.Asymm.asymm _ _ before beyond
    simpa using different

/-- The first piece is what has the key of the first item. -/
theorem splitBy_cons_key
    (sorted : (first :: rest).Pairwise fun earlier later =>
      key earlier = key later ∨ key earlier < key later) :
    ((first :: rest).splitBy fun left right => key left == key right) =
      ((first :: rest).filter fun item => key item == key first) ::
        ((first :: rest).filter fun item => key item != key first).splitBy
          fun left right => key left == key right := by
  let run := (first :: rest).filter fun item => key item == key first
  have begins : first ∈ run := List.mem_filter.mpr ⟨List.mem_cons_self, beq_self_eq_true _⟩
  have inRun (item : α) (member : item ∈ run) : key item = key first :=
    eq_of_beq (List.mem_filter.mp member).2
  have one : (run.splitBy fun left right => key left == key right) = [run] := by
    refine List.splitBy_of_isChain (List.ne_nil_of_mem begins) ?_
    refine (List.pairwise_of_forall_mem_list ?_).isChain
    intro left leftMember right rightMember
    rw [inRun left leftMember, inRun right rightMember, beq_self_eq_true]
  have changes := filter_run_append_filter sorted
  conv_lhs => rw [← changes]
  rw [List.splitBy_append, one, List.singleton_append]
  intro last lastMember next nextMember
  have inside := inRun last (List.mem_of_getLast? lastMember)
  have outside := (List.mem_filter.mp (List.mem_of_head? nextMember)).2
  rw [bne_iff_ne] at outside
  rw [inside]
  exact beq_false_of_ne (Ne.symm outside)

/-- The pieces of a list in the order of a key are its parts with one key each. -/
theorem exists_splitBy_key
    (sorted : items.Pairwise fun earlier later =>
      key earlier = key later ∨ key earlier < key later) :
    ∃ keys : List κ, keys.Pairwise (· < ·) ∧
      (∀ value, value ∈ keys ↔ ∃ item ∈ items, key item = value) ∧
      (items.splitBy fun left right => key left == key right) =
        keys.map fun value => items.filter fun item => key item == value := by
  induction length : items.length using Nat.strong_induction_on generalizing items with
  | _ count induction =>
      cases items with
      | nil => exact ⟨[], List.Pairwise.nil, by simp, rfl⟩
      | cons first rest =>
          let others := (first :: rest).filter fun item => key item != key first
          have inOthers (item : α) :
              item ∈ others ↔ item ∈ first :: rest ∧ key item ≠ key first := by
            rw [List.mem_filter, bne_iff_ne]
          have shorter : others.length < count := by
            rw [← length]
            exact List.length_filter_lt_length_iff_exists.mpr
              ⟨first, List.mem_cons_self, by simp⟩
          obtain ⟨keys, increasing, occurring, split⟩ :=
            induction others.length shorter (sorted.filter _) rfl
          have later (value : κ) (member : value ∈ keys) : key first < value := by
            obtain ⟨item, present, rfl⟩ := (occurring value).mp member
            obtain ⟨present, different⟩ := (inOthers item).mp present
            rcases List.mem_cons.mp present with rfl | behind
            · exact absurd rfl different
            · have order := (List.pairwise_cons.mp sorted).1 item behind
              exact order.resolve_left (Ne.symm different)
          refine ⟨key first :: keys, List.pairwise_cons.mpr ⟨later, increasing⟩, ?_, ?_⟩
          · intro value
            rw [List.mem_cons, occurring]
            constructor
            · rintro (rfl | ⟨item, present, rfl⟩)
              · exact ⟨first, List.mem_cons_self, rfl⟩
              · exact ⟨item, ((inOthers item).mp present).1, rfl⟩
            · rintro ⟨item, present, rfl⟩
              by_cases same : key item = key first
              · exact .inl same
              · exact .inr ⟨item, (inOthers item).mpr ⟨present, same⟩, rfl⟩
          · rw [splitBy_cons_key sorted, split, List.map_cons]
            refine congrArg (_ :: ·) (List.map_congr_left ?_)
            intro value member
            -- the items of a later key are all among the others
            have different : value ≠ key first := by
              rintro rfl
              exact Std.Asymm.asymm _ _ (later _ member) (later _ member)
            rw [List.filter_filter]
            apply List.filter_congr
            intro item _
            by_cases same : key item = value
            · simp [same, different]
            · simp [same]

end

end ScreenSight
