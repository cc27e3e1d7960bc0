import Mathlib.Data.List.Sort
import ScreenSight.Ordered.Set

/-!
# Members of sorted sets

Every operation on sorted sets is described by the members of its result, and
sets with the same members are equal.
-/

namespace ScreenSight.SortedSet

section

variable {α : Type} [LT α]

@[simp] theorem not_mem_empty (value : α) :
    value ∉ (SortedSet.empty : SortedSet α) := by
  simp [mem_def, SortedSet.empty]

/-- Sets are determined by their members. -/
theorem ext_mem [Std.Asymm (α := α) (· < ·)] {left right : SortedSet α}
    (same : ∀ value, value ∈ left ↔ value ∈ right) : left = right := by
  apply SortedSet.ext
  exact left.increasing.eq_of_mem_iff right.increasing same

theorem erase_erase [DecidableEq α] [Std.Asymm (α := α) (· < ·)]
    (set : SortedSet α) (value : α) :
    (set.erase value).erase value = set.erase value := by
  apply ext_mem
  intro member
  simp only [mem_erase]
  exact ⟨fun kept => kept.1, fun kept => ⟨kept, kept.2⟩⟩

end

section

variable {α : Type} [LT α] [DecidableLT α]
variable [Std.Trichotomous (α := α) (· < ·)]

theorem mem_insertSorted {value member : α} {members : List α} :
    member ∈ insertSorted value members ↔
      member = value ∨ member ∈ members := by
  induction members with
  | nil => simp [insertSorted]
  | cons head tail induction =>
      simp only [insertSorted]
      by_cases before : value < head
      · simp [before]
      · by_cases after : head < value
        · simp only [before, after, if_false, if_true, List.mem_cons, induction]
          exact or_left_comm
        · have same : value = head :=
            Std.Trichotomous.trichotomous value head before after
          subst head
          simp [before]

variable [Trans (α := α) (· < ·) (· < ·) (· < ·)]

@[simp] theorem mem_insert {set : SortedSet α} {value member : α} :
    member ∈ set.insert value ↔ member = value ∨ member ∈ set :=
  mem_insertSorted

theorem insert_insert [Std.Asymm (α := α) (· < ·)] (set : SortedSet α) (value : α) :
    (set.insert value).insert value = set.insert value := by
  apply ext_mem
  intro member
  simp only [mem_insert, or_self_left]

theorem mem_foldr_insert {values : List α} {set : SortedSet α} {member : α} :
    member ∈ values.foldr (fun value set => set.insert value) set ↔
      member ∈ values ∨ member ∈ set := by
  induction values with
  | nil => simp
  | cons head tail induction =>
      rw [List.foldr_cons, mem_insert, induction, List.mem_cons, or_assoc]

@[simp] theorem mem_ofList {values : List α} {member : α} :
    member ∈ ofList values ↔ member ∈ values :=
  mem_foldr_insert.trans (or_iff_left (not_mem_empty member))

@[simp] theorem mem_union {left right : SortedSet α} {member : α} :
    member ∈ left.union right ↔ member ∈ left ∨ member ∈ right :=
  mem_foldr_insert

end

end ScreenSight.SortedSet
