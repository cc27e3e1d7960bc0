import ScreenSight.Ordered.Text

/-!
# Sorted sets

A set of values of a linearly ordered type is kept as its strictly increasing list of members.
Two sets with the same members are therefore equal, and the members come out in order.
-/

namespace ScreenSight

/-- A finite set, held as the strictly increasing list of its members. -/
structure SortedSet (α : Type) [LT α] where
  toList : List α
  increasing : toList.Pairwise (· < ·)

namespace SortedSet

section

variable {α : Type} [LT α]

theorem ext {left right : SortedSet α} (same : left.toList = right.toList) : left = right := by
  cases left
  cases right
  cases same
  rfl

instance [DecidableEq α] : DecidableEq (SortedSet α) := fun left right =>
  if same : left.toList = right.toList then
    isTrue (ext same)
  else
    isFalse fun equal => same (congrArg toList equal)

/-- The set without members. -/
def empty : SortedSet α :=
  ⟨[], List.Pairwise.nil⟩

instance : EmptyCollection (SortedSet α) := ⟨empty⟩

instance : Inhabited (SortedSet α) := ⟨empty⟩

instance : Membership α (SortedSet α) := ⟨fun set value => value ∈ set.toList⟩

theorem mem_def {value : α} {set : SortedSet α} : value ∈ set ↔ value ∈ set.toList := Iff.rfl

instance [DecidableEq α] (value : α) (set : SortedSet α) : Decidable (value ∈ set) :=
  inferInstanceAs (Decidable (value ∈ set.toList))

/-- Whether the set has no members. -/
def isEmpty (set : SortedSet α) : Bool :=
  set.toList.isEmpty

/-- The number of members. -/
def size (set : SortedSet α) : Nat :=
  set.toList.length

/-- Whether a value is a member. -/
def contains [DecidableEq α] (set : SortedSet α) (value : α) : Bool :=
  decide (value ∈ set.toList)

theorem contains_iff [DecidableEq α] {set : SortedSet α} {value : α} :
    set.contains value = true ↔ value ∈ set := by
  simp [contains, mem_def]

/-- The members that satisfy a test. -/
def filter (set : SortedSet α) (test : α → Bool) : SortedSet α :=
  ⟨set.toList.filter test, set.increasing.filter _⟩

theorem mem_filter {set : SortedSet α} {test : α → Bool} {value : α} :
    value ∈ set.filter test ↔ value ∈ set ∧ test value = true := by
  simp [filter, mem_def]

/-- The set without one of its members. -/
def erase [DecidableEq α] (set : SortedSet α) (value : α) : SortedSet α :=
  set.filter fun member => decide (member ≠ value)

theorem mem_erase [DecidableEq α] {set : SortedSet α} {value member : α} :
    member ∈ set.erase value ↔ member ∈ set ∧ member ≠ value := by
  simp [erase, mem_filter]

end

section

variable {α : Type} [LT α] [DecidableLT α]

/-- Put a value into its place in an increasing list, unless it is there already. -/
def insertSorted (value : α) : List α → List α
  | [] => [value]
  | head :: tail =>
      if value < head then value :: head :: tail
      else if head < value then head :: insertSorted value tail
      else head :: tail

theorem mem_insertSorted_of {value member : α} {members : List α}
    (present : member ∈ insertSorted value members) : member = value ∨ member ∈ members := by
  induction members with
  | nil => simpa [insertSorted] using present
  | cons head tail induction =>
      simp only [insertSorted] at present
      split at present
      · simpa using present
      · split at present
        · rcases List.mem_cons.mp present with same | later
          · simp [same]
          · rcases induction later with same | inside
            · exact Or.inl same
            · exact Or.inr (List.mem_cons_of_mem _ inside)
        · exact Or.inr present

variable [transitive : Trans (α := α) (· < ·) (· < ·) (· < ·)]

theorem insertSorted_increasing {value : α} {members : List α}
    (increasing : members.Pairwise (· < ·)) :
    (insertSorted value members).Pairwise (· < ·) := by
  induction members with
  | nil => simp [insertSorted]
  | cons head tail induction =>
      have parts := List.pairwise_cons.mp increasing
      simp only [insertSorted]
      split
      · rename_i before
        refine List.pairwise_cons.mpr ⟨?_, increasing⟩
        intro member present
        rcases List.mem_cons.mp present with same | later
        · simpa [same] using before
        · exact transitive.trans before (parts.1 member later)
      · split
        · rename_i after
          refine List.pairwise_cons.mpr ⟨?_, induction parts.2⟩
          intro member present
          rcases mem_insertSorted_of present with same | later
          · simpa [same] using after
          · exact parts.1 member later
        · exact increasing

/-- The set with one more member. -/
def insert (set : SortedSet α) (value : α) : SortedSet α :=
  ⟨insertSorted value set.toList, insertSorted_increasing set.increasing⟩

def ofList (values : List α) : SortedSet α :=
  values.foldr (fun value set => set.insert value) empty

/-- The members of either set. -/
def union (left right : SortedSet α) : SortedSet α :=
  left.toList.foldr (fun value set => set.insert value) right

end

end SortedSet

end ScreenSight
