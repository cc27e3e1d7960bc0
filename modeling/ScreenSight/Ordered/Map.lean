import ScreenSight.Ordered.Text

/-!
# Sorted maps

A finite map from a linearly ordered type of keys is kept as its list of entries in strictly
increasing order of the keys, so that two maps with the same entries are equal.
-/

namespace ScreenSight

/-- A finite map, held as its entries in strictly increasing order of their keys. -/
structure SortedMap (κ ν : Type) [LT κ] where
  toList : List (κ × ν)
  increasing : toList.Pairwise fun left right => left.1 < right.1

namespace SortedMap

section

variable {κ ν : Type} [LT κ]

theorem ext {left right : SortedMap κ ν} (same : left.toList = right.toList) : left = right := by
  cases left
  cases right
  cases same
  rfl

instance [DecidableEq κ] [DecidableEq ν] : DecidableEq (SortedMap κ ν) := fun left right =>
  if same : left.toList = right.toList then
    isTrue (ext same)
  else
    isFalse fun equal => same (congrArg toList equal)

/-- The map without entries. -/
def empty : SortedMap κ ν :=
  ⟨[], List.Pairwise.nil⟩

instance : EmptyCollection (SortedMap κ ν) := ⟨empty⟩

instance : Inhabited (SortedMap κ ν) := ⟨empty⟩

/-- Whether the map has no entries. -/
def isEmpty (map : SortedMap κ ν) : Bool :=
  map.toList.isEmpty

/-- The number of entries. -/
def size (map : SortedMap κ ν) : Nat :=
  map.toList.length

def keys (map : SortedMap κ ν) : List κ :=
  map.toList.map Prod.fst

/-- The value stored under a key. -/
def get? [DecidableEq κ] (map : SortedMap κ ν) (key : κ) : Option ν :=
  (map.toList.find? fun entry => decide (entry.1 = key)).map Prod.snd

def contains [DecidableEq κ] (map : SortedMap κ ν) (key : κ) : Bool :=
  (map.get? key).isSome

/-- The map without the entry of a key. -/
def erase [DecidableEq κ] (map : SortedMap κ ν) (key : κ) : SortedMap κ ν :=
  ⟨map.toList.filter fun entry => decide (entry.1 ≠ key), map.increasing.filter _⟩

end

section

variable {κ ν : Type} [LT κ] [DecidableLT κ]

/-- Put an entry into its place in an increasing list, in exchange for the one of the same key. -/
def insertSorted (key : κ) (value : ν) : List (κ × ν) → List (κ × ν)
  | [] => [(key, value)]
  | head :: tail =>
      if key < head.1 then (key, value) :: head :: tail
      else if head.1 < key then head :: insertSorted key value tail
      else (head.1, value) :: tail

theorem key_of_mem_insertSorted {key : κ} {value : ν} {entry : κ × ν} {entries : List (κ × ν)}
    (present : entry ∈ insertSorted key value entries) :
    entry.1 = key ∨ ∃ old ∈ entries, old.1 = entry.1 := by
  induction entries with
  | nil =>
      simp only [insertSorted, List.mem_singleton] at present
      exact Or.inl (by rw [present])
  | cons head tail induction =>
      simp only [insertSorted] at present
      split at present
      · rcases List.mem_cons.mp present with same | later
        · exact Or.inl (by rw [same])
        · exact Or.inr ⟨entry, later, rfl⟩
      · split at present
        · rcases List.mem_cons.mp present with same | later
          · exact Or.inr ⟨head, List.mem_cons_self, by rw [same]⟩
          · rcases induction later with same | ⟨old, inside, equal⟩
            · exact Or.inl same
            · exact Or.inr ⟨old, List.mem_cons_of_mem _ inside, equal⟩
        · rcases List.mem_cons.mp present with same | later
          · exact Or.inr ⟨head, List.mem_cons_self, by rw [same]⟩
          · exact Or.inr ⟨entry, List.mem_cons_of_mem _ later, rfl⟩

variable [transitive : Trans (α := κ) (· < ·) (· < ·) (· < ·)]

theorem insertSorted_increasing {key : κ} {value : ν} {entries : List (κ × ν)}
    (increasing : entries.Pairwise fun left right => left.1 < right.1) :
    (insertSorted key value entries).Pairwise fun left right => left.1 < right.1 := by
  induction entries with
  | nil => simp [insertSorted]
  | cons head tail induction =>
      have parts := List.pairwise_cons.mp increasing
      simp only [insertSorted]
      split
      · rename_i before
        refine List.pairwise_cons.mpr ⟨?_, increasing⟩
        intro entry present
        rcases List.mem_cons.mp present with same | later
        · simpa [same] using before
        · exact transitive.trans before (parts.1 entry later)
      · split
        · rename_i after
          refine List.pairwise_cons.mpr ⟨?_, induction parts.2⟩
          intro entry present
          rcases key_of_mem_insertSorted present with same | ⟨old, inside, equal⟩
          · simpa [same] using after
          · rw [← equal]
            exact parts.1 old inside
        · exact List.pairwise_cons.mpr parts

/-- The map with a value stored under a key, in place of any earlier one. -/
def insert (map : SortedMap κ ν) (key : κ) (value : ν) : SortedMap κ ν :=
  ⟨insertSorted key value map.toList, insertSorted_increasing map.increasing⟩

/-- The map of a list of entries; of several entries of one key the last counts. -/
def ofList (entries : List (κ × ν)) : SortedMap κ ν :=
  entries.foldl (fun map entry => map.insert entry.1 entry.2) empty

end

end SortedMap

end ScreenSight
