import Mathlib.Data.List.Sort
import ScreenSight.Ordered.Map

/-!
# Look-ups in sorted maps

Every operation on sorted maps is described by what look-ups find in its
result.  The order of the keys decides where an entry stands, never whether it
is found, and maps in which look-ups find the same are equal.
-/

namespace ScreenSight.SortedMap

section

variable {κ ν : Type} [DecidableEq κ]

/-- A look-up in a list of entries. -/
def findIn (key : κ) (entries : List (κ × ν)) : Option ν :=
  (entries.find? fun entry => decide (entry.1 = key)).map Prod.snd

theorem findIn_cons (key : κ) (head : κ × ν) (tail : List (κ × ν)) :
    findIn key (head :: tail) =
      if head.1 = key then some head.2 else findIn key tail := by
  by_cases same : head.1 = key <;> simp [findIn, same]

theorem findIn_append (key : κ) (first second : List (κ × ν)) :
    findIn key (first ++ second) = (findIn key first).or (findIn key second) := by
  rw [findIn, List.find?_append, Option.map_or]
  rfl

theorem findIn_isSome_iff {key : κ} {entries : List (κ × ν)} :
    (findIn key entries).isSome = true ↔ key ∈ entries.map Prod.fst := by
  rw [findIn, Option.isSome_map, List.find?_isSome]
  simp

theorem findIn_eq_none_iff {key : κ} {entries : List (κ × ν)} :
    findIn key entries = none ↔ key ∉ entries.map Prod.fst := by
  rw [← findIn_isSome_iff, Option.not_isSome_iff_eq_none]

/-- Among entries of different keys the order does not matter to look-ups. -/
theorem findIn_reverse {entries : List (κ × ν)} (distinct : (entries.map Prod.fst).Nodup)
    (key : κ) : findIn key entries.reverse = findIn key entries := by
  induction entries with
  | nil => rfl
  | cons head tail induction =>
      rw [List.map_cons, List.nodup_cons] at distinct
      rw [List.reverse_cons, findIn_append, induction distinct.2, findIn_cons, findIn_cons]
      by_cases same : head.1 = key
      · rw [if_pos same, if_pos same, findIn_eq_none_iff.mpr (same ▸ distinct.1), Option.none_or]
      · rw [if_neg same, if_neg same]
        exact Option.or_none

/-- Lists of entries with the same keys in the same order are equal if look-ups
cannot tell them apart. -/
theorem eq_of_findIn {left right : List (κ × ν)}
    (order : left.map Prod.fst = right.map Prod.fst)
    (distinct : (left.map Prod.fst).Nodup)
    (same : ∀ key, findIn key left = findIn key right) : left = right := by
  induction left generalizing right with
  | nil => exact (List.map_eq_nil_iff.mp order.symm).symm
  | cons head tail induction =>
      obtain ⟨other, rest, rfl, first, behind⟩ := List.map_eq_cons_iff.mp order.symm
      rw [List.map_cons, List.nodup_cons] at distinct
      have values := same head.1
      rw [findIn_cons, if_pos rfl, findIn_cons, if_pos first, Option.some.injEq] at values
      have heads : head = other := Prod.ext first.symm values
      have tails : tail = rest := by
        apply induction behind.symm distinct.2
        intro key
        by_cases known : key = head.1
        · rw [known, findIn_eq_none_iff.mpr distinct.1,
            findIn_eq_none_iff.mpr (behind ▸ distinct.1)]
        · have found := same key
          rwa [findIn_cons, if_neg (Ne.symm known), findIn_cons,
            if_neg fun equal => known (equal.symm.trans first)] at found
      rw [heads, tails]

theorem findIn_filter (key : κ) (test : κ → Bool) (entries : List (κ × ν)) :
    findIn key (entries.filter fun entry => test entry.1) =
      if test key = true then findIn key entries else none := by
  induction entries with
  | nil => simp [findIn]
  | cons head tail induction =>
      rw [List.filter_cons]
      by_cases kept : test head.1 = true
      · rw [if_pos kept, findIn_cons, induction, findIn_cons]
        by_cases same : head.1 = key
        · simp [same, same ▸ kept]
        · simp [same]
      · rw [if_neg kept, induction, findIn_cons]
        by_cases same : head.1 = key
        · simp [same ▸ kept]
        · simp [same]

variable [LT κ]

@[simp] theorem get?_empty (key : κ) :
    (SortedMap.empty : SortedMap κ ν).get? key = none := rfl

theorem get?_erase (map : SortedMap κ ν) (erased key : κ) :
    (map.erase erased).get? key =
      if key = erased then none else map.get? key := by
  have found : (map.erase erased).get? key = _ :=
    findIn_filter key (fun other => decide (other ≠ erased)) map.toList
  rw [found, get?, ← findIn]
  simp [ite_not]

/-- A key that is looked up successfully is one of the keys. -/
theorem get?_isSome_iff {map : SortedMap κ ν} {key : κ} :
    (map.get? key).isSome = true ↔ key ∈ map.keys :=
  findIn_isSome_iff

end

section

variable {κ ν : Type} [LT κ]

theorem length_keys (map : SortedMap κ ν) : map.keys.length = map.size :=
  List.length_map _

theorem keys_increasing (map : SortedMap κ ν) : map.keys.Pairwise (· < ·) :=
  List.pairwise_map.mpr map.increasing

theorem keys_nodup [Std.Irrefl (α := κ) (· < ·)] (map : SortedMap κ ν) :
    map.keys.Nodup := by
  refine map.keys_increasing.imp ?_
  intro left right before same
  rw [same] at before
  exact Std.Irrefl.irrefl _ before

end

section

variable {κ ν : Type} [LT κ] [DecidableLT κ] [DecidableEq κ]
variable [Std.Irrefl (α := κ) (· < ·)] [Std.Trichotomous (α := κ) (· < ·)]

theorem findIn_insertSorted (key inserted : κ) (value : ν) (entries : List (κ × ν)) :
    findIn key (insertSorted inserted value entries) =
      if key = inserted then some value else findIn key entries := by
  induction entries with
  | nil =>
      by_cases same : key = inserted
      · simp [insertSorted, findIn_cons, same]
      · simp [insertSorted, findIn_cons, same, Ne.symm same]
  | cons head tail induction =>
      simp only [insertSorted]
      by_cases before : inserted < head.1
      · rw [if_pos before, findIn_cons]
        simp only [eq_comm]
      · by_cases after : head.1 < inserted
        · rw [if_neg before, if_pos after, findIn_cons, induction, findIn_cons]
          by_cases same : key = inserted
          · have other : head.1 ≠ key := by
              intro equal
              rw [equal, same] at after
              exact Std.Irrefl.irrefl _ after
            simp [same ▸ other, same]
          · simp [same]
        · have same : inserted = head.1 :=
            Std.Trichotomous.trichotomous inserted head.1 before after
          rw [if_neg before, if_neg after, findIn_cons, findIn_cons, same]
          by_cases wanted : head.1 = key
          · simp [wanted]
          · simp [wanted, Ne.symm wanted]

variable [Trans (α := κ) (· < ·) (· < ·) (· < ·)]

theorem get?_insert (map : SortedMap κ ν) (inserted key : κ) (value : ν) :
    (map.insert inserted value).get? key =
      if key = inserted then some value else map.get? key :=
  findIn_insertSorted key inserted value map.toList

end

section

variable {κ ν : Type} [LT κ] [DecidableEq κ] [Std.Irrefl (α := κ) (· < ·)]
variable [Std.Asymm (α := κ) (· < ·)]

/-- Maps are determined by look-ups. -/
theorem ext_get? {left right : SortedMap κ ν}
    (same : ∀ key, left.get? key = right.get? key) : left = right := by
  have keys : left.keys = right.keys := by
    apply left.keys_increasing.eq_of_mem_iff right.keys_increasing
    intro key
    rw [← get?_isSome_iff, ← get?_isSome_iff, same]
  exact SortedMap.ext (eq_of_findIn keys left.keys_nodup same)

end

/-! ## Lists of writes

Of several writes under one key the last one counts, so a list of writes that is
repeated changes nothing any more. -/

section

variable {κ ν : Type} [LT κ] [DecidableLT κ]
variable [Trans (α := κ) (· < ·) (· < ·) (· < ·)]

/-- Store some values under their keys, one after the other. -/
def insertAll (map : SortedMap κ ν) (writes : List (κ × ν)) : SortedMap κ ν :=
  writes.foldl (fun current write => current.insert write.1 write.2) map

theorem insertAll_append (map : SortedMap κ ν) (first second : List (κ × ν)) :
    map.insertAll (first ++ second) = (map.insertAll first).insertAll second :=
  List.foldl_append

variable [DecidableEq κ]
variable [Std.Irrefl (α := κ) (· < ·)] [Std.Trichotomous (α := κ) (· < ·)]

theorem get?_insertAll (map : SortedMap κ ν) (writes : List (κ × ν)) (key : κ) :
    (map.insertAll writes).get? key = (findIn key writes.reverse).or (map.get? key) := by
  induction writes generalizing map with
  | nil => rfl
  | cons write rest induction =>
      rw [insertAll, List.foldl_cons, ← insertAll, induction, get?_insert,
        List.reverse_cons, findIn_append, findIn_cons]
      by_cases same : key = write.1
      · simp [same]
      · simp [same, Ne.symm same, findIn]

/-- Writing the same again changes nothing. -/
theorem insertAll_insertAll [Std.Asymm (α := κ) (· < ·)] (map : SortedMap κ ν)
    (writes : List (κ × ν)) :
    (map.insertAll writes).insertAll writes = map.insertAll writes := by
  apply ext_get?
  intro key
  rw [get?_insertAll, get?_insertAll, ← Option.or_assoc, Option.or_self]

end

end ScreenSight.SortedMap
