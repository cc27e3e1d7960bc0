import Mathlib.Data.List.Count
import Mathlib.Data.List.Nodup
import ScreenSight.Component.Model

/-!
# Repeated ids

One pass over the components of a model finds the ids that more than one of them has.  An
id is listed when it comes for the second time, so it is the second places that the list
is ordered by, and not the first ones.
-/

namespace ScreenSight.Model

/-- An id stands at a place, and at just one place before. -/
structure Returns (ids : List String) (place : Nat) (id : String) : Prop where
  stands : ids[place]? = some id
  once : (ids.take place).count id = 1

namespace Returns

variable {ids : List String} {place : Nat} {id : String}

theorem lt_length (returns : Returns ids place id) : place < ids.length :=
  (List.getElem?_eq_some_iff.mp returns.stands).1

/-- What stands behind some ids does not change where they return. -/
theorem append (returns : Returns ids place id) (more : List String) :
    Returns (ids ++ more) place id where
  stands := by rw [List.getElem?_append_left returns.lt_length, returns.stands]
  once := by
    rw [List.take_append_of_le_length (Nat.le_of_lt returns.lt_length), returns.once]

/-- The second place of an id is the end, if it has come once before. -/
theorem last (once : ids.count id = 1) : Returns (ids ++ [id]) ids.length id where
  stands := List.getElem?_concat_length
  once := by rw [List.take_left, once]

end Returns

/-- One id comes for the second time in front of where another one does. -/
def ReturnsBefore (ids : List String) (first second : String) : Prop :=
  ∃ place other, Returns ids place first ∧ Returns ids other second ∧ place < other

theorem ReturnsBefore.append {ids : List String} {first second : String}
    (before : ReturnsBefore ids first second) (more : List String) :
    ReturnsBefore (ids ++ more) first second := by
  obtain ⟨place, other, firstReturns, secondReturns, order⟩ := before
  exact ⟨place, other, firstReturns.append more, secondReturns.append more, order⟩

/-- A list holds the ids that come more than once, each one once and by the second places. -/
structure ListsRepeated (ids found : List String) : Prop where
  distinct : found.Nodup
  repeated : ∀ id, id ∈ found ↔ 2 ≤ ids.count id
  returning : ∀ id ∈ found, ∃ place, Returns ids place id
  ordered : found.Pairwise (ReturnsBefore ids)

namespace ListsRepeated

variable {ids found : List String} {id : String}

theorem nil : ListsRepeated [] [] where
  distinct := List.nodup_nil
  repeated id := by simp
  returning id listed := absurd listed List.not_mem_nil
  ordered := List.Pairwise.nil

/-- An id that comes for the second time goes to the end of the list. -/
theorem returned (lists : ListsRepeated ids found) (once : ids.count id = 1) :
    ListsRepeated (ids ++ [id]) (found ++ [id]) where
  distinct := by
    have unlisted : id ∉ found := by
      intro listed
      have twice := (lists.repeated id).mp listed
      omega
    rw [← List.concat_eq_append]
    exact lists.distinct.concat unlisted
  repeated other := by
    rw [List.mem_append, List.mem_singleton, lists.repeated, List.count_append,
      List.count_singleton]
    by_cases same : other = id
    · subst same
      simp [once]
    · simp [same, Ne.symm same]
  returning other listed := by
    rcases List.mem_append.mp listed with earlier | last
    · obtain ⟨place, returns⟩ := lists.returning other earlier
      exact ⟨place, returns.append [id]⟩
    · rw [List.mem_singleton.mp last]
      exact ⟨ids.length, Returns.last once⟩
  ordered := by
    refine List.pairwise_append.mpr ⟨?_, List.pairwise_singleton _ _, ?_⟩
    · exact lists.ordered.imp fun before => before.append [id]
    · intro first earlier second last
      obtain ⟨place, returns⟩ := lists.returning first earlier
      rw [List.mem_singleton.mp last]
      exact ⟨place, ids.length, returns.append [id], Returns.last once, returns.lt_length⟩

/-- An id that comes for the first time, or once more after the second, changes nothing. -/
theorem passed (lists : ListsRepeated ids found) (other : ids.count id ≠ 1) :
    ListsRepeated (ids ++ [id]) found where
  distinct := lists.distinct
  repeated one := by
    rw [lists.repeated, List.count_append, List.count_singleton]
    by_cases same : one = id
    · subst same
      simp only [beq_self_eq_true, if_true]
      omega
    · simp [Ne.symm same]
  returning one listed := by
    obtain ⟨place, returns⟩ := lists.returning one listed
    exact ⟨place, returns.append [id]⟩
  ordered := lists.ordered.imp fun before => before.append [id]

/-- A pass goes on from what it has seen and found. -/
theorem repeatedIds {seen : List String} (known : ∀ id, id ∈ seen ↔ id ∈ ids)
    (lists : ListsRepeated ids found) (rest : List String) :
    ListsRepeated (ids ++ rest) (repeatedIds seen found rest) := by
  induction rest generalizing ids seen found with
  | nil =>
      rw [List.append_nil]
      exact lists
  | cons id rest induction =>
      rw [List.append_cons, Model.repeatedIds]
      simp only [List.contains_iff_mem]
      have count : id ∈ ids ↔ 1 ≤ ids.count id := List.one_le_count_iff.symm
      split
      · next seenBefore =>
          have stillKnown (other : String) : other ∈ seen ↔ other ∈ ids ++ [id] := by
            rw [List.mem_append, List.mem_singleton, ← known]
            refine ⟨.inl, ?_⟩
            rintro (before | rfl)
            · exact before
            · exact seenBefore
          have present := count.mp ((known id).mp seenBefore)
          split
          · next listed =>
              have twice := (lists.repeated id).mp listed
              exact induction stillKnown (lists.passed (by omega))
          · next unlisted =>
              have notTwice := mt (lists.repeated id).mpr unlisted
              exact induction stillKnown (lists.returned (by omega))
      · next unseen =>
          have absent : ids.count id = 0 := by
            rw [known] at unseen
            exact List.count_eq_zero.mpr unseen
          refine induction ?_ (lists.passed (by omega))
          intro other
          rw [List.mem_cons, List.mem_append, List.mem_singleton, known, or_comm]

end ListsRepeated

/-- The repeated ids of a model are those of more than one component.  Each is listed once, and
one comes before another just where its second component comes before that of the other. -/
theorem duplicateIds_listsRepeated (model : Model) :
    ListsRepeated (model.components.map Component.id) model.duplicateIds :=
  ListsRepeated.nil.repeatedIds (fun _ => Iff.rfl) (model.components.map Component.id)

/-- A pair of components inside another pair with the same ids. -/
def crossed : Model :=
  { components := ["a", "b", "b", "a"].map fun id => { id := id } }

/-- The id that comes first may be listed last. -/
theorem duplicateIds_not_by_first :
    crossed.duplicateIds = ["b", "a"] ∧
      ¬crossed.duplicateIds.Pairwise fun first second =>
        (crossed.components.map Component.id).idxOf first <
          (crossed.components.map Component.id).idxOf second := by
  decide

end ScreenSight.Model
