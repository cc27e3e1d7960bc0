import Mathlib.Data.List.Nodup
import ScreenSight.Hunt.Roster
import ScreenSight.Proofs.Ordered.Map
import ScreenSight.Proofs.Ordered.Sorting

/-!
# Runs of assignments

A run of assignments decides what its names stand for, whatever the roster was
before.  It also decides the order of the names that it clears on the way: such
a name loses its old place and comes back at the end.  A name that is never
cleared keeps the place that it has.
-/

namespace ScreenSight.Hunt.Roster

variable {α : Type}

/-- Assignments one after the other. -/
def assignAll (roster : Roster α) (changes : List (String × Option α)) : Roster α :=
  changes.foldl (fun current change => current.assign change.1 change.2) roster

/-- Whether some assignment of a run removes a name. -/
def clears (changes : List (String × Option α)) (name : String) : Bool :=
  changes.any fun change => change.2.isNone && change.1 == name

/-- The part of a roster whose names satisfy a test. -/
def restrict (roster : Roster α) (test : String → Bool) : Roster α :=
  { entries := roster.entries.filter fun entry => test entry.1
    distinct := (List.filter_sublist.map Prod.fst).nodup roster.distinct }

theorem remove_eq_restrict (roster : Roster α) (name : String) :
    roster.remove name = roster.restrict fun other => other != name := rfl

/-! ## Look-ups -/

theorem get?_isSome_iff {roster : Roster α} {name : String} :
    (roster.get? name).isSome = true ↔ name ∈ roster.names :=
  SortedMap.findIn_isSome_iff

theorem contains_iff {roster : Roster α} {name : String} :
    roster.contains name = true ↔ name ∈ roster.names := by
  simp [contains]

theorem get?_eq_findIn (roster : Roster α) (name : String) :
    roster.get? name = SortedMap.findIn name roster.entries := rfl

private theorem findIn_replaceIn (name replaced : String) (value : α)
    (entries : List (String × α)) :
    SortedMap.findIn name (replaceIn replaced value entries) =
      (SortedMap.findIn name entries).map fun old =>
        if name = replaced then value else old := by
  induction entries with
  | nil => rfl
  | cons head tail induction =>
      rw [replaceIn, List.map_cons, ← replaceIn, SortedMap.findIn_cons,
        SortedMap.findIn_cons, induction]
      by_cases exchanged : head.1 = replaced
      · by_cases wanted : name = replaced
        · simp [exchanged, wanted]
        · simp [exchanged, wanted, Ne.symm wanted]
      · by_cases wanted : head.1 = name
        · have differ : name ≠ replaced := fun same => exchanged (wanted.trans same)
          simp [wanted, differ]
        · simp [exchanged, wanted]

theorem get?_register (roster : Roster α) (registered name : String) (value : α) :
    (roster.register registered value).get? name =
      if name = registered then some value else roster.get? name := by
  by_cases known : roster.contains registered = true
  · rw [register, dif_pos known, get?_eq_findIn, findIn_replaceIn, ← get?_eq_findIn]
    by_cases same : name = registered
    · have found := get?_isSome_iff.mpr (contains_iff.mp known)
      obtain ⟨old, holds⟩ := Option.isSome_iff_exists.mp found
      simp [same, holds]
    · simp [same]
  · have absent : SortedMap.findIn registered roster.entries = none :=
      SortedMap.findIn_eq_none_iff.mpr fun present => known (contains_iff.mpr present)
    rw [register, dif_neg known, get?_eq_findIn, SortedMap.findIn_append,
      SortedMap.findIn_cons, get?_eq_findIn]
    by_cases same : name = registered
    · simp [same, absent]
    · simp [same, Ne.symm same, SortedMap.findIn]

theorem get?_restrict (roster : Roster α) (test : String → Bool) (name : String) :
    (roster.restrict test).get? name =
      if test name = true then roster.get? name else none :=
  SortedMap.findIn_filter name test roster.entries

theorem get?_remove (roster : Roster α) (removed name : String) :
    (roster.remove removed).get? name =
      if name = removed then none else roster.get? name := by
  rw [remove_eq_restrict, get?_restrict]
  by_cases same : name = removed <;> simp [same]

theorem get?_assign (roster : Roster α) (assigned name : String) (value : Option α) :
    (roster.assign assigned value).get? name =
      if name = assigned then value else roster.get? name := by
  cases value with
  | none => exact get?_remove roster assigned name
  | some value => exact get?_register roster assigned name value

/-- After a run each name stands for what the last assignment to it says. -/
theorem get?_assignAll (roster : Roster α) (changes : List (String × Option α))
    (name : String) :
    (roster.assignAll changes).get? name =
      (SortedMap.findIn name changes.reverse).getD (roster.get? name) := by
  induction changes generalizing roster with
  | nil => rfl
  | cons change rest induction =>
      rw [assignAll, List.foldl_cons, ← assignAll, induction, get?_assign,
        List.reverse_cons, SortedMap.findIn_append, SortedMap.findIn_cons]
      cases SortedMap.findIn name rest.reverse with
      | some value => rfl
      | none =>
          by_cases same : name = change.1
          · simp [same]
          · simp [same, Ne.symm same, SortedMap.findIn]

/-! ## Names -/

theorem names_register_of_mem {roster : Roster α} {name : String}
    (present : name ∈ roster.names) (value : α) :
    (roster.register name value).names = roster.names := by
  rw [register, dif_pos (contains_iff.mpr present)]
  exact names_replaceIn name value roster.entries

theorem names_register_of_not_mem {roster : Roster α} {name : String}
    (absent : name ∉ roster.names) (value : α) :
    (roster.register name value).names = roster.names ++ [name] := by
  rw [register, dif_neg fun found => absent (contains_iff.mp found)]
  exact List.map_append

theorem names_restrict (roster : Roster α) (test : String → Bool) :
    (roster.restrict test).names = roster.names.filter test := by
  simp [names, restrict, List.filter_map, Function.comp_def]

/-- Rosters are determined by the order of their names and by look-ups. -/
theorem ext_get? {left right : Roster α} (order : left.names = right.names)
    (same : ∀ name, left.get? name = right.get? name) : left = right :=
  ext (SortedMap.eq_of_findIn order left.distinct same)

/-! ## Parts of a roster -/

theorem restrict_restrict (roster : Roster α) (first second : String → Bool) :
    (roster.restrict first).restrict second =
      roster.restrict fun name => first name && second name := by
  apply ext
  simp only [restrict, List.filter_filter, Bool.and_comm]

theorem restrict_true (roster : Roster α) : (roster.restrict fun _ => true) = roster := by
  apply ext
  simp [restrict]

private theorem restrict_register (roster : Roster α) {test : String → Bool} {name : String}
    (kept : test name = true) (value : α) :
    (roster.register name value).restrict test =
      (roster.restrict test).register name value := by
  apply ext_get?
  · rw [names_restrict]
    by_cases present : name ∈ roster.names
    · have inside : name ∈ (roster.restrict test).names := by
        rw [names_restrict]
        exact List.mem_filter.mpr ⟨present, kept⟩
      rw [names_register_of_mem present, names_register_of_mem inside, names_restrict]
    · have outside : name ∉ (roster.restrict test).names := by
        rw [names_restrict]
        exact fun found => present (List.mem_filter.mp found).1
      rw [names_register_of_not_mem present, names_register_of_not_mem outside,
        names_restrict, List.filter_append, List.filter_cons_of_pos kept, List.filter_nil]
  · intro other
    rw [get?_restrict, get?_register, get?_register, get?_restrict]
    by_cases same : other = name
    · simp [same, kept]
    · simp [same]

private theorem restrict_register_of_not (roster : Roster α) {test : String → Bool}
    {name : String} (dropped : ¬ test name = true) (value : α) :
    (roster.register name value).restrict test = roster.restrict test := by
  apply ext_get?
  · rw [names_restrict, names_restrict]
    by_cases present : name ∈ roster.names
    · rw [names_register_of_mem present]
    · rw [names_register_of_not_mem present, List.filter_append,
        List.filter_cons_of_neg dropped, List.filter_nil, List.append_nil]
  · intro other
    rw [get?_restrict, get?_restrict, get?_register]
    by_cases same : other = name
    · simp [same, dropped]
    · simp [same]

/-- A part sees the assignments to its own names. -/
theorem restrict_assign (roster : Roster α) {test : String → Bool} {name : String}
    (kept : test name = true) (value : Option α) :
    (roster.assign name value).restrict test = (roster.restrict test).assign name value := by
  cases value with
  | some value => exact restrict_register roster kept value
  | none =>
      rw [assign, assign, remove_eq_restrict, remove_eq_restrict, restrict_restrict,
        restrict_restrict]
      simp only [Bool.and_comm]

/-- A part does not see the assignments to other names. -/
theorem restrict_assign_of_not (roster : Roster α) {test : String → Bool} {name : String}
    (dropped : ¬ test name = true) (value : Option α) :
    (roster.assign name value).restrict test = roster.restrict test := by
  cases value with
  | some value => exact restrict_register_of_not roster dropped value
  | none =>
      rw [assign, remove_eq_restrict, restrict_restrict]
      congr 1
      funext other
      by_cases same : other = name
      · simp [same, dropped]
      · simp [same]

theorem restrict_assignAll (roster : Roster α) (test : String → Bool)
    (changes : List (String × Option α)) :
    (roster.assignAll changes).restrict test =
      (roster.restrict test).assignAll (changes.filter fun change => test change.1) := by
  induction changes generalizing roster with
  | nil => rfl
  | cons change rest induction =>
      rw [assignAll, List.foldl_cons, ← assignAll, induction, List.filter_cons]
      by_cases kept : test change.1 = true
      · rw [if_pos kept, restrict_assign roster kept]
        rfl
      · rw [if_neg kept, restrict_assign_of_not roster kept]

/-! ## What a run forgets

A run that clears a name does not depend on whether or where the name stood
before: two rosters that agree on the other names become equal. -/

private theorem clears_cons (change : String × Option α) (rest : List (String × Option α))
    (name : String) :
    clears (change :: rest) name =
      ((change.2.isNone && change.1 == name) || clears rest name) :=
  List.any_cons

theorem assignAll_eq_of_restrict_eq {left right : Roster α}
    {changes : List (String × Option α)}
    (agree : (left.restrict fun name => !clears changes name) =
      right.restrict fun name => !clears changes name) :
    left.assignAll changes = right.assignAll changes := by
  induction changes generalizing left right with
  | nil =>
      change left = right
      simpa [clears, restrict_true] using agree
  | cons change rest induction =>
      obtain ⟨name, value⟩ := change
      rw [assignAll, List.foldl_cons, assignAll, List.foldl_cons]
      apply induction
      cases value with
      | some value =>
          have later : (fun other => !clears ((name, some value) :: rest) other) =
              fun other => !clears rest other := by
            funext other
            simp [clears_cons]
          rw [later] at agree
          by_cases kept : (!clears rest name) = true
          · rw [restrict_assign left kept, restrict_assign right kept, agree]
          · rw [restrict_assign_of_not left kept, restrict_assign_of_not right kept, agree]
      | none =>
          -- the removal itself makes the rosters agree on the name
          have later : (fun other => !clears ((name, none) :: rest) other) =
              fun other => (other != name) && !clears rest other := by
            funext other
            simp [clears_cons, bne, Bool.beq_comm]
          rw [later] at agree
          rw [assign, assign, remove_eq_restrict, remove_eq_restrict, restrict_restrict,
            restrict_restrict, agree]

/-! ## Running again

The names that a run never clears keep their places when it runs again, and the
names that it clears come behind all of them, in the order that the first run
has left. -/

variable {roster : Roster α} {changes : List (String × Option α)}

theorem get?_assignAll_twice (roster : Roster α) (changes : List (String × Option α))
    (name : String) :
    ((roster.assignAll changes).assignAll changes).get? name =
      (roster.assignAll changes).get? name := by
  rw [get?_assignAll, get?_assignAll]
  cases SortedMap.findIn name changes.reverse with
  | none => rfl
  | some value => rfl

private theorem isSome_of_not_clears {change : String × Option α}
    (present : change ∈ changes) (kept : clears changes change.1 = false) :
    change.2.isSome = true := by
  have spared := List.any_eq_false.mp kept change present
  simpa [Option.isSome_iff_ne_none] using spared

private theorem mem_names_assign (roster : Roster α) (assigned name : String)
    (value : Option α) :
    name ∈ (roster.assign assigned value).names ↔
      if name = assigned then value.isSome = true else name ∈ roster.names := by
  rw [← get?_isSome_iff, get?_assign, ← get?_isSome_iff]
  split <;> rfl

private theorem mem_names_assignAll_of_mem {name : String} (present : name ∈ roster.names)
    (kept : clears changes name = false) : name ∈ (roster.assignAll changes).names := by
  induction changes generalizing roster with
  | nil => exact present
  | cons change rest induction =>
      rw [clears_cons, Bool.or_eq_false_iff] at kept
      rw [assignAll, List.foldl_cons, ← assignAll]
      apply induction _ kept.2
      rw [mem_names_assign]
      split
      · next same =>
        simpa [same, ← Option.isSome_iff_ne_none, Option.ne_none_iff_isSome] using kept.1
      · exact present

/-- A run leaves a name that it assigns to and never clears. -/
theorem mem_names_assignAll {change : String × Option α} (present : change ∈ changes)
    (kept : clears changes change.1 = false) :
    change.1 ∈ (roster.assignAll changes).names := by
  induction changes generalizing roster with
  | nil => cases present
  | cons head rest induction =>
      rw [clears_cons, Bool.or_eq_false_iff] at kept
      rw [assignAll, List.foldl_cons, ← assignAll]
      rcases List.mem_cons.mp present with same | behind
      · apply mem_names_assignAll_of_mem _ kept.2
        rw [mem_names_assign, if_pos (by rw [same])]
        simpa [same] using kept.1
      · exact induction behind kept.2

private theorem names_assignAll_of_known
    (known : ∀ change ∈ changes, change.2.isSome = true ∧ change.1 ∈ roster.names) :
    (roster.assignAll changes).names = roster.names := by
  induction changes generalizing roster with
  | nil => rfl
  | cons change rest induction =>
      obtain ⟨name, value⟩ := change
      obtain ⟨registers, present⟩ := known (name, value) List.mem_cons_self
      obtain ⟨value, rfl⟩ := Option.isSome_iff_exists.mp registers
      have order : (roster.assign name (some value)).names = roster.names :=
        names_register_of_mem present value
      rw [assignAll, List.foldl_cons, ← assignAll, induction, order]
      intro other behind
      rw [order]
      exact known other (List.mem_cons_of_mem _ behind)

/-- The names that satisfy a test stand behind all others. -/
def IsSplit (roster : Roster α) (test : String → Bool) : Prop :=
  roster.names.Pairwise fun earlier later => test earlier = true → test later = true

private theorem IsSplit.assign {test : String → Bool} {name : String}
    (split : roster.IsSplit test) (value : Option α)
    (settled : test name = true ∨ name ∈ roster.names) :
    (roster.assign name value).IsSplit test := by
  cases value with
  | none =>
      rw [Roster.assign, remove_eq_restrict, IsSplit, names_restrict]
      exact List.Pairwise.filter _ split
  | some value =>
      rw [Roster.assign]
      by_cases present : name ∈ roster.names
      · rw [IsSplit, names_register_of_mem present]
        exact split
      · rw [IsSplit, names_register_of_not_mem present, List.pairwise_append]
        refine ⟨split, List.pairwise_singleton _ _, ?_⟩
        intro earlier _ later single _
        rw [List.mem_singleton.mp single]
        exact settled.resolve_right present

/-- A run keeps the names that it clears behind the others. -/
theorem IsSplit.assignAll {test : String → Bool} (split : roster.IsSplit test)
    (settled : ∀ change ∈ changes, test change.1 = false →
      change.2.isSome = true ∧ change.1 ∈ roster.names) :
    (roster.assignAll changes).IsSplit test := by
  induction changes generalizing roster with
  | nil => exact split
  | cons change rest induction =>
      rw [Roster.assignAll, List.foldl_cons, ← Roster.assignAll]
      have first := settled change List.mem_cons_self
      apply induction
      · apply split.assign
        cases tested : test change.1 with
        | true => exact Or.inl rfl
        | false => exact Or.inr (first tested).2
      · intro other present spared
        obtain ⟨registers, known⟩ := settled other (List.mem_cons_of_mem _ present) spared
        refine ⟨registers, ?_⟩
        rw [mem_names_assign]
        split
        · next same => exact (first (same ▸ spared)).1
        · exact known

/-- A roster is split by a test if and only if its two parts make it up. -/
theorem isSplit_iff {test : String → Bool} :
    roster.IsSplit test ↔
      (roster.restrict fun name => !test name).entries ++ (roster.restrict test).entries =
        roster.entries := by
  rw [IsSplit, names, List.pairwise_map]
  exact filter_append_filter_eq_iff.symm

private theorem clears_filter {name : String} (cleared : clears changes name = true) :
    clears (changes.filter fun change => clears changes change.1) name = true := by
  obtain ⟨change, present, removes⟩ := List.any_eq_true.mp cleared
  have same : change.1 = name := by
    rw [Bool.and_eq_true, beq_iff_eq] at removes
    exact removes.2
  refine List.any_eq_true.mpr ⟨change, List.mem_filter.mpr ⟨present, ?_⟩, removes⟩
  rw [same, cleared]

/-- Where a run has cleared a name, nothing is left of the roster before. -/
theorem restrict_clears_assignAll (left right : Roster α)
    (changes : List (String × Option α)) :
    (left.assignAll changes).restrict (clears changes) =
      (right.assignAll changes).restrict (clears changes) := by
  rw [restrict_assignAll, restrict_assignAll]
  apply assignAll_eq_of_restrict_eq
  have nothing : (fun name => clears changes name &&
      !clears (changes.filter fun change => clears changes change.1) name) =
        fun _ => false := by
    funext name
    cases cleared : clears changes name with
    | true => simp [clears_filter cleared]
    | false => rfl
  rw [restrict_restrict, restrict_restrict, nothing]
  apply ext
  simp [restrict]

/-- Where a run clears no name, running again changes nothing. -/
theorem restrict_not_clears_assignAll_twice (roster : Roster α)
    (changes : List (String × Option α)) :
    (((roster.assignAll changes).assignAll changes).restrict
        fun name => !clears changes name) =
      (roster.assignAll changes).restrict fun name => !clears changes name := by
  apply ext_get?
  · rw [restrict_assignAll]
    apply names_assignAll_of_known
    intro change present
    obtain ⟨inside, kept⟩ := List.mem_filter.mp present
    rw [Bool.not_eq_true'] at kept
    refine ⟨isSome_of_not_clears inside kept, ?_⟩
    rw [names_restrict]
    exact List.mem_filter.mpr ⟨mem_names_assignAll inside kept, by rw [kept]; rfl⟩
  · intro name
    rw [get?_restrict, get?_restrict, get?_assignAll_twice]

/-- A second run leaves the names behind that the run clears. -/
theorem isSplit_assignAll_twice (roster : Roster α) (changes : List (String × Option α)) :
    ((roster.assignAll changes).assignAll changes).IsSplit (clears changes) := by
  have forget : (roster.assignAll changes).assignAll changes =
      ((roster.assignAll changes).restrict fun name => !clears changes name).assignAll
        changes := by
    apply assignAll_eq_of_restrict_eq
    rw [restrict_restrict]
    simp only [Bool.and_self]
  -- so the second run may as well start without the names that it clears
  rw [forget]
  apply IsSplit.assignAll
  · rw [IsSplit, names_restrict]
    apply List.pairwise_of_forall_mem_list
    intro earlier first _ _ cleared
    simp [cleared] at first
  · intro change present kept
    refine ⟨isSome_of_not_clears present kept, ?_⟩
    rw [names_restrict]
    exact List.mem_filter.mpr ⟨mem_names_assignAll present kept, by rw [kept]; rfl⟩

/-- A second run sorts what the first one has left: the names that the run never
clears, then the others, each in the order that they had. -/
theorem entries_assignAll_twice (roster : Roster α) (changes : List (String × Option α)) :
    ((roster.assignAll changes).assignAll changes).entries =
      ((roster.assignAll changes).restrict fun name => !clears changes name).entries ++
        ((roster.assignAll changes).restrict (clears changes)).entries := by
  rw [← isSplit_iff.mp (isSplit_assignAll_twice roster changes),
    restrict_not_clears_assignAll_twice, restrict_clears_assignAll _ roster]

theorem names_assignAll_twice (roster : Roster α) (changes : List (String × Option α)) :
    ((roster.assignAll changes).assignAll changes).names =
      ((roster.assignAll changes).names.filter fun name => !clears changes name) ++
        (roster.assignAll changes).names.filter (clears changes) := by
  rw [names, entries_assignAll_twice, List.map_append, ← names, ← names, names_restrict,
    names_restrict]

/-- A second run changes nothing if and only if the first one has left the names
that the run clears behind the others. -/
theorem assignAll_twice_iff (roster : Roster α) (changes : List (String × Option α)) :
    (roster.assignAll changes).assignAll changes = roster.assignAll changes ↔
      (roster.assignAll changes).IsSplit (clears changes) := by
  constructor
  · intro same
    rw [← same]
    exact isSplit_assignAll_twice roster changes
  · intro split
    apply ext
    rw [entries_assignAll_twice]
    exact isSplit_iff.mp split

/-- A third run changes nothing. -/
theorem assignAll_thrice (roster : Roster α) (changes : List (String × Option α)) :
    ((roster.assignAll changes).assignAll changes).assignAll changes =
      (roster.assignAll changes).assignAll changes :=
  (assignAll_twice_iff (roster.assignAll changes) changes).mpr
    (isSplit_assignAll_twice roster changes)

end ScreenSight.Hunt.Roster
