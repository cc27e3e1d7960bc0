/-!
# Rosters

A roster holds named things in the order in which the names were registered.  Registering a name
again exchanges what it stands for and keeps its place; a name that was removed comes back at the
end.
-/

namespace ScreenSight.Hunt

/-- Named things in order, each name once. -/
structure Roster (α : Type) where
  entries : List (String × α)
  distinct : (entries.map Prod.fst).Nodup

namespace Roster

variable {α : Type}

theorem ext {left right : Roster α} (same : left.entries = right.entries) : left = right := by
  cases left
  cases right
  cases same
  rfl

/-- The roster without names. -/
def empty : Roster α :=
  ⟨[], List.nodup_nil⟩

instance : Inhabited (Roster α) := ⟨empty⟩

def names (roster : Roster α) : List String :=
  roster.entries.map Prod.fst

/-- What the names stand for, in order. -/
def values (roster : Roster α) : List α :=
  roster.entries.map Prod.snd

/-- The number of names. -/
def size (roster : Roster α) : Nat :=
  roster.entries.length

def get? (roster : Roster α) (name : String) : Option α :=
  (roster.entries.find? fun entry => entry.1 == name).map Prod.snd

def contains (roster : Roster α) (name : String) : Bool :=
  roster.names.contains name

/-- Exchange what a name stands for. -/
def replaceIn (name : String) (value : α) (entries : List (String × α)) : List (String × α) :=
  entries.map fun entry => if entry.1 = name then (name, value) else entry

theorem names_replaceIn (name : String) (value : α) (entries : List (String × α)) :
    (replaceIn name value entries).map Prod.fst = entries.map Prod.fst := by
  simp only [replaceIn, List.map_map]
  apply List.map_congr_left
  intro entry _
  simp only [Function.comp_apply]
  split
  · next same => exact same.symm
  · rfl

/-- Register a thing under a name. -/
def register (roster : Roster α) (name : String) (value : α) : Roster α :=
  if known : roster.contains name = true then
    { entries := replaceIn name value roster.entries
      distinct := by
        rw [names_replaceIn]
        exact roster.distinct }
  else
    { entries := roster.entries ++ [(name, value)]
      distinct := by
        have absent : name ∉ roster.entries.map Prod.fst := by
          simpa [contains, names] using known
        rw [List.map_append, List.nodup_append]
        refine ⟨roster.distinct, by simp, ?_⟩
        intro other present _ single
        rw [List.map_singleton, List.mem_singleton] at single
        subst single
        exact fun same => absent (same ▸ present) }

def remove (roster : Roster α) (name : String) : Roster α :=
  { entries := roster.entries.filter fun entry => entry.1 != name
    distinct := (List.Sublist.map Prod.fst List.filter_sublist).nodup roster.distinct }

/-- Register a thing under a name, or remove the name if there is none. -/
def assign (roster : Roster α) (name : String) : Option α → Roster α
  | some value => roster.register name value
  | none => roster.remove name

end Roster

end ScreenSight.Hunt
