import ScreenSight.Proofs.Hunt.Registry

/-!
# Recorded lines

A tracking pattern records the line of its block, and this is all that it keeps of
the place.  Installing blocks that stand some lines further down therefore leaves
the registry that they leave at their old place, but for the lines recorded under
their names.
-/

namespace ScreenSight.Hunt

namespace Roster

variable {α : Type}

/-- Exchange what each name stands for. -/
def mapNamed (roster : Roster α) (change : String → α → α) : Roster α where
  entries := roster.entries.map fun entry => (entry.1, change entry.1 entry.2)
  distinct := by
    rw [List.map_map]
    exact roster.distinct

theorem names_mapNamed (roster : Roster α) (change : String → α → α) :
    (roster.mapNamed change).names = roster.names :=
  List.map_map

theorem get?_mapNamed (roster : Roster α) (change : String → α → α) (name : String) :
    (roster.mapNamed change).get? name = (roster.get? name).map (change name) := by
  change SortedMap.findIn name (roster.entries.map _) = (SortedMap.findIn name _).map _
  induction roster.entries with
  | nil => rfl
  | cons entry rest induction =>
      rw [List.map_cons, SortedMap.findIn_cons, SortedMap.findIn_cons, induction]
      by_cases same : entry.1 = name
      · rw [if_pos same, if_pos same, same]
        rfl
      · rw [if_neg same, if_neg same]

theorem mapNamed_eq_self {change : String → α → α} (keeps : ∀ name value, change name value = value)
    (roster : Roster α) : roster.mapNamed change = roster := by
  apply ext_get? (names_mapNamed roster change)
  intro name
  rw [get?_mapNamed, funext (keeps name)]
  exact Option.map_id'

theorem names_register (roster : Roster α) (name : String) (value : α) :
    (roster.register name value).names =
      if name ∈ roster.names then roster.names else roster.names ++ [name] := by
  by_cases present : name ∈ roster.names
  · rw [names_register_of_mem present, if_pos present]
  · rw [names_register_of_not_mem present, if_neg present]

/-- Registering a name decides anew how what stands under that name is exchanged. -/
theorem register_mapNamed {before after : String → α → α} {name : String} {value changed : α}
    (others : ∀ other, other ≠ name → before other = after other)
    (last : after name value = changed) (roster : Roster α) :
    (roster.mapNamed before).register name changed =
      (roster.register name value).mapNamed after := by
  apply ext_get?
  · rw [names_mapNamed, names_register, names_register, names_mapNamed]
  · intro other
    rw [get?_mapNamed, get?_register, get?_register, get?_mapNamed]
    by_cases same : other = name
    · rw [if_pos same, if_pos same, same, ← last]
      rfl
    · rw [if_neg same, if_neg same, others other same]

end Roster

/-- The pattern of the same block some lines further down. -/
def TrackingPattern.moveDown (pattern : TrackingPattern) (lines : Nat) : TrackingPattern :=
  { pattern with line := pattern.line + lines }

/-- Move a pattern down if it stands under one of some names. -/
def TrackingPattern.moveDownIn (names : List String) (lines : Nat) (name : String)
    (pattern : TrackingPattern) : TrackingPattern :=
  if name ∈ names then pattern.moveDown lines else pattern

/-- The patterns of the same block some lines further down. -/
def Definition.moveDown (definition : Definition) (lines : Nat) : Definition :=
  { definition with tracking := definition.tracking.moveDown lines }

namespace Registry

/-- The same patterns, some of which are tracked some lines further down. -/
def moveDown (registry : Registry) (names : List String) (lines : Nat) : Registry :=
  { registry with
    tracking := registry.tracking.mapNamed (TrackingPattern.moveDownIn names lines) }

theorem moveDown_nil (registry : Registry) (lines : Nat) :
    registry.moveDown [] lines = registry := by
  rw [moveDown, Roster.mapNamed_eq_self]
  intro name pattern
  exact if_neg List.not_mem_nil

theorem install_moveDown (registry : Registry) (names : List String) (definition : Definition)
    (lines : Nat) :
    (registry.moveDown names lines).install (definition.moveDown lines) =
      (registry.install definition).moveDown (names ++ [definition.name]) lines := by
  have others : ∀ other, other ≠ definition.name →
      TrackingPattern.moveDownIn names lines other =
        TrackingPattern.moveDownIn (names ++ [definition.name]) lines other := by
    intro other differs
    funext pattern
    simp only [TrackingPattern.moveDownIn, List.mem_append, List.mem_singleton, differs, or_false]
  have last : TrackingPattern.moveDownIn (names ++ [definition.name]) lines definition.name
      definition.tracking = definition.tracking.moveDown lines :=
    if_pos (List.mem_append_right names List.mem_cons_self)
  have tracked := Roster.register_mapNamed others last registry.tracking
  rw [moveDown, moveDown, install, install, ← tracked]
  rfl

theorem installAll_append (registry : Registry) (definitions others : List Definition) :
    registry.installAll (definitions ++ others) =
      (registry.installAll definitions).installAll others :=
  List.foldl_append

/-- Blocks that stand some lines further down leave the same patterns, in the same
order, tracked on lines that are so many further down. -/
theorem installAll_moveDown (registry : Registry) (names : List String)
    (definitions : List Definition) (lines : Nat) :
    (registry.moveDown names lines).installAll
        (definitions.map fun definition => definition.moveDown lines) =
      (registry.installAll definitions).moveDown (names ++ definitions.map Definition.name)
        lines := by
  induction definitions generalizing registry names with
  | nil =>
      rw [List.map_nil, List.map_nil, List.append_nil]
      rfl
  | cons definition rest induction =>
      have installed := induction (registry.install definition) (names ++ [definition.name])
      rw [List.append_assoc, ← install_moveDown] at installed
      exact installed

end Registry

end ScreenSight.Hunt
