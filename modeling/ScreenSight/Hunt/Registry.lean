import ScreenSight.Hunt.Pattern
import ScreenSight.Hunt.Roster

/-!
# The registry of patterns

A registry has a roster of names for each kind of pattern, independent of one another.
-/

namespace ScreenSight.Hunt

/-- The kinds of patterns. -/
inductive PatternKind where
  | tracking
  | extraction
  | component
  | relationship
  deriving DecidableEq, Inhabited

def PatternKind.ofName? : String → Option PatternKind
  | "tracking" => some tracking
  | "extraction" => some extraction
  | "component" => some component
  | "relationship" => some relationship
  | _ => none

/-- The patterns of a session under their names. -/
structure Registry where
  tracking : Roster TrackingPattern := Roster.empty
  extraction : Roster ExtractionPattern := Roster.empty
  component : Roster ComponentPattern := Roster.empty
  relationship : Roster RelationshipPattern := Roster.empty
  deriving Inhabited

/-- The patterns that one block defines. -/
structure Definition where
  tracking : TrackingPattern
  extraction : Option ExtractionPattern
  component : Option ComponentPattern
  relationship : Option RelationshipPattern
  deriving Inhabited

def Definition.name (definition : Definition) : String :=
  definition.tracking.name

namespace Registry

/-- The registry without patterns. -/
def empty : Registry := {}

def names (registry : Registry) : PatternKind → List String
  | .tracking => registry.tracking.names
  | .extraction => registry.extraction.names
  | .component => registry.component.names
  | .relationship => registry.relationship.names

/-- The number of patterns of all kinds. -/
def size (registry : Registry) : Nat :=
  registry.tracking.size + registry.extraction.size + registry.component.size +
    registry.relationship.size

/-- Whether there are no patterns. -/
def isEmpty (registry : Registry) : Bool :=
  registry.size == 0

def contains (registry : Registry) (kind : PatternKind) (name : String) : Bool :=
  (registry.names kind).contains name

def remove (registry : Registry) (kind : PatternKind) (name : String) : Registry :=
  match kind with
  | .tracking => { registry with tracking := registry.tracking.remove name }
  | .extraction => { registry with extraction := registry.extraction.remove name }
  | .component => { registry with component := registry.component.remove name }
  | .relationship => { registry with relationship := registry.relationship.remove name }

/-- Register what stands under one name, if anything, under another name too. -/
def copyIn {α : Type} (roster : Roster α) (name other : String) : Roster α :=
  match roster.get? name with
  | some value => roster.register other value
  | none => roster

/-- Register the pattern of a kind under another name too. -/
def copy (registry : Registry) (kind : PatternKind) (name other : String) : Registry :=
  match kind with
  | .tracking => { registry with tracking := copyIn registry.tracking name other }
  | .extraction => { registry with extraction := copyIn registry.extraction name other }
  | .component => { registry with component := copyIn registry.component name other }
  | .relationship => { registry with relationship := copyIn registry.relationship name other }

/-- Register the patterns of a block under its name.  Kinds that it does not define lose what stood
under the name before. -/
def install (registry : Registry) (definition : Definition) : Registry where
  tracking := registry.tracking.register definition.name definition.tracking
  extraction := registry.extraction.assign definition.name definition.extraction
  component := registry.component.assign definition.name definition.component
  relationship := registry.relationship.assign definition.name definition.relationship

end Registry

end ScreenSight.Hunt
