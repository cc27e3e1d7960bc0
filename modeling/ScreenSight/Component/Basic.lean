import ScreenSight.Geometry.Box
import ScreenSight.Ordered.Map
import ScreenSight.Ordered.Set
import ScreenSight.Value

/-!
# Components

A component is an element of a user interface that has been found on the screen.  Its geometry is a
box, which a later analysis may have refined, and the cells of its border and of its inside, which
can be derived from the box where they were not recorded.
-/

namespace ScreenSight

/-- A set of cells, listed in reading order. -/
abbrev CellSet := SortedSet Point

/-- What is known about a component beside its geometry. -/
abbrev Properties := SortedMap String Value

/-- The type of a component that no pattern has classified. -/
def unclassified : String := "unknown"

/-- An element of a user interface, with the cells of its border and of what is inside as far as
they were recorded.  A refined box is preferred to the one it was detected in. -/
structure Component where
  id : String
  kind : String := unclassified
  box : Option Box := none
  refinedBox : Option Box := none
  boundary : CellSet := SortedSet.empty
  interior : CellSet := SortedSet.empty
  properties : Properties := SortedMap.empty
  deriving Inhabited

namespace Component

/-- The box that counts. -/
def effectiveBox (component : Component) : Option Box :=
  component.refinedBox.or component.box

/-- The recorded cells of the border, or else the edge of the box. -/
def boundaryCells (component : Component) : CellSet :=
  if component.boundary.isEmpty then
    match component.effectiveBox with
    | some box => SortedSet.ofList box.perimeter
    | none => SortedSet.empty
  else component.boundary

/-- The recorded cells of the inside, or else the cells of the box off the border. -/
def interiorCells (component : Component) : CellSet :=
  if component.interior.isEmpty then
    match component.effectiveBox with
    | some box =>
        let boundary := component.boundaryCells
        SortedSet.ofList (box.cells.filter fun cell => !boundary.contains cell)
    | none => SortedSet.empty
  else component.interior

def property? (component : Component) (name : String) : Option Value :=
  component.properties.get? name

/-- Set a property, in place of any earlier value. -/
def setProperty (component : Component) (name : String) (value : Value) : Component :=
  { component with properties := component.properties.insert name value }

end Component

end ScreenSight
