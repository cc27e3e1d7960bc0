import ScreenSight.Containment.Pairs
import ScreenSight.Settings.Basic

/-!
# The hierarchy of containment

The analysis records a relationship for each pair of nested components and writes the result into
the components too: a container lists its children, and a component names its parent, which is its
tightest container.  On request only the pairs of parents and children are kept.
-/

namespace ScreenSight

/-- How containment is analysed: with an index of which bucket size, and whether only the tightest
container of each component is kept. -/
structure ContainmentAnalyzer where
  cellSize : Nat := defaultCellSize
  cellSize_pos : 0 < cellSize := by decide
  directOnly : Bool := false

namespace Containment

/-- The property of a container. -/
def childrenProperty : String := "children"

/-- The property of a component in a container. -/
def parentProperty : String := "parent"

def areaAt (components : List Component) (position : Nat) : Int :=
  ((boxAt? components position).map Box.area).getD Box.areaLimit

/-- Whether a container is tighter than another one: smaller, or else earlier. -/
def isTighter (components : List Component) (position other : Nat) : Bool :=
  areaAt components position < areaAt components other ||
    (areaAt components position == areaAt components other && decide (position < other))

def tightest? (components : List Component) (containers : List Nat) : Option Nat :=
  containers.foldl
    (fun found position =>
      match found with
      | none => some position
      | some current => if isTighter components position current then some position else found)
    none

/-- The containers of a position. -/
def containersOf (pairs : List (Nat × Nat)) (inner : Nat) : List Nat :=
  (pairs.filter fun pair => pair.2 == inner).map Prod.fst

/-- What the component at a position contains. -/
def contentsOf (pairs : List (Nat × Nat)) (outer : Nat) : List Nat :=
  (pairs.filter fun pair => pair.1 == outer).map Prod.snd

/-- The tightest container of each position. -/
def parents (components : List Component) (pairs : List (Nat × Nat)) : List (Option Nat) :=
  (List.range components.length).map fun inner =>
    tightest? components (containersOf pairs inner)

def idAt (components : List Component) (position : Nat) : String :=
  (components[position]?.map Component.id).getD ""

/-- Add the relationships of some pairs to a model. -/
def relateAll (model : Model) (pairs : List (Nat × Nat)) : Model :=
  pairs.foldl
    (fun current (outer, inner) =>
      match Relationship.contains? (idAt model.components outer) (idAt model.components inner) with
      | some relationship => current.relate relationship
      | none => current)
    model

/-- Write the children of a component, if there are any. -/
def writeChildren (ids : List String) (component : Component) : Component :=
  if ids.isEmpty then component else component.setProperty childrenProperty (Value.ofTexts ids)

def writeParent (id : Option String) (component : Component) : Component :=
  match id with
  | some id => component.setProperty parentProperty (.text id)
  | none => component

/-- Write children and parents into some components. -/
def annotate (components : List Component) (pairs : List (Nat × Nat))
    (parents : List (Option Nat)) : List Component :=
  components.mapIdx fun position component =>
    writeParent (parents[position]?.join.map (idAt components))
      (writeChildren ((contentsOf pairs position).map (idAt components)) component)

end Containment

namespace ContainmentAnalyzer

instance : Inhabited ContainmentAnalyzer := ⟨{}⟩

/-- The analyzer of some settings. -/
def ofSettings (settings : ContainmentSettings) (cellSize : Nat) :
    Except Failure ContainmentAnalyzer :=
  if positive : 0 < cellSize then .ok ⟨cellSize, positive, settings.directOnly⟩
  else .error (.configuration "cell_size must be at least 1")

/-- The pairs of nested components. -/
def pairs (analyzer : ContainmentAnalyzer) (model : Model) : List (Nat × Nat) :=
  Containment.pairs model.components analyzer.cellSize analyzer.cellSize_pos

/-- Add the containment of its components to a model. -/
def analyze (analyzer : ContainmentAnalyzer) (model : Model) : Model :=
  let pairs := analyzer.pairs model
  let parents := Containment.parents model.components pairs
  let kept :=
    if analyzer.directOnly then
      pairs.filter fun (outer, inner) => parents[inner]?.join == some outer
    else pairs
  { Containment.relateAll model kept with
    components := Containment.annotate model.components kept parents }

end ContainmentAnalyzer

end ScreenSight
