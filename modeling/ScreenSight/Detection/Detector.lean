import ScreenSight.Component.Basic
import ScreenSight.Grid.Basic

/-!
# Detectors

A detector looks for shapes of one sort on a grid.  It is told which cells belong to the borders of
components that were found before, and reports components that have no id yet.
-/

namespace ScreenSight

/-- How certain a detection is. -/
inductive Confidence where
  | low
  | medium
  | high
  deriving DecidableEq, Inhabited

def Confidence.name : Confidence → String
  | low => "low"
  | medium => "medium"
  | high => "high"

/-- A component that was found, still without an id. -/
structure Detected where
  component : Component
  confidence : Confidence
  deriving Inhabited

/-- A way of finding components on a grid some cells of which are claimed.  Detectors of higher
priority go first, and give their names to the ids. -/
structure Detector where
  name : String
  priority : Nat
  isEnabled : Bool := true
  detect : Grid → CellSet → List Detected

namespace Detector

def cellComponent (point : Point) : Component :=
  { id := "", box := some (Box.ofPoint point), boundary := SortedSet.ofList [point] }

/-- A detector that reports given cells, as far as they lie on the grid and are not claimed. -/
def ofCells (name : String) (priority : Nat) (isEnabled : Bool) (cells : List Point) :
    Detector where
  name := name
  priority := priority
  isEnabled := isEnabled
  detect grid claimed :=
    (cells.filter fun cell => grid.contains cell.x cell.y && !claimed.contains cell).map
      fun cell => ⟨cellComponent cell, .high⟩

end Detector

end ScreenSight
