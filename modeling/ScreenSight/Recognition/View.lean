import ScreenSight.Component.Basic
import ScreenSight.Grid.Basic

/-!
# Views of components

Patterns do not see where a component lies, only the symbols of its border and the text inside.
-/

namespace ScreenSight

/-- What a pattern sees of a component: the characters of the border and the text inside. -/
structure ComponentView where
  symbols : SortedSet Char
  text : String
  deriving DecidableEq

def Grid.view (grid : Grid) (component : Component) : ComponentView :=
  ⟨grid.symbolsAt component.boundaryCells, grid.textAt component.interiorCells⟩

end ScreenSight
