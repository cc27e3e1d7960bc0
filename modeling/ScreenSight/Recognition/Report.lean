import ScreenSight.Detection.Pipeline
import ScreenSight.Recognition.Processor

/-!
# Recognising a grid

Recognition finds the components of a grid and performs one pass on them.
-/

namespace ScreenSight

/-- What the recognition of a grid has found. -/
structure Report where
  width : Nat
  height : Nat
  components : List Component
  relationships : List Relationship
  classification : List Classification
  scents : List Scent

namespace Report

def toValue (report : Report) : Value :=
  .record [
    ("grid", .record [("width", .integer report.width), ("height", .integer report.height)]),
    ("components", .list (report.components.map Component.toValue)),
    ("relationships", .list (report.relationships.map Relationship.toValue)),
    ("classification", .list (report.classification.map Classification.toValue)),
    ("scents", .list (report.scents.map Scent.toValue))]

end Report

/-- Recognise the components of a grid by some hunt sources. -/
def recognize (grid : Grid) (sources : List String) (settings : Settings) :
    Except Failure Report := do
  let processor ← Processor.ofSettings settings
  let context :=
    { Context.ofComponents (Pipeline.standard.detect grid) with sources := sources }
  let pass := processor.process (some grid) context
  let components ← pass.result
  return {
    width := grid.width
    height := grid.height
    components := components
    relationships := pass.context.relationships
    classification := pass.context.classification
    scents := pass.context.scents }

end ScreenSight
