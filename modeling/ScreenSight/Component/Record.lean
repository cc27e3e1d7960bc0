import ScreenSight.Component.Basic

/-!
# Components as structured data

A component is written as a record that leaves out missing boxes and empty cell sets.  Reading
supplies what was left out, puts the corners of boxes in order and the cells of sets in reading
order, and passes over fields that it does not know.
-/

namespace ScreenSight

/-- A box as the list of its coordinates. -/
def Box.toValue (box : Box) : Value :=
  .list ([box.left, box.top, box.right, box.bottom].map fun edge => .integer edge.toInt)

/-- The box between the two corners of a list. -/
def Box.ofValue? (value : Value) : Option Box := do
  match ← value.listOf? Value.coordinate? with
  | [x1, y1, x2, y2] => some (Box.ofCorners x1 y1 x2 y2)
  | _ => none

def Point.toValue (point : Point) : Value :=
  .record [("x", .integer point.x.toInt), ("y", .integer point.y.toInt)]

def Point.ofValue? (value : Value) : Option Point := do
  let field ← value.structure? ["x", "y"]
  let x ← Value.required? (field "x") Value.coordinate?
  let y ← Value.required? (field "y") Value.coordinate?
  return ⟨x, y⟩

/-- Cells as a list of points. -/
def CellSet.toValue (cells : CellSet) : Value :=
  .list (cells.toList.map Point.toValue)

/-- The set of a list of points. -/
def CellSet.ofValue? (value : Value) : Option CellSet :=
  (value.listOf? Point.ofValue?).map SortedSet.ofList

def Properties.toValue (properties : Properties) : Value :=
  .record properties.toList

def Properties.ofValue? (value : Value) : Option Properties :=
  value.fields?.map SortedMap.ofList

namespace Component

def fieldNames : List String :=
  ["id", "type", "bounding_box", "refined_bounding_box", "boundary", "interior", "properties"]

/-- A box as a field, unless it is missing. -/
def boxField (name : String) (box : Option Box) : List (String × Value) :=
  box.toList.map fun box => (name, box.toValue)

/-- A cell set as a field, unless it is empty. -/
def cellsField (name : String) (cells : CellSet) : List (String × Value) :=
  if cells.isEmpty then [] else [(name, cells.toValue)]

def toValue (component : Component) : Value :=
  .record
    ([("id", .text component.id), ("type", .text component.kind)] ++
      boxField "bounding_box" component.box ++
      boxField "refined_bounding_box" component.refinedBox ++
      cellsField "boundary" component.boundary ++
      cellsField "interior" component.interior ++
      [("properties", component.properties.toValue)])

def ofValue? (value : Value) : Option Component := do
  let field ← value.structure? fieldNames
  let id ← Value.required? (field "id") Value.text?
  let kind ← Value.withDefault? (field "type") Value.text? unclassified
  let box ← Value.withDefault? (field "bounding_box") (Value.nullable? Box.ofValue?) none
  let refinedBox ←
    Value.withDefault? (field "refined_bounding_box") (Value.nullable? Box.ofValue?) none
  let boundary ← Value.withDefault? (field "boundary") CellSet.ofValue? SortedSet.empty
  let interior ← Value.withDefault? (field "interior") CellSet.ofValue? SortedSet.empty
  let properties ← Value.withDefault? (field "properties") Properties.ofValue? SortedMap.empty
  return ⟨id, kind, box, refinedBox, boundary, interior, properties⟩

end Component

end ScreenSight
