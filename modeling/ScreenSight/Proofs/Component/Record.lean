import ScreenSight.Component.Record
import ScreenSight.Proofs.Failure
import ScreenSight.Proofs.Geometry.Cells
import ScreenSight.Proofs.Ordered.Map
import ScreenSight.Proofs.Ordered.Set

/-!
# Reading components back

A value depicts a component if its fields say what the component is: some of them may be
missing, the corners of a box may come in any order, and so may the cells of a set, with
repetitions.  Reading accepts exactly the values that depict a component, and writing makes
one of them, so a component is read back as it was.
-/

namespace ScreenSight

/-! ## Readers of values -/

namespace Value

theorem text?_eq_some_iff {value : Value} {text : String} :
    value.text? = some text ↔ value = .text text := by
  cases value <;> simp [text?]

theorem coordinate?_eq_some_iff {value : Value} {coordinate : Coordinate} :
    value.coordinate? = some coordinate ↔ value = .integer coordinate.toInt := by
  rw [coordinate?]
  cases value with
  | integer number =>
      rw [integer?, Option.bind_some, Coordinate.ofInt?_eq_some_iff, integer.injEq, eq_comm]
  | _ => simp [integer?]

theorem fields?_eq_some_iff {value : Value} {fields : List (String × Value)} :
    value.fields? = some fields ↔ value = .record fields := by
  cases value <;> simp [fields?]

theorem listOf?_eq_some_iff {α : Type} {read : Value → Option α} {value : Value}
    {results : List α} :
    value.listOf? read = some results ↔
      ∃ items, value = .list items ∧
        List.Forall₂ (fun item result => read item = some result) items results := by
  cases value <;> simp [listOf?, items?, mapM_eq_some_iff]

theorem withDefault?_eq_some_iff {α : Type} {field : Option Value} {read : Value → Option α}
    {default result : α} :
    withDefault? field read default = some result ↔
      (∃ value, field = some value ∧ read value = some result) ∨
        field = none ∧ result = default := by
  cases field <;> simp [withDefault?, eq_comm]

theorem nullable?_eq_some_iff {α : Type} {read : Value → Option α} {value : Value}
    {result : Option α} :
    value.nullable? read = some result ↔
      value = .null ∧ result = none ∨
        value ≠ .null ∧ ∃ found, read value = some found ∧ result = some found := by
  cases value <;> simp [nullable?, eq_comm]

end Value

/-! ## What depicts a component -/

/-- A value depicts a point by its two coordinates. -/
def Point.Depicted (value : Value) (point : Point) : Prop :=
  ∃ field, value.structure? ["x", "y"] = some field ∧
    field "x" = some (.integer point.x.toInt) ∧ field "y" = some (.integer point.y.toInt)

/-- A box has two cells as opposite corners. -/
structure Box.Spans (box : Box) (x1 y1 x2 y2 : Coordinate) : Prop where
  left : box.left.toInt = min x1.toInt x2.toInt
  right : box.right.toInt = max x1.toInt x2.toInt
  top : box.top.toInt = min y1.toInt y2.toInt
  bottom : box.bottom.toInt = max y1.toInt y2.toInt

/-- What may stand in a field for a box: nothing, null, or two opposite corners. -/
inductive Box.Depicted : Option Value → Option Box → Prop where
  | missing : Depicted none none
  | null : Depicted (some .null) none
  | corners {x1 y1 x2 y2 : Coordinate} {box : Box} (spans : box.Spans x1 y1 x2 y2) :
      Depicted
        (some (.list [.integer x1.toInt, .integer y1.toInt, .integer x2.toInt, .integer y2.toInt]))
        (some box)

/-- What may stand in a field for some cells: nothing if there are none, or a list of them in
any order, with repetitions. -/
inductive CellSet.Depicted : Option Value → CellSet → Prop where
  | missing : Depicted none SortedSet.empty
  | points {items : List Value} {points : List Point} {cells : CellSet}
      (shown : List.Forall₂ Point.Depicted items points)
      (same : ∀ point, point ∈ cells ↔ point ∈ points) :
      Depicted (some (.list items)) cells

/-- What may stand in a field for properties: nothing if there are none, or a record, of which
the last field of a name counts. -/
inductive Properties.Depicted : Option Value → Properties → Prop where
  | missing : Depicted none SortedMap.empty
  | record {fields : List (String × Value)} {properties : Properties}
      (same : ∀ name, properties.get? name = SortedMap.findIn name fields.reverse) :
      Depicted (some (.record fields)) properties

/-- What fields depict a component.  Fields of other names do not matter. -/
structure Component.Depicted (field : String → Option Value) (component : Component) : Prop where
  id : field "id" = some (.text component.id)
  kind : field "type" = some (.text component.kind) ∨
    field "type" = none ∧ component.kind = unclassified
  box : Box.Depicted (field "bounding_box") component.box
  refinedBox : Box.Depicted (field "refined_bounding_box") component.refinedBox
  boundary : CellSet.Depicted (field "boundary") component.boundary
  interior : CellSet.Depicted (field "interior") component.interior
  properties : Properties.Depicted (field "properties") component.properties

/-! ## Reading accepts what depicts a component -/

theorem Point.ofValue?_eq_some_iff {value : Value} {point : Point} :
    Point.ofValue? value = some point ↔ point.Depicted value := by
  obtain ⟨x, y⟩ := point
  simp only [Point.ofValue?, Point.Depicted, Value.required?, Option.bind_eq_bind,
    Option.bind_eq_some_iff, Value.coordinate?_eq_some_iff, Option.pure_def, Option.some.injEq,
    Point.mk.injEq]
  constructor
  · intro read
    obtain ⟨field, offered, _, ⟨_, column, rfl⟩, _, ⟨_, row, rfl⟩, rfl, rfl⟩ := read
    exact ⟨field, offered, column, row⟩
  · intro depicted
    obtain ⟨field, offered, column, row⟩ := depicted
    exact ⟨field, offered, x, ⟨_, column, rfl⟩, y, ⟨_, row, rfl⟩, rfl, rfl⟩

theorem Box.spans_iff {box : Box} {x1 y1 x2 y2 : Coordinate} :
    box.Spans x1 y1 x2 y2 ↔ box = Box.ofCorners x1 y1 x2 y2 := by
  obtain ⟨left, top, right, bottom, columns, rows⟩ := box
  simp only [Box.ofCorners, Box.mk.injEq, ← Int32.toInt_inj, Coordinate.toInt_min,
    Coordinate.toInt_max]
  constructor
  · intro spans
    exact ⟨spans.left, spans.top, spans.right, spans.bottom⟩
  · intro edges
    obtain ⟨left, top, right, bottom⟩ := edges
    exact ⟨left, right, top, bottom⟩

theorem Box.ofValue?_eq_some_iff {value : Value} {box : Box} :
    Box.ofValue? value = some box ↔ ∃ x1 y1 x2 y2 : Coordinate,
      value = .list [.integer x1.toInt, .integer y1.toInt, .integer x2.toInt, .integer y2.toInt] ∧
        box.Spans x1 y1 x2 y2 := by
  simp only [Box.spans_iff, Box.ofValue?, Option.bind_eq_bind, Option.bind_eq_some_iff,
    Value.listOf?_eq_some_iff, Value.coordinate?_eq_some_iff]
  constructor
  · intro read
    obtain ⟨corners, ⟨items, rfl, shown⟩, made⟩ := read
    split at made
    · simp only [List.forall₂_cons_right_iff, List.forall₂_nil_right_iff] at shown
      obtain ⟨_, _, rfl, ⟨_, _, rfl, ⟨_, _, rfl, ⟨_, _, rfl, rfl, rfl⟩, rfl⟩, rfl⟩, rfl⟩ := shown
      exact ⟨_, _, _, _, rfl, (Option.some.inj made).symm⟩
    · cases made
  · intro depicted
    obtain ⟨x1, y1, x2, y2, rfl, rfl⟩ := depicted
    exact ⟨[x1, y1, x2, y2], ⟨_, rfl, by simp⟩, rfl⟩

theorem Box.read_eq_some_iff {field : Option Value} {box : Option Box} :
    Value.withDefault? field (Value.nullable? Box.ofValue?) none = some box ↔
      Box.Depicted field box := by
  rw [Value.withDefault?_eq_some_iff]
  simp only [Value.nullable?_eq_some_iff, Box.ofValue?_eq_some_iff]
  constructor
  · intro read
    obtain ⟨_, rfl, ⟨rfl, rfl⟩ | ⟨_, _, ⟨_, _, _, _, rfl, spans⟩, rfl⟩⟩ | ⟨rfl, rfl⟩ := read
    · exact .null
    · exact .corners spans
    · exact .missing
  · intro depicted
    cases depicted with
    | missing => exact .inr ⟨rfl, rfl⟩
    | null => exact .inl ⟨_, rfl, .inl ⟨rfl, rfl⟩⟩
    | corners spans =>
        exact .inl ⟨_, rfl, .inr ⟨nofun, _, ⟨_, _, _, _, rfl, spans⟩, rfl⟩⟩

theorem CellSet.read_eq_some_iff {field : Option Value} {cells : CellSet} :
    Value.withDefault? field CellSet.ofValue? SortedSet.empty = some cells ↔
      CellSet.Depicted field cells := by
  rw [Value.withDefault?_eq_some_iff]
  simp only [CellSet.ofValue?, Option.map_eq_some_iff, Value.listOf?_eq_some_iff,
    Point.ofValue?_eq_some_iff]
  constructor
  · intro read
    obtain ⟨_, rfl, points, ⟨items, rfl, shown⟩, rfl⟩ | ⟨rfl, rfl⟩ := read
    · exact .points shown fun _ => SortedSet.mem_ofList
    · exact .missing
  · intro depicted
    cases depicted with
    | missing => exact .inr ⟨rfl, rfl⟩
    | points shown same =>
        refine .inl ⟨_, rfl, _, ⟨_, rfl, shown⟩, ?_⟩
        apply SortedSet.ext_mem
        intro point
        rw [SortedSet.mem_ofList, same]

theorem Properties.read_eq_some_iff {field : Option Value} {properties : Properties} :
    Value.withDefault? field Properties.ofValue? SortedMap.empty = some properties ↔
      Properties.Depicted field properties := by
  have look (fields : List (String × Value)) (name : String) :
      (SortedMap.ofList fields).get? name = SortedMap.findIn name fields.reverse := by
    have written := SortedMap.get?_insertAll SortedMap.empty fields name
    rwa [SortedMap.get?_empty, Option.or_none] at written
  rw [Value.withDefault?_eq_some_iff]
  simp only [Properties.ofValue?, Option.map_eq_some_iff, Value.fields?_eq_some_iff]
  constructor
  · intro read
    obtain ⟨_, rfl, fields, rfl, rfl⟩ | ⟨rfl, rfl⟩ := read
    · exact .record (look fields)
    · exact .missing
  · intro depicted
    cases depicted with
    | missing => exact .inr ⟨rfl, rfl⟩
    | record same =>
        refine .inl ⟨_, rfl, _, rfl, ?_⟩
        apply SortedMap.ext_get?
        intro name
        rw [look, same]

namespace Component

variable {value : Value} {component : Component}

/-- Reading accepts exactly what depicts a component. -/
theorem ofValue?_eq_some_iff :
    ofValue? value = some component ↔
      ∃ field, value.structure? fieldNames = some field ∧ component.Depicted field := by
  simp only [ofValue?, Value.required?, Option.bind_eq_bind, Option.bind_eq_some_iff,
    Value.text?_eq_some_iff, Box.read_eq_some_iff, CellSet.read_eq_some_iff,
    Properties.read_eq_some_iff, Option.pure_def, Option.some.injEq]
  constructor
  · intro read
    obtain ⟨field, offered, id, ⟨_, named, rfl⟩, kind, typed, box, boxed, refinedBox, refined,
      boundary, bordered, interior, filled, properties, described, rfl⟩ := read
    refine ⟨field, offered, named, ?_, boxed, refined, bordered, filled, described⟩
    rw [Value.withDefault?_eq_some_iff] at typed
    simpa only [Value.text?_eq_some_iff, exists_eq_right] using typed
  · intro depicted
    obtain ⟨field, offered, named, typed, boxed, refined, bordered, filled, described⟩ := depicted
    refine ⟨field, offered, component.id, ⟨_, named, rfl⟩, component.kind, ?_, _, boxed, _, refined,
      _, bordered, _, filled, _, described, rfl⟩
    rw [Value.withDefault?_eq_some_iff]
    simpa only [Value.text?_eq_some_iff, exists_eq_right] using typed

/-! ## Writing depicts the component -/

theorem find?_boxField_of_ne {name other : String} (differ : name ≠ other) (box : Option Box) :
    (boxField name box).find? (fun field => field.1 == other) = none := by
  cases box <;> simp [boxField, differ]

theorem find?_cellsField_of_ne {name other : String} (differ : name ≠ other) (cells : CellSet) :
    (cellsField name cells).find? (fun field => field.1 == other) = none := by
  unfold cellsField
  split <;> simp [differ]

theorem depicted_boxField (name : String) (box : Option Box) :
    Box.Depicted (((boxField name box).find? fun field => field.1 == name).map Prod.snd) box := by
  cases box with
  | none => exact .missing
  | some box =>
      have spans := Box.spans_iff.mpr box.ofCorners_self.symm
      simpa [boxField, Box.toValue] using Box.Depicted.corners spans

theorem depicted_cellsField (name : String) (cells : CellSet) :
    CellSet.Depicted (((cellsField name cells).find? fun field => field.1 == name).map Prod.snd)
      cells := by
  unfold cellsField
  split
  · next empty =>
      have same : cells = SortedSet.empty := SortedSet.ext (List.isEmpty_iff.mp empty)
      rw [same]
      exact .missing
  · have points : CellSet.Depicted (some cells.toValue) cells := by
      refine .points ?_ fun _ => SortedSet.mem_def
      rw [List.forall₂_map_left_iff, List.forall₂_same]
      intro point _
      exact ⟨_, rfl, rfl, rfl⟩
    simpa using points

theorem depicted_toValue (properties : Properties) :
    Properties.Depicted (some properties.toValue) properties := by
  refine .record fun name => ?_
  rw [SortedMap.findIn_reverse properties.keys_nodup]
  rfl

/-- A component that is written depicts itself. -/
theorem exists_depicted_toValue (component : Component) :
    ∃ field, component.toValue.structure? fieldNames = some field ∧
      component.Depicted field := by
  refine ⟨_, rfl, ?_⟩
  have box := depicted_boxField "bounding_box" component.box
  have refinedBox := depicted_boxField "refined_bounding_box" component.refinedBox
  have boundary := depicted_cellsField "boundary" component.boundary
  have interior := depicted_cellsField "interior" component.interior
  have properties := depicted_toValue component.properties
  -- a field that may be left out is looked up in its own place and nowhere else
  constructor
  case id => rfl
  case kind => exact .inl rfl
  case box =>
    simpa [List.find?_append, find?_boxField_of_ne, find?_cellsField_of_ne] using box
  case refinedBox =>
    simpa [List.find?_append, find?_boxField_of_ne, find?_cellsField_of_ne] using refinedBox
  case boundary =>
    simpa [List.find?_append, find?_boxField_of_ne, find?_cellsField_of_ne] using boundary
  case interior =>
    simpa [List.find?_append, find?_boxField_of_ne, find?_cellsField_of_ne] using interior
  case properties =>
    simpa [List.find?_append, find?_boxField_of_ne, find?_cellsField_of_ne] using properties

theorem ofValue?_toValue (component : Component) :
    ofValue? component.toValue = some component :=
  ofValue?_eq_some_iff.mpr component.exists_depicted_toValue

/-- Every component is read back from its record as it was.  What depicts a component is read
as that component and nothing else is read at all; the record of what has been read is read
alike, and the corners of its boxes are in order. -/
theorem record_roundTrip :
    (∀ component, ofValue? component.toValue = some component) ∧
    (∀ value component, ofValue? value = some component ↔
      ∃ field, value.structure? fieldNames = some field ∧ component.Depicted field) ∧
    ∀ value component, ofValue? value = some component →
      ofValue? component.toValue = some component ∧
        ∀ box, component.box = some box ∨ component.refinedBox = some box →
          box.left ≤ box.right ∧ box.top ≤ box.bottom := by
  refine ⟨ofValue?_toValue, fun _ _ => ofValue?_eq_some_iff, ?_⟩
  intro _ component _
  exact ⟨component.ofValue?_toValue, fun box _ => ⟨box.left_le_right, box.top_le_bottom⟩⟩

/-- Corners and cells out of order, a repeated cell, null for a box and a field of another
name. -/
example :
    ofValue? (.record [("note", .null), ("refined_bounding_box", .null),
      ("bounding_box", .list [.integer 9, .integer 4, .integer 0, .integer 0]),
      ("boundary", .list [.list [.integer 1, .integer 0],
        .record [("y", .integer 0), ("x", .integer 0)], .list [.integer 1, .integer 0]]),
      ("id", .text "list")]) =
    some { id := "list", box := some (Box.ofCorners 0 0 9 4),
           boundary := SortedSet.ofList [⟨0, 0⟩, ⟨1, 0⟩] } := by
  rfl

end Component

end ScreenSight
