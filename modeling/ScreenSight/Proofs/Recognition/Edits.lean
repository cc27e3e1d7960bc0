import ScreenSight.Containment.Hierarchy
import ScreenSight.Proofs.Ordered.Map
import ScreenSight.Recognition.Matching

/-!
# Edits of components

Classification and containment change the type of a component and write
properties, and nothing else.  Both are edits, which may give a type and consist
of writes; to repeat an edit changes nothing.
-/

namespace ScreenSight

/-- A change of a component: a new type, and properties that are written one after the other. -/
structure Edit where
  kind : Option String := none
  writes : List (String × Value) := []

/-- An edit after another one that writes more properties. -/
def Edit.andWrite (edit : Edit) (writes : List (String × Value)) : Edit :=
  { edit with writes := edit.writes ++ writes }

namespace Component

/-- The component after an edit. -/
def apply (component : Component) (edit : Edit) : Component :=
  { component with
    kind := edit.kind.getD component.kind
    properties := component.properties.insertAll edit.writes }

/-- What an edit leaves alone: a component without its type and properties. -/
def outline (component : Component) : Component :=
  { component with kind := unclassified, properties := SortedMap.empty }

/-- A component without its properties. -/
def bare (component : Component) : Component :=
  { component with properties := SortedMap.empty }

theorem map_id_of_map_outline {components others : List Component}
    (same : components.map outline = others.map outline) :
    components.map Component.id = others.map Component.id := by
  have ids := congrArg (List.map Component.id) same
  rw [List.map_map, List.map_map] at ids
  exact ids

theorem apply_nothing (component : Component) : component.apply {} = component := rfl

theorem apply_apply (component : Component) (edit : Edit) :
    (component.apply edit).apply edit = component.apply edit := by
  have kind : edit.kind.getD (edit.kind.getD component.kind) =
      edit.kind.getD component.kind := by
    cases edit.kind <;> rfl
  rw [apply, apply, SortedMap.insertAll_insertAll]
  simp only [kind]

theorem apply_andWrite (component : Component) (edit : Edit)
    (writes : List (String × Value)) :
    (component.apply edit).apply { writes := writes } =
      component.apply (edit.andWrite writes) := by
  rw [apply, apply, apply, Edit.andWrite, SortedMap.insertAll_append]
  rfl

/-- After an edit the same edit gives the same type again. -/
theorem bare_apply_apply (component : Component) (edit : Edit)
    (writes : List (String × Value)) :
    ((component.apply (edit.andWrite writes)).apply edit).bare =
      (component.apply edit).bare := by
  simp only [bare, apply, Edit.andWrite]
  cases edit.kind <;> rfl

theorem property?_apply {component : Component} {edit : Edit} {name : String}
    (unwritten : name ∉ edit.writes.map Prod.fst) :
    (component.apply edit).property? name = component.property? name := by
  have absent : SortedMap.findIn name edit.writes.reverse = none := by
    apply SortedMap.findIn_eq_none_iff.mpr
    rw [List.map_reverse, List.mem_reverse]
    exact unwritten
  change (component.properties.insertAll edit.writes).get? name = _
  rw [SortedMap.get?_insertAll, absent]
  rfl

/-! ## Classification -/

/-- The writes of an extraction under its target. -/
def storeWrites (target : String) (extraction : Hunt.Extraction) : List (String × Value) :=
  (target, .text extraction.value) ::
    extraction.captures.toList.map fun (name, text) => (name, .text text)

/-- The writes of some extractions. -/
def storeAllWrites (extracted : List (String × Hunt.Extraction)) : List (String × Value) :=
  extracted.flatMap fun (target, extraction) => storeWrites target extraction

/-- The edit by which a match classifies. -/
def classifyEdit (found : Hunt.PatternMatch) : Edit :=
  { kind := some found.componentType
    writes :=
      [(typeProperty found.componentType, .truth true),
        (patternProperty, .text found.pattern),
        (confidenceProperty, .real found.confidence)] ++
      storeAllWrites found.extracted }

theorem foldl_setProperty (component : Component) (writes : List (String × Value)) :
    writes.foldl (fun current write => current.setProperty write.1 write.2) component =
      component.apply { writes := writes } := by
  induction writes generalizing component with
  | nil => rfl
  | cons write rest induction =>
      rw [List.foldl_cons, induction]
      rfl

theorem store_eq (component : Component) (target : String) (extraction : Hunt.Extraction) :
    component.store target extraction =
      component.apply { writes := storeWrites target extraction } := by
  rw [← foldl_setProperty, storeWrites, List.foldl_cons, List.foldl_map]
  rfl

theorem storeAll_eq (component : Component) (extracted : List (String × Hunt.Extraction)) :
    component.storeAll extracted =
      component.apply { writes := storeAllWrites extracted } := by
  induction extracted generalizing component with
  | nil => rfl
  | cons head rest induction =>
      obtain ⟨target, extraction⟩ := head
      change (component.store target extraction).storeAll rest = _
      rw [induction, store_eq, apply_andWrite]
      rfl

theorem classifyBy_eq (component : Component) (found : Hunt.PatternMatch) :
    component.classifyBy found = component.apply (classifyEdit found) := by
  rw [classifyBy, storeAll_eq]
  exact apply_andWrite component
    { kind := some found.componentType
      writes :=
        [(typeProperty found.componentType, .truth true),
          (patternProperty, .text found.pattern),
          (confidenceProperty, .real found.confidence)] } (storeAllWrites found.extracted)

/-! ## Containment -/

/-- The writes that note the children and the parent of a component. -/
def noteWrites (children : List String) (parent : Option String) : List (String × Value) :=
  (if children.isEmpty then []
    else [(Containment.childrenProperty, Value.ofTexts children)]) ++
  parent.toList.map fun id => (Containment.parentProperty, .text id)

theorem mem_names_noteWrites {children : List String} {parent : Option String} {name : String}
    (member : name ∈ (noteWrites children parent).map Prod.fst) :
    name = Containment.childrenProperty ∨ name = Containment.parentProperty := by
  rw [noteWrites, List.map_append, List.mem_append] at member
  cases member with
  | inl first =>
      left
      split at first
      · cases first
      · exact List.mem_singleton.mp first
  | inr second =>
      right
      cases parent with
      | none => cases second
      | some id => exact List.mem_singleton.mp second

theorem writeParent_writeChildren (component : Component) (children : List String)
    (parent : Option String) :
    Containment.writeParent parent (Containment.writeChildren children component) =
      component.apply { writes := noteWrites children parent } := by
  rw [Containment.writeChildren]
  cases parent with
  | none =>
      by_cases childless : children.isEmpty = true
      · simp [Containment.writeParent, noteWrites, childless, apply_nothing]
      · simp [Containment.writeParent, noteWrites, childless, ← foldl_setProperty]
  | some id =>
      by_cases childless : children.isEmpty = true
      · simp [Containment.writeParent, noteWrites, childless, ← foldl_setProperty]
      · simp [Containment.writeParent, noteWrites, childless, ← foldl_setProperty]

theorem property?_children_noted (component : Component) (children : List String)
    (parent : Option String) :
    (component.apply { writes := noteWrites children parent }).property?
        Containment.childrenProperty =
      if children = [] then component.property? Containment.childrenProperty
      else some (Value.ofTexts children) := by
  change (component.properties.insertAll (noteWrites children parent)).get? _ = _
  rw [SortedMap.get?_insertAll]
  have other : Containment.parentProperty ≠ Containment.childrenProperty := by decide
  cases parent with
  | none =>
      by_cases childless : children = []
      · simp [noteWrites, childless, SortedMap.findIn, property?]
      · simp [noteWrites, childless, SortedMap.findIn]
  | some id =>
      by_cases childless : children = []
      · simp [noteWrites, childless, SortedMap.findIn, property?, other]
      · simp [noteWrites, childless, SortedMap.findIn, other]

theorem property?_parent_noted (component : Component) (children : List String)
    (parent : Option String) :
    (component.apply { writes := noteWrites children parent }).property?
        Containment.parentProperty =
      (parent.map Value.text).or (component.property? Containment.parentProperty) := by
  change (component.properties.insertAll (noteWrites children parent)).get? _ = _
  rw [SortedMap.get?_insertAll]
  have other : Containment.childrenProperty ≠ Containment.parentProperty := by decide
  cases parent with
  | none =>
      by_cases childless : children = []
      · simp [noteWrites, childless, SortedMap.findIn, property?]
      · simp [noteWrites, childless, SortedMap.findIn, property?, other]
  | some id => simp [noteWrites, SortedMap.findIn]

end Component

end ScreenSight
