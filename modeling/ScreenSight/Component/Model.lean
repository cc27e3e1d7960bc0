import ScreenSight.Component.Record

/-!
# Component models

A model is the list of the components of one pass, in the order of their detection, together with
the relationships found so far, in the order of their discovery.  No relationship is recorded twice
and none leads from a component to itself.
-/

namespace ScreenSight

/-- A directed relationship between two components, such as that the source contains the target. -/
structure Relationship where
  source : String
  target : String
  kind : String
  deriving DecidableEq, Inhabited

namespace Relationship

/-- The kind of geometric containment. -/
def containsKind : String := "contains"

def between? (source target kind : String) : Option Relationship :=
  if source = target then none else some ⟨source, target, kind⟩

/-- A containment between two different components. -/
def contains? (outer inner : String) : Option Relationship :=
  between? outer inner containsKind

def toValue (relationship : Relationship) : Value :=
  .record [("source_id", .text relationship.source), ("target_id", .text relationship.target),
    ("kind", .text relationship.kind)]

/-- The relationship of a record. -/
def ofValue? (value : Value) : Option Relationship := do
  let field ← value.structure? ["source_id", "target_id", "kind"]
  let source ← Value.required? (field "source_id") Value.text?
  let target ← Value.required? (field "target_id") Value.text?
  let kind ← Value.required? (field "kind") Value.text?
  return ⟨source, target, kind⟩

end Relationship

/-- The components of a pass and their relationships, in the order of their discovery. -/
structure Model where
  components : List Component := []
  relationships : List Relationship := []
  deriving Inhabited

namespace Model

def find? (model : Model) (id : String) : Option Component :=
  model.components.find? fun component => component.id == id

/-- Whether a relationship may be added: it is new and leads to another component. -/
def admits (model : Model) (relationship : Relationship) : Bool :=
  relationship.source != relationship.target && !model.relationships.contains relationship

/-- Add a relationship at the end, if it may be added. -/
def relate (model : Model) (relationship : Relationship) : Model :=
  if model.admits relationship then
    { model with relationships := model.relationships ++ [relationship] }
  else model

/-- Add a component at the end. -/
def push (model : Model) (component : Component) : Model :=
  { model with components := model.components ++ [component] }

def ofKind (model : Model) (kind : String) : List Relationship :=
  model.relationships.filter fun relationship => relationship.kind == kind

/-- The ids that come again behind their first place, each once, in the order in which they first
come again.  `seen` are the ids before the list, `found` the repeated ones among them. -/
def repeatedIds (seen found : List String) : List String → List String
  | [] => found
  | id :: rest =>
      if seen.contains id then
        if found.contains id then repeatedIds seen found rest
        else repeatedIds seen (found ++ [id]) rest
      else repeatedIds (id :: seen) found rest

/-- The ids of more than one component. -/
def duplicateIds (model : Model) : List String :=
  repeatedIds [] [] (model.components.map Component.id)

def toValue (model : Model) : Value :=
  .record [("components", .list (model.components.map Component.toValue)),
    ("relationships", .list (model.relationships.map Relationship.toValue))]

def ofValue? (value : Value) : Option Model := do
  let field ← value.structure? ["components", "relationships"]
  let components ← Value.required? (field "components") (Value.listOf? Component.ofValue?)
  let relationships ←
    Value.withDefault? (field "relationships") (Value.listOf? Relationship.ofValue?) []
  return ⟨components, relationships⟩

end Model

end ScreenSight
