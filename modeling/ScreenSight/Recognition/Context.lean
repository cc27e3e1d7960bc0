import ScreenSight.Component.Model
import ScreenSight.Failure
import ScreenSight.Grid.Basic

/-!
# The context of a pass

A context holds what a pass works on and what the last pass has published.  It is exchanged as
structured data, apart from its grid.
-/

namespace ScreenSight

/-- What a pass has decided about a component. -/
inductive Outcome where
  /-- A pattern matched and was applied. -/
  | matched (pattern componentType : String) (confidence : Float)
  /-- No pattern matched. -/
  | unmatched
  /-- Matching failed for this component. -/
  | failed (message : String)
  deriving Inhabited

/-- Whether a pattern was applied. -/
def Outcome.isMatched : Outcome → Bool
  | matched .. => true
  | _ => false

/-- The record of a component in the classification, with the patterns that track it. -/
structure Classification where
  id : String
  outcome : Outcome
  tracks : List String := []
  deriving Inhabited

/-- Inputs and outputs of a pass.  The grid is that of passes that are given none, and what is extra
is left alone. -/
structure Context where
  components : Option (List Component) := none
  sources : List String := []
  grid : Option Grid := none
  relationships : List Relationship := []
  classification : List Classification := []
  scents : List Scent := []
  extra : Properties := SortedMap.empty
  deriving Inhabited

def Scent.toValue (scent : Scent) : Value :=
  .record [("stage", .text scent.stage.name), ("subject", .text scent.subject),
    ("message", .text scent.message)]

def Scent.ofValue? (value : Value) : Option Scent := do
  let field ← value.structure? ["stage", "subject", "message"]
  let stage ← Value.required? (field "stage") fun word => word.word?.bind Stage.ofName?
  let subject ← Value.required? (field "subject") Value.text?
  let message ← Value.required? (field "message") Value.text?
  return ⟨stage, subject, message⟩

namespace Outcome

def fields : Outcome → List (String × Value)
  | matched pattern componentType confidence =>
      [("outcome", .text "matched"), ("pattern", .text pattern),
        ("component_type", .text componentType), ("confidence", .real confidence)]
  | unmatched => [("outcome", .text "unmatched")]
  | failed message => [("outcome", .text "failed"), ("message", .text message)]

/-- The word of an outcome; it may also be given by its number. -/
def word? : Value → Option String
  | .text word => some word
  | .integer 0 => some "matched"
  | .integer 1 => some "unmatched"
  | .integer 2 => some "failed"
  | _ => none

def ofFields? (field : String → Option Value) : Option Outcome := do
  match ← Value.required? (field "outcome") word? with
  | "matched" =>
      let pattern ← Value.required? (field "pattern") Value.text?
      let componentType ← Value.required? (field "component_type") Value.text?
      let confidence ← Value.required? (field "confidence") Value.real?
      some (matched pattern componentType confidence)
  | "unmatched" => some unmatched
  | "failed" =>
      let message ← Value.required? (field "message") Value.text?
      some (failed message)
  | _ => none

end Outcome

namespace Classification

/-- Whether a pattern was applied. -/
def isMatched (classification : Classification) : Bool :=
  classification.outcome.isMatched

/-- A classification as a record. -/
def toValue (classification : Classification) : Value :=
  .record
    ([("component_id", .text classification.id)] ++ classification.outcome.fields ++
      if classification.tracks.isEmpty then []
      else [("tracks", Value.ofTexts classification.tracks)])

/-- The classification of a record.  The fields of the outcome stand among the others, so a list of
fields does not do. -/
def ofValue? (value : Value) : Option Classification := do
  let fields ← value.fields?
  let field (name : String) : Option Value :=
    (fields.find? fun field => field.1 == name).map Prod.snd
  let id ← Value.required? (field "component_id") Value.text?
  let outcome ← Outcome.ofFields? field
  let tracks ← Value.withDefault? (field "tracks") (Value.listOf? Value.text?) []
  return ⟨id, outcome, tracks⟩

end Classification

namespace Context

def ofComponents (components : List Component) : Context :=
  { components := some components }

def toValue (context : Context) : Value :=
  .record [
    ("components", match context.components with
      | some components => .list (components.map Component.toValue)
      | none => .null),
    ("hunt_patterns", Value.ofTexts context.sources),
    ("relationships", .list (context.relationships.map Relationship.toValue)),
    ("component_classification_results",
      .list (context.classification.map Classification.toValue)),
    ("scents", .list (context.scents.map Scent.toValue)),
    ("extra", context.extra.toValue)]

def ofValue? (value : Value) : Option Context := do
  let field ← value.structure?
    ["components", "hunt_patterns", "relationships", "component_classification_results", "scents",
      "extra"]
  let components ←
    Value.withDefault? (field "components") (Value.nullable? (Value.listOf? Component.ofValue?))
      none
  let sources ← Value.withDefault? (field "hunt_patterns") (Value.listOf? Value.text?) []
  let relationships ←
    Value.withDefault? (field "relationships") (Value.listOf? Relationship.ofValue?) []
  let classification ←
    Value.withDefault? (field "component_classification_results")
      (Value.listOf? Classification.ofValue?) []
  let scents ← Value.withDefault? (field "scents") (Value.listOf? Scent.ofValue?) []
  let extra ← Value.withDefault? (field "extra") Properties.ofValue? SortedMap.empty
  return ⟨components, sources, none, relationships, classification, scents, extra⟩

end Context

end ScreenSight
