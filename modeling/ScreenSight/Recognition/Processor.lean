import ScreenSight.Containment.Hierarchy
import ScreenSight.Hunt.Interpreter
import ScreenSight.Recognition.Context
import ScreenSight.Recognition.Matching

/-!
# Recognition passes

A pass loads the hunt sources of a context, classifies its components, relates them to one another,
and publishes the results in the context.  A pass that fails leaves the context as it was, and the
registry too unless all sources were loaded.
-/

namespace ScreenSight

open Hunt

/-- Performs recognition passes with a registry of its own. -/
structure Processor where
  registry : Registry := Registry.empty
  interpreter : Interpreter := {}
  matcher : Matcher := {}
  containment : Option ContainmentAnalyzer := some {}

/-- The end of a pass: its result, and what the processor and the context have become. -/
structure PassEnd where
  result : Except Failure (List Component)
  processor : Processor
  context : Context

/-- A component after its classification, with a warning if that failed. -/
structure Classified where
  component : Component
  classification : Classification
  scent : Option Scent

namespace Processor

def ofSettings (settings : Settings) : Except Failure Processor := do
  settings.validate
  let containment ←
    if settings.containment.enabled then
      (ContainmentAnalyzer.ofSettings settings.containment settings.cellSize).map some
    else .ok none
  return {
    interpreter := Interpreter.ofSettings settings.matching
    matcher := ⟨settings.matching.strategy⟩
    containment := containment }

/-- Interpret some sources one after the other. -/
def loadInto (interpreter : Interpreter) (registry : Registry) :
    List String → Except Failure (Registry × List Scent)
  | [] => .ok (registry, [])
  | source :: rest => do
      let (next, interpretation) ← interpreter.interpret source registry
      let (last, scents) ← loadInto interpreter next rest
      return (last, interpretation.scents ++ scents)

/-- The registry after loading some sources, with the scents that they leave. -/
def load (processor : Processor) (sources : List String) :
    Except Failure (Registry × List Scent) :=
  loadInto processor.interpreter processor.registry sources

/-- How a failure shows a box. -/
def describeBox (box : Box) : String :=
  s!"BoundingBox \x7b x1: {box.left.toInt}, y1: {box.top.toInt}, x2: {box.right.toInt}, " ++
    s!"y2: {box.bottom.toInt} \x7d"

def isOnGrid (grid : Grid) (box : Box) : Bool :=
  match grid.bounds with
  | some bounds => bounds.strictlyContains box 0
  | none => false

/-- The boxes of some components that do not lie on a grid, with the ids of the components. -/
def outliers (grid : Grid) (components : List Component) : List (String × Box) :=
  components.flatMap fun component =>
    ((component.box.toList ++ component.refinedBox.toList).filter fun box =>
      !isOnGrid grid box).map fun box => (component.id, box)

/-- Refuse components that share an id or do not lie on the grid. -/
def validate (grid : Grid) (components : List Component) : Except Failure Unit :=
  match (Model.mk components []).duplicateIds, outliers grid components with
  | [], [] => .ok ()
  | [], (id, box) :: _ =>
      .error (.validation
        (s!"component {id} box {describeBox box} lies outside the " ++
          s!"{grid.width}x{grid.height} grid"))
  | duplicates, _ =>
      .error (.validation ("duplicate component ids: " ++ Text.joinWith ", " duplicates))

/-- The grid of a pass: the one that it is given, or else that of the context. -/
def gridOf (given : Option Grid) (context : Context) : Except Failure Grid :=
  match given.or context.grid with
  | some grid => .ok grid
  | none => .error (.validation "no grid supplied to the pass or the context")

/-- Move the components out of a context.  A list that is not valid is put back. -/
def takeComponents (grid : Grid) (context : Context) :
    Except Failure (List Component) × Context :=
  match context.components with
  | none => (.error (.validation "context has no component list"), context)
  | some components =>
      let emptied := { context with components := none }
      match validate grid components with
      | .ok () => (.ok components, emptied)
      | .error failure => (.error failure, { emptied with components := some components })

/-- Apply the best match of a component, if there is one, and store what the standalone patterns
extract. -/
def applyBest (processor : Processor) (view : ComponentView) (component : Component) :
    Except Failure (Component × Option PatternMatch) := do
  let candidates ← processor.matcher.candidates processor.registry view
  let extracted ← Matcher.extract processor.registry view
  let best := candidates.head?
  let classified :=
    match best with
    | some found => component.classifyBy found
    | none => component
  return (classified.storeAll extracted, best)

/-- Classify a component.  If that fails, the component stays as it is. -/
def classify (processor : Processor) (grid : Grid) (component : Component) : Classified :=
  let view := grid.view component
  let tracks := Matcher.tracks processor.registry view
  match processor.applyBest view component with
  | .ok (classified, some found) =>
      ⟨classified,
        ⟨component.id, .matched found.pattern found.componentType found.confidence, tracks⟩, none⟩
  | .ok (classified, none) => ⟨classified, ⟨component.id, .unmatched, tracks⟩, none⟩
  | .error failure =>
      ⟨component, ⟨component.id, .failed failure.message, tracks⟩,
        some ⟨.matchComponents, component.id, failure.message⟩⟩

/-- Relate some components by link rules and by containment. -/
def relate (processor : Processor) (components : List Component) : Model :=
  let model : Model := ⟨components, Matcher.relationships processor.registry components⟩
  match processor.containment with
  | some analyzer => analyzer.analyze model
  | none => model

/-- Make sure that a pass has lost no component. -/
def guardCount (expected : Nat) (components : List Component) : Except Failure Unit :=
  Failure.trap (components.length == expected)
    s!"pass produced {components.length} components from {expected}"

def within {α : Type} (stage : Stage) (result : Except Failure α) : Except Failure α :=
  result.mapError fun failure => failure.inStage stage

/-- The stages of a pass behind the loading of sources: the components that they hand out, and what
the context has become. -/
def publish (processor : Processor) (given : Option Grid) (context : Context)
    (scents : List Scent) : Except Failure (List Component) × Context :=
  match within .matchComponents (gridOf given context) with
  | .error failure => (.error failure, context)
  | .ok grid =>
      let (taken, left) := takeComponents grid context
      match within .matchComponents taken with
      | .error failure => (.error failure, left)
      | .ok components =>
          let classified := components.map (processor.classify grid)
          let model := processor.relate (classified.map Classified.component)
          -- a failure here would leave the context without its components
          match within .publish (guardCount components.length model.components) with
          | .error failure => (.error failure, left)
          | .ok () =>
              (.ok model.components,
                { left with
                  components := some model.components
                  relationships := model.relationships
                  classification := classified.map Classified.classification
                  scents := scents ++ classified.filterMap Classified.scent })

/-- Perform a pass on a given grid or else on that of the context. -/
def process (processor : Processor) (given : Option Grid) (context : Context) : PassEnd :=
  match within .load (processor.load context.sources) with
  | .error failure => ⟨.error failure, processor, context⟩
  | .ok (registry, scents) =>
      let loaded := { processor with registry := registry }
      let (result, left) := loaded.publish given context scents
      ⟨result, loaded, left⟩

end Processor

end ScreenSight
