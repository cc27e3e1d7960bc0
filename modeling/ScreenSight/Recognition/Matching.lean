import ScreenSight.Component.Model
import ScreenSight.Hunt.Registry
import ScreenSight.Ordered.Real
import ScreenSight.Recognition.View

/-!
# Matching patterns

The patterns of a registry are tried on the view of a component in the order of their registration.
The candidates among them are then ordered by the strategy, and the first one classifies the
component.
-/

namespace ScreenSight

/-- Classifies components by the patterns of a registry. -/
structure Matcher where
  strategy : MatchStrategy := .firstRegistered
  deriving DecidableEq, Inhabited

namespace Matcher

open Hunt

/-- The matches of some patterns in their order. -/
def evaluateAll (view : ComponentView) :
    List ComponentPattern → Except Failure (List PatternMatch)
  | [] => .ok []
  | pattern :: rest => do
      let found ← pattern.evaluate view.symbols view.text
      let others ← evaluateAll view rest
      return found.toList ++ others

/-- Order matches by falling confidence; equal ones stay in order. -/
def byConfidence (found : List PatternMatch) : List PatternMatch :=
  found.mergeSort fun left right => orderKey right.confidence ≤ orderKey left.confidence

/-- Order matches by a strategy, the best one first. -/
def arrange (strategy : MatchStrategy) (found : List PatternMatch) : List PatternMatch :=
  match strategy with
  | .firstRegistered => found
  | .highestConfidence => byConfidence found

/-- The matches of a component, the best one first. -/
def candidates (matcher : Matcher) (registry : Registry) (view : ComponentView) :
    Except Failure (List PatternMatch) :=
  (evaluateAll view registry.component.values).map (arrange matcher.strategy)

/-- The extraction patterns whose name has no component pattern.  The others have run as part of the
classification. -/
def standalone (registry : Registry) : List ExtractionPattern :=
  (registry.extraction.entries.filter fun entry => !registry.component.contains entry.1).map
    Prod.snd

/-- What some patterns extract from a component, in order. -/
def extractAll (view : ComponentView) :
    List ExtractionPattern → Except Failure (List (String × Extraction))
  | [] => .ok []
  | pattern :: rest => do
      let found ← pattern.extract view.symbols view.text
      let others ← extractAll view rest
      return found ++ others

/-- What the extraction patterns take from a component. -/
def extract (registry : Registry) (view : ComponentView) :
    Except Failure (List (String × Extraction)) :=
  extractAll view (standalone registry)

/-- The names of the patterns that track a component. -/
def tracks (registry : Registry) (view : ComponentView) : List String :=
  (registry.tracking.entries.filter fun entry => entry.2.tracks view.symbols).map Prod.fst

def boxed (components : List Component) : List (Component × Box) :=
  components.filterMap fun component => component.effectiveBox.map fun box => (component, box)

/-- The relationships of a link rule: those of its pairs of different components, the sources in
order and for each of them the targets in order. -/
def linked (link : LinkRule) (boxed : List (Component × Box)) : List Relationship :=
  boxed.zipIdx.flatMap fun ((source, sourceBox), sourcePosition) =>
    boxed.zipIdx.filterMap fun ((target, targetBox), targetPosition) =>
      if sourcePosition ≠ targetPosition ∧
          link.relates source.kind sourceBox target.kind targetBox then
        Relationship.between? source.id target.id link.kind
      else none

/-- A list without the repetitions of earlier items.  `seen` are the items before it, the last one
first. -/
def dropRepeats (seen : List Relationship) : List Relationship → List Relationship
  | [] => []
  | head :: tail =>
      if seen.contains head then dropRepeats seen tail
      else head :: dropRepeats (head :: seen) tail

/-- The relationships of all link rules, each once. -/
def relationships (registry : Registry) (components : List Component) : List Relationship :=
  let rules := registry.relationship.values.flatMap RelationshipPattern.links
  dropRepeats [] (rules.flatMap fun link => linked link (boxed components))

end Matcher

namespace Component

/-- The property that names the pattern of the classification. -/
def patternProperty : String := "matched_pattern"

/-- The property that holds the confidence of the classification. -/
def confidenceProperty : String := "match_confidence"

/-- The property that marks a component of a type. -/
def typeProperty (kind : String) : String :=
  s!"is_{kind}"

/-- Store an extraction under its target, and its captures under their names. -/
def store (component : Component) (target : String) (extraction : Hunt.Extraction) : Component :=
  extraction.captures.toList.foldl
    (fun current (name, text) => current.setProperty name (.text text))
    (component.setProperty target (.text extraction.value))

def storeAll (component : Component) (extracted : List (String × Hunt.Extraction)) : Component :=
  extracted.foldl (fun current (target, extraction) => current.store target extraction) component

def classifyBy (component : Component) (found : Hunt.PatternMatch) : Component :=
  let classified := { component with kind := found.componentType }
  let marked :=
    ((classified.setProperty (typeProperty found.componentType) (.truth true)).setProperty
      patternProperty (.text found.pattern)).setProperty confidenceProperty (.real found.confidence)
  marked.storeAll found.extracted

end Component

end ScreenSight
