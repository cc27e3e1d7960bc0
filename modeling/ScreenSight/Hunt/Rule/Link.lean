import ScreenSight.Geometry.Box
import ScreenSight.Settings.Basic

/-!
# Link rules

A link rule relates two components by their types and by the position of their boxes.
-/

namespace ScreenSight.Hunt

/-- The component types that a rule speaks of. -/
inductive TypeFilter where
  | any
  | only (name : String)
  deriving DecidableEq, Inhabited

namespace TypeFilter

/-- The word for any type. -/
def wildcard : String := "*"

def text : TypeFilter → String
  | any => wildcard
  | only name => name

/-- The filter of a word, if that is the wildcard or can name a type. -/
def ofText? (word : String) : Option TypeFilter :=
  if word = wildcard then some any
  else if isTypeName word then some (only word)
  else none

def accepts : TypeFilter → String → Bool
  | any, _ => true
  | only name, kind => name == kind

end TypeFilter

/-- A relation between the boxes of two components. -/
inductive Geometry where
  /-- The target lies within the source and off its edge. -/
  | inside
  /-- The boxes share a cell. -/
  | overlaps
  /-- The boxes touch but share no cell. -/
  | adjacent
  | any
  deriving DecidableEq, Inhabited

namespace Geometry

/-- The word for a relation. -/
def name : Geometry → String
  | inside => "inside"
  | overlaps => "overlaps"
  | adjacent => "adjacent"
  | any => "any"

/-- The relation of a word. -/
def ofName? : String → Option Geometry
  | "inside" => some inside
  | "overlaps" => some overlaps
  | "adjacent" => some adjacent
  | "any" => some any
  | _ => none

/-- Whether a relation holds from one box to another. -/
def holds (geometry : Geometry) (source target : Box) : Bool :=
  match geometry with
  | inside => source.strictlyContains target 1
  | overlaps => source.intersects target
  | adjacent => source.isAdjacent target
  | any => true

end Geometry

/-- A rule that relates two components. -/
structure LinkRule where
  kind : String
  source : TypeFilter
  target : TypeFilter
  geometry : Geometry
  deriving DecidableEq, Inhabited

/-- What can be wrong with the values of a link rule. -/
inductive LinkProblem where
  | wrongCount (count : Nat)
  | unknownGeometry (word : String)
  | notAType (word : String)
  deriving DecidableEq

def LinkProblem.message (kind : String) : LinkProblem → String
  | wrongCount count =>
      s!"link `{kind}` takes (source_type, target_type[, geometry]), got {count} values"
  | unknownGeometry word =>
      s!"link `{kind}`: unknown geometry `{word}` (expected inside, overlaps, adjacent or any)"
  | notAType word => s!"link `{kind}`: `{word}` is not a component type or `*`"

namespace LinkRule

/-- The relation of an optional word. -/
def geometryOf (word : Option String) : Except LinkProblem Geometry :=
  match word with
  | none => .ok .inside
  | some word =>
      match Geometry.ofName? word with
      | some geometry => .ok geometry
      | none => .error (.unknownGeometry word)

def filterOf (word : String) : Except LinkProblem TypeFilter :=
  match TypeFilter.ofText? word with
  | some filter => .ok filter
  | none => .error (.notAType word)

/-- The rule of a source type, a target type and perhaps a relation; where several are wrong, the
relation is reported first. -/
def ofWords (kind source target : String) (word : Option String) : Except LinkProblem LinkRule := do
  let geometry ← geometryOf word
  let source ← filterOf source
  let target ← filterOf target
  return ⟨kind, source, target, geometry⟩

def ofValues (kind : String) (values : List String) : Except LinkProblem LinkRule :=
  match values with
  | [source, target] => ofWords kind source target none
  | [source, target, word] => ofWords kind source target (some word)
  | _ => .error (.wrongCount values.length)

/-- Whether two components with boxes satisfy the rule in this order. -/
def relates (rule : LinkRule) (sourceKind : String) (sourceBox : Box) (targetKind : String)
    (targetBox : Box) : Bool :=
  rule.source.accepts sourceKind && rule.target.accepts targetKind &&
    rule.geometry.holds sourceBox targetBox

end LinkRule

end ScreenSight.Hunt
