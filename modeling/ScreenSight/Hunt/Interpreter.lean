import ScreenSight.Hunt.Registry
import ScreenSight.Settings.Basic

/-!
# Interpreting hunt sources

Interpreting a source registers the patterns of all of its blocks, or of none if the source has a
problem.  Expressions that are not well formed and tag rules for types that are not known only leave
a scent.
-/

namespace ScreenSight.Hunt

/-- The types that a tag rule may assign to components. -/
structure Interpreter where
  knownTypes : SortedSet String := SortedSet.ofList defaultComponentTypes
  deriving Inhabited

/-- What interpreting a source has brought: the names of its blocks in order, and warnings. -/
structure Interpretation where
  registered : List String := []
  scents : List Scent := []
  deriving DecidableEq, Inhabited

namespace Interpreter

def ofSettings (settings : MatchingSettings) : Interpreter :=
  ⟨SortedSet.ofList settings.knownTypes⟩

/-- Whether a type is known. -/
def knows (interpreter : Interpreter) (name : String) : Bool :=
  interpreter.knownTypes.contains name

/-- The scents of the expressions of a block that are not well formed. -/
def expressionScents (name : String) (plucks : List PluckRule) : List Scent :=
  plucks.flatMap fun pluck =>
    pluck.invalid.map fun expression =>
      ⟨.load, name, s!"pluck `{pluck.target}` has an {expression.complaint}"⟩

/-- The scents of the tag rules of a block for types that are not known. -/
def targetScents (interpreter : Interpreter) (name : String) (tags : List TagRule) : List Scent :=
  (tags.filter fun tag => !interpreter.knows tag.target).map fun tag =>
    ⟨.load, name, s!"tag target `{tag.target}` is not a known component type"⟩

/-- The component type that a block recognises: that of its first tag rule, if it is known. -/
def componentType? (interpreter : Interpreter) (tags : List TagRule) : Option String :=
  (tags.head?.map TagRule.target).filter interpreter.knows

/-- The patterns of some rules under the name of a block that begins on a line. -/
def define (interpreter : Interpreter) (name : String) (line : Nat) (rules : List Rule) :
    Definition :=
  let tags := rules.filterMap Rule.tag?
  let plucks := rules.filterMap Rule.pluck?
  let links := rules.filterMap Rule.link?
  { tracking := ⟨name, rules, line⟩
    extraction := if plucks.isEmpty then none else some ⟨name, tags, plucks⟩
    component := (interpreter.componentType? tags).map fun kind => ⟨name, kind, tags, plucks⟩
    relationship := if links.isEmpty then none else some ⟨name, links⟩ }

/-- The patterns of a block of a source, with the scents that they leave. -/
def compile (interpreter : Interpreter) (source : String) (block : Block) :
    Except Failure (Definition × List Scent) := do
  let rules ← block.params.mapM (Rule.ofParam source)
  let line := (positionAt source block.start).line
  let scents :=
    expressionScents block.name (rules.filterMap Rule.pluck?) ++
      interpreter.targetScents block.name (rules.filterMap Rule.tag?)
  return (interpreter.define block.name line rules, scents)

/-- The patterns of all blocks of a source, with the scents that they leave. -/
def compileAll (interpreter : Interpreter) (source : String) :
    Except Failure (List (Definition × List Scent)) := do
  let blocks ← readSource source
  blocks.mapM (interpreter.compile source)

/-- Register the patterns of a source. -/
def interpret (interpreter : Interpreter) (source : String) (registry : Registry) :
    Except Failure (Registry × Interpretation) := do
  let compiled ← interpreter.compileAll source
  let definitions := compiled.map Prod.fst
  return (definitions.foldl Registry.install registry,
    ⟨definitions.map Definition.name, compiled.flatMap Prod.snd⟩)

end Interpreter

end ScreenSight.Hunt
