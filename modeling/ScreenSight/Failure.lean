/-!
# Failures and scents

A failure ends what it happens in; a failure of a recognition pass also names the stage it comes
from.  A scent is a warning that is recorded while the pass goes on.
-/

namespace ScreenSight

/-- The stages of a recognition pass. -/
inductive Stage where
  /-- Interpreting hunt sources. -/
  | load
  /-- Matching component patterns. -/
  | matchComponents
  /-- Matching relationship patterns and containment. -/
  | matchRelationships
  /-- Handing out the results. -/
  | publish
  deriving DecidableEq, Inhabited

namespace Stage

def name : Stage → String
  | load => "load"
  | matchComponents => "match_components"
  | matchRelationships => "match_relationships"
  | publish => "publish"

def ofName? : String → Option Stage
  | "load" => some load
  | "match_components" => some matchComponents
  | "match_relationships" => some matchRelationships
  | "publish" => some publish
  | _ => none

theorem ofName?_name (stage : Stage) : ofName? stage.name = some stage := by
  cases stage <;> rfl

end Stage

/-- Why something failed. -/
inductive Failure where
  /-- A malformed hunt source, with the line and column of the offending token. -/
  | malformedSource (line column : Nat) (message : String)
  /-- Input that is missing or contradicts itself. -/
  | validation (message : String)
  /-- Settings with an impossible value. -/
  | configuration (message : String)
  /-- A rule that cannot be evaluated. -/
  | invalidPattern (message : String)
  /-- A broken guard that ends the pass. -/
  | snare (message : String)
  /-- A failure inside a stage. -/
  | staged (stage : Stage) (cause : Failure)
  /-- A file that cannot be read. -/
  | unreadable
  /-- Data of the wrong shape. -/
  | malformedData
  /-- A settings file that cannot be understood. -/
  | malformedSettings
  /-- Anything else. -/
  | other (message : String)
  deriving DecidableEq, Inhabited

namespace Failure

def message : Failure → String
  | malformedSource line column text => s!"Syntax error at {line}:{column}: {text}"
  | validation text => s!"Validation error: {text}"
  | configuration text => s!"Configuration error: {text}"
  | invalidPattern text => s!"Invalid pattern: {text}"
  | snare text => s!"Snare: {text}"
  | staged stage cause => s!"{stage.name} stage failed: {cause.message}"
  | unreadable => "IO error"
  | malformedData => "Serialization error"
  | malformedSettings => "YAML error"
  | other text => text

/-- Name the stage of a failure, unless it already has one. -/
def inStage (failure : Failure) (stage : Stage) : Failure :=
  match failure with
  | staged inner cause => staged inner cause
  | plain => staged stage plain

def stage? : Failure → Option Stage
  | staged stage _ => some stage
  | _ => none

/-- The failure without the stages around it. -/
def root : Failure → Failure
  | staged _ cause => cause.root
  | plain => plain

def isMalformedSource (failure : Failure) : Bool :=
  match failure.root with
  | malformedSource .. => true
  | _ => false

/-- Whether a failure comes from invalid input. -/
def isValidation (failure : Failure) : Bool :=
  match failure.root with
  | validation _ => true
  | _ => false

/-- A guard: it fails with a snare where its condition does not hold. -/
def trap (condition : Bool) (message : String) : Except Failure Unit :=
  if condition then .ok () else .error (snare message)

end Failure

/-- A warning recorded during a pass, about a pattern or a component. -/
structure Scent where
  stage : Stage
  subject : String
  message : String
  deriving DecidableEq, Inhabited

def Scent.text (scent : Scent) : String :=
  s!"[{scent.stage.name}] {scent.subject}: {scent.message}"

end ScreenSight
