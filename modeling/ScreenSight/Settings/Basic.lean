import ScreenSight.Failure
import ScreenSight.Grid.Limits

/-!
# Settings

The settings of a recognition: how grids are loaded, how components are indexed and matched, and
whether containment is analysed.  Settings that have been read need not be usable; validation names
the first problem.
-/

namespace ScreenSight

/-- Whether a text may name a component type: an ASCII letter or `_`, then ASCII letters, digits,
`_` or `-`. -/
def isTypeName (name : String) : Bool :=
  match name.toList with
  | [] => false
  | first :: rest =>
      (first.isAlpha || first == '_') && rest.all fun c => c.isAlphanum || c == '_' || c == '-'

/-- The bucket size of the spatial index unless another one is set. -/
def defaultCellSize : Nat := 5

/-- The component types that are known unless others are set. -/
def defaultComponentTypes : List String :=
  ["window", "dialog", "frame", "panel", "button", "checkbox", "radio", "text_field", "textbox",
    "input", "label", "menu", "list", "table", "progress_bar", "status_bar", "tab", "scrollbar"]

/-- How several patterns that match a component are ordered. -/
inductive MatchStrategy where
  /-- In the order of their registration. -/
  | firstRegistered
  /-- By falling confidence, and by registration among equals. -/
  | highestConfidence
  deriving DecidableEq, Inhabited

namespace MatchStrategy

def name : MatchStrategy → String
  | firstRegistered => "first_registered"
  | highestConfidence => "highest_confidence"

def ofName? : String → Option MatchStrategy
  | "first_registered" => some firstRegistered
  | "highest_confidence" => some highestConfidence
  | _ => none

end MatchStrategy

/-- How patterns are matched, and which types a tag rule may assign. -/
structure MatchingSettings where
  strategy : MatchStrategy := .firstRegistered
  knownTypes : List String := defaultComponentTypes
  deriving DecidableEq, Inhabited

/-- Whether containment is analysed, and whether only the tightest containers are kept. -/
structure ContainmentSettings where
  enabled : Bool := true
  directOnly : Bool := false
  deriving DecidableEq, Inhabited

/-- The settings of a recognition.  Its patterns are hunt files that are loaded before those of the
command line. -/
structure Settings where
  logLevel : Option String := none
  patterns : List String := []
  limits : Limits := default
  cellSize : Nat := defaultCellSize
  matching : MatchingSettings := {}
  containment : ContainmentSettings := {}
  deriving DecidableEq, Inhabited

/-- What can be wrong with settings. -/
inductive SettingsProblem where
  | noCellSize
  | noGridSize
  | noTabWidth
  | unknownLogLevel (level : String)
  | invalidTypeName (name : String)
  deriving DecidableEq

def SettingsProblem.message : SettingsProblem → String
  | noCellSize => "index.cell_size must be >= 1"
  | noGridSize => "grid limits must be > 0"
  | noTabWidth => "grid.tab_width must be > 0"
  | unknownLogLevel level => s!"unknown log_level '{level}'"
  | invalidTypeName name => s!"invalid component type name '{name}'"

namespace Settings

def logLevels : List String :=
  ["trace", "debug", "info", "warn", "error"]

def problem? (settings : Settings) : Option SettingsProblem :=
  if settings.cellSize = 0 then some .noCellSize
  else if settings.limits.maxWidth = 0 ∨ settings.limits.maxHeight = 0 then some .noGridSize
  else if settings.limits.tabWidth = 0 then some .noTabWidth
  else
    match settings.logLevel.filter fun level => !logLevels.contains level with
    | some level => some (.unknownLogLevel level)
    | none =>
        (settings.matching.knownTypes.find? fun name => !isTypeName name).map .invalidTypeName

/-- Refuse settings with a problem. -/
def validate (settings : Settings) : Except Failure Unit :=
  match settings.problem? with
  | some problem => .error (.configuration problem.message)
  | none => .ok ()

end Settings

end ScreenSight
