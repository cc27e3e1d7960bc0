import ScreenSight.Command.Arguments
import ScreenSight.Command.Path
import ScreenSight.Recognition.Report
import ScreenSight.Settings.Reading
import ScreenSight.Terminal.Canvas

/-!
# Running the command

The command reads its settings, the grid and the hunt sources, in this order, and recognises the
grid.  Where files come from is left open: reading one is an action that may find nothing.
-/

namespace ScreenSight.Command

/-- Why the command fails. -/
inductive RunProblem where
  /-- The settings cannot be used. -/
  | settings (path : String) (cause : Failure)
  /-- The grid file cannot be read. -/
  | grid (path : String)
  /-- A hunt file cannot be read. -/
  | hunt (path : String)
  /-- The recognition fails. -/
  | recognition (cause : Failure)
  deriving DecidableEq

namespace RunProblem

def message : RunProblem → String
  | settings path _ => s!"loading config {path}"
  | grid path => s!"reading grid {path}"
  | hunt path => s!"reading hunt file {path}"
  | recognition cause => cause.message

def cause? : RunProblem → Option Failure
  | settings _ cause => some cause
  | recognition cause => some cause
  | _ => none

end RunProblem

/-- What the command has done. -/
structure Performance where
  settings : Settings
  report : Report

section

variable {m : Type → Type} [Monad m]

/-- The settings of a file.  The hunt files that they name are found from its directory. -/
def settingsOf (path : String) (content : Option ByteArray) : Except Failure Settings :=
  match content.bind String.fromUTF8? with
  | none => .error .unreadable
  | some text => do
      let settings ← Settings.ofYaml text
      return { settings with patterns := settings.patterns.map (Path.besides path) }

/-- Read the settings, if there is a file for them. -/
def loadSettings (read : String → m (Option ByteArray)) (options : Options) :
    ExceptT RunProblem m Settings := do
  match options.settings with
  | none => return {}
  | some path =>
      match settingsOf path (← read path) with
      | .ok settings => return settings
      | .error cause => throw (.settings path cause)

def loadHunt (read : String → m (Option ByteArray)) (path : String) :
    ExceptT RunProblem m String := do
  match (← read path).bind String.fromUTF8? with
  | some source => return source
  | none => throw (.hunt path)

/-- Read all files and recognise the grid. -/
def run (read : String → m (Option ByteArray)) (options : Options) :
    ExceptT RunProblem m Performance := do
  let settings ← loadSettings read options
  let some content ← read options.grid | throw (.grid options.grid)
  let grid := Terminal.load content.toList settings.limits
  let sources ← (settings.patterns ++ options.hunts).mapM (loadHunt read)
  match recognize grid sources settings with
  | .ok report => return ⟨settings, report⟩
  | .error cause => throw (.recognition cause)

end

end ScreenSight.Command
