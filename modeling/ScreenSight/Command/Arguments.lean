/-!
# Command line arguments

The command takes a grid file, then any number of hunt files, and among them an option for a
settings file.  The arguments are read from left to right.  A value that has been read is only
looked at when something else follows it or the arguments end, and a missing grid is noticed last of
all; this decides which of several mistakes is reported.
-/

namespace ScreenSight.Command

/-- What the command is asked to do: the files of a grid, of hunt sources and of settings. -/
structure Options where
  grid : String
  hunts : List String := []
  settings : Option String := none
  deriving DecidableEq, Inhabited

/-- Why the arguments are not carried out. -/
inductive UsageProblem where
  /-- There is no grid file. -/
  | missingGrid
  | unknownOption (name : String)
  /-- An option has no value, or a file name is empty. -/
  | missingValue
  /-- An option is given twice. -/
  | repeatedOption
  /-- An option has a value that takes none. -/
  | unwantedValue
  /-- Help is asked for. -/
  | help
  /-- The version is asked for. -/
  | version
  deriving DecidableEq, Inhabited

/-- A value that has been read and not been looked at. -/
inductive Pending where
  | settings (path : Option String)
  | grid (path : String)
  | hunts (paths : List String)
  deriving DecidableEq, Inhabited

/-- What has been read of the arguments. -/
structure Progress where
  grid : Option String := none
  hunts : List String := []
  settings : Option String := none
  pending : Option Pending := none
  wantsGrid : Bool := true
  onlyFiles : Bool := false
  deriving DecidableEq, Inhabited

namespace Progress

/-- Look at the pending value. -/
def settle (progress : Progress) : Except UsageProblem Progress :=
  let settled := { progress with pending := none }
  match progress.pending with
  | none => .ok progress
  | some (.settings none) => .error .missingValue
  | some (.settings (some path)) =>
      if progress.settings.isSome then .error .repeatedOption
      else if path.isEmpty then .error .missingValue
      else .ok { settled with settings := some path }
  | some (.grid path) =>
      if path.isEmpty then .error .missingValue else .ok { settled with grid := some path }
  | some (.hunts paths) =>
      if paths.any String.isEmpty then .error .missingValue
      else .ok { settled with hunts := progress.hunts ++ paths }

/-- Settle what is pending and leave another value pending. -/
def await (progress : Progress) (next : Pending) : Except UsageProblem Progress := do
  let settled ← progress.settle
  return { settled with pending := some next }

/-- Read a file name. -/
def addFile (progress : Progress) (path : String) : Except UsageProblem Progress :=
  if progress.wantsGrid then
    ({ progress with wantsGrid := false }).await (.grid path)
  else
    match progress.pending with
    | some (.hunts paths) => .ok { progress with pending := some (.hunts (paths ++ [path])) }
    | _ => progress.await (.hunts [path])

/-- Read the option for the settings file with a value that is attached to it. -/
def addSettings (progress : Progress) (path : String) : Except UsageProblem Progress := do
  let awaiting ← progress.await (.settings (some path))
  awaiting.settle

/-- Read an option that ends everything. -/
def stop (progress : Progress) (problem : UsageProblem) : Except UsageProblem Progress := do
  let _ ← progress.settle
  .error problem

/-- Read a long option without its dashes, and the value behind its equals sign. -/
def addLong (progress : Progress) (name : String) (value : Option String) :
    Except UsageProblem Progress :=
  match name, value with
  | "config", some path => progress.addSettings path
  | "config", none => progress.await (.settings none)
  | "help", none => progress.stop .help
  | "version", none => progress.stop .version
  | "help", some _ | "version", some _ => .error .unwantedValue
  | name, _ => .error (.unknownOption s!"--{name}")

/-- Read the letter of a short option, behind which other characters may stand.  An equals sign in
front of a value is dropped. -/
def addShort (progress : Progress) (letter : Char) (rest : List Char) :
    Except UsageProblem Progress :=
  match letter, rest with
  | 'c', [] => progress.await (.settings none)
  | 'c', '=' :: path => progress.addSettings (String.ofList path)
  | 'c', path => progress.addSettings (String.ofList path)
  | 'h', _ => progress.stop .help
  | 'V', _ => progress.stop .version
  | letter, _ => .error (.unknownOption s!"-{letter}")

/-- Read an argument that is no option. -/
def addPlain (progress : Progress) (argument : String) : Except UsageProblem Progress :=
  match progress.pending with
  | some (.settings none) => .ok { progress with pending := some (.settings (some argument)) }
  | _ => progress.addFile argument

def read (progress : Progress) (argument : String) : Except UsageProblem Progress :=
  if progress.onlyFiles then progress.addFile argument
  else
    match argument.toList with
    | ['-', '-'] => .ok { progress with onlyFiles := true }
    | '-' :: '-' :: option =>
        let name := String.ofList (option.takeWhile (· != '='))
        match option.dropWhile (· != '=') with
        | _ :: value => progress.addLong name (some (String.ofList value))
        | [] => progress.addLong name none
    | '-' :: letter :: rest => progress.addShort letter rest
    | _ => progress.addPlain argument

def readAll (progress : Progress) : List String → Except UsageProblem Progress
  | [] => progress.settle
  | argument :: rest => do
      let next ← progress.read argument
      next.readAll rest

end Progress

def Options.ofArguments (arguments : List String) : Except UsageProblem Options := do
  let progress ← Progress.readAll {} arguments
  match progress.grid with
  | some grid => return ⟨grid, progress.hunts, progress.settings⟩
  | none => .error .missingGrid

end ScreenSight.Command
