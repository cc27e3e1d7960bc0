import ScreenSight.Command.Run
import ScreenSight.Json.Printer

/-!
# The command

Recognises the user interface on a captured screen and prints a report.
-/

namespace ScreenSight.Command

def versionText : String := "0.1.0"

/-- How the command is used. -/
def usageText : String :=
  "Usage: [OPTIONS] <GRID> [HUNT]...\n\n" ++
  "Arguments:\n" ++
  "  <GRID>     Text or terminal capture to recognize\n" ++
  "  [HUNT]...  HUNT sources, loaded after the ones named in the config\n\n" ++
  "Options:\n" ++
  "  -c, --config <YAML>  Optional YAML configuration\n" ++
  "  -h, --help           Print help\n" ++
  "  -V, --version        Print version"

/-- The text of a problem with the arguments, or what they ask for instead. -/
def UsageProblem.message : UsageProblem → String
  | missingGrid => "the following required arguments were not provided: <GRID>"
  | unknownOption name => s!"unexpected argument '{name}' found"
  | missingValue => "a value is required but none was supplied"
  | repeatedOption => "the argument '--config <YAML>' cannot be used multiple times"
  | unwantedValue => "unexpected value found; no more were expected"
  | help => usageText
  | version => versionText

/-- The content of a file, if it can be read. -/
def readFile (path : String) : IO (Option ByteArray) := do
  try
    return some (← IO.FS.readBinFile path)
  catch _ => return none

/-- Print why the arguments are not carried out; asking for help is no mistake. -/
def explain (problem : UsageProblem) : IO UInt32 := do
  match problem with
  | .help | .version =>
      IO.println problem.message
      return 0
  | _ =>
      IO.eprintln s!"error: {problem.message}"
      return 2

/-- Carry out the command with some options. -/
def perform (options : Options) : IO UInt32 := do
  match ← (run readFile options).run with
  | .ok performance =>
      IO.println performance.report.toValue.toJson
      return 0
  | .error problem =>
      IO.eprintln s!"Error: {problem.message}"
      if let .settings _ cause := problem then IO.eprintln s!"Caused by: {cause.message}"
      return 1

end ScreenSight.Command

/-- The command. -/
def main (arguments : List String) : IO UInt32 := do
  match ScreenSight.Command.Options.ofArguments arguments with
  | .ok options => ScreenSight.Command.perform options
  | .error problem => ScreenSight.Command.explain problem
