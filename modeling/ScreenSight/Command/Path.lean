/-!
# Paths of files

Names of directories and files in a path are separated by slashes.  Paths are joined as texts, so
steps upwards stay in them.
-/

namespace ScreenSight.Path

/-- Whether a path starts at the root. -/
def isAbsolute (path : String) : Bool :=
  path.toList.head? == some '/'

def names (path : String) : List String :=
  (path.toList.splitOnP (· == '/')).map String.ofList

/-- A path as it ends, last character first, without separators and empty steps. -/
def dropEmptySteps : List Char → List Char
  | '/' :: rest => dropEmptySteps rest
  | ['.'] => ['.']
  | '.' :: '/' :: rest => dropEmptySteps ('/' :: rest)
  | characters => characters
termination_by characters => characters.length

/-- The directory of a path.  Names that lead nowhere do not count; a path of one name has an empty
directory. -/
def directory (path : String) : String :=
  let behind := (dropEmptySteps path.toList.reverse).dropWhile (· != '/')
  match dropEmptySteps behind with
  | [] => if behind.isEmpty then "" else "/"
  | rest => String.ofList rest.reverse

/-- A path relative to a directory; an empty directory adds nothing. -/
def join (directory path : String) : String :=
  if directory.isEmpty || directory.toList.getLast? == some '/' then directory ++ path
  else directory ++ "/" ++ path

/-- A path as seen from the place of another file, unless it is absolute. -/
def besides (file path : String) : String :=
  if isAbsolute path then path else join (directory file) path

end ScreenSight.Path
