import ScreenSight.Command.Path

/-!
# Files in memory

A file tree holds the contents of files under relative paths.  A path leads to a file step by step:
each name before the last has to be a directory, and nothing lies outside.
-/

namespace ScreenSight

/-- Some files with their contents. -/
structure FileTree where
  files : List (List String × ByteArray)

namespace FileTree

/-- The tree of files under the given paths. -/
def ofList (files : List (String × ByteArray)) : FileTree :=
  ⟨files.map fun (path, content) => (Path.names path, content)⟩

def isDirectory (tree : FileTree) (place : List String) : Bool :=
  tree.files.any fun file => place.isPrefixOf file.1 && place.length < file.1.length

/-- The content of the file that some names lead to from a place, whose own names are given last one
first. -/
def walk? (tree : FileTree) (place : List String) : List String → Option ByteArray
  | [] => none
  | name :: rest =>
      if name = "" ∨ name = "." then tree.walk? place rest
      else if name = ".." then
        match place with
        | [] => none
        | _ :: above => tree.walk? above rest
      else if rest.isEmpty then
        (tree.files.find? fun file => file.1 == (name :: place).reverse).map Prod.snd
      else if tree.isDirectory (name :: place).reverse then tree.walk? (name :: place) rest
      else none

def read? (tree : FileTree) (path : String) : Option ByteArray :=
  if Path.isAbsolute path then none else tree.walk? [] (Path.names path)

end FileTree

end ScreenSight
