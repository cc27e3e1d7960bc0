import ScreenSight.Yaml.Numeral

/-!
# YAML nodes

A document is a tree of sequences, mappings and scalars.  A scalar keeps its text and whether it was
written without quotes, since what it stands for depends on what is expected of it.
-/

namespace ScreenSight.Yaml

/-- A node of a document. -/
inductive Node where
  /-- A text; `plain` if it was written without quotes. -/
  | scalar (text : String) (plain : Bool)
  | sequence (items : List Node)
  /-- Keys and values in the order of the document. -/
  | mapping (entries : List (Node × Node))
  deriving Inhabited

namespace Node

def missing : Node :=
  scalar "" true

def isNullText (text : String) : Bool :=
  text == "" || text == "~" || text == "null" || text == "Null" || text == "NULL"

def isNull : Node → Bool
  | scalar text true => isNullText text
  | _ => false

def text? : Node → Option String
  | scalar text _ => some text
  | _ => none

def truth? : Node → Option Bool
  | scalar text true =>
      if text == "true" || text == "True" || text == "TRUE" then some true
      else if text == "false" || text == "False" || text == "FALSE" then some false
      else none
  | _ => none

/-- A natural number of 64 bits. -/
def size? : Node → Option Nat
  | scalar text true =>
      (naturalOfText? text.toList).filter fun number => number < 0x10000000000000000
  | _ => none

/-- The items of a sequence; nothing at all has none. -/
def items? : Node → Option (List Node)
  | sequence items => some items
  | scalar "" true => some []
  | _ => none

/-- An entry of a mapping whose key is a text. -/
def namedEntry? (entry : Node × Node) : Option (String × Node) :=
  entry.1.text?.map fun name => (name, entry.2)

/-- The fields of a structure with the given names.  All keys are texts, and none of the names may
be given twice; nothing at all has no fields. -/
def structure? (names : List String) : Node → Option (String → Option Node)
  | mapping entries => do
      let fields ← entries.mapM namedEntry?
      let known := (fields.map Prod.fst).filter names.contains
      if known.length == known.eraseDups.length then
        some fun name => (fields.find? fun field => field.1 == name).map Prod.snd
      else none
  | scalar "" true => some fun _ => none
  | _ => none

end Node

end ScreenSight.Yaml
