import ScreenSight.Geometry.Coordinate

/-!
# Structured values

Properties of components, settings and reports are structured data: null, truth values, numbers,
texts, lists and records.  The readers below accept a value of one shape and refuse all others; a
record type may also be given as the list of its fields in their order.
-/

namespace ScreenSight

/-- A piece of structured data. -/
inductive Value where
  | null
  | truth (value : Bool)
  | integer (value : Int)
  | real (value : Float)
  | text (value : String)
  | list (items : List Value)
  /-- Named fields in order. -/
  | record (fields : List (String × Value))
  deriving Inhabited

namespace Value

def truth? : Value → Option Bool
  | truth value => some value
  | _ => none

def text? : Value → Option String
  | text value => some value
  | _ => none

def integer? : Value → Option Int
  | integer value => some value
  | _ => none

def coordinate? (value : Value) : Option Coordinate :=
  value.integer?.bind Coordinate.ofInt?

/-- A natural number of 64 bits. -/
def size? (value : Value) : Option Nat :=
  value.integer?.bind fun number =>
    if 0 ≤ number ∧ number < 0x10000000000000000 then some number.toNat else none

/-- A number as a floating-point value. -/
def real? : Value → Option Float
  | real value => some value
  | integer value => some (Float.ofInt value)
  | _ => none

def items? : Value → Option (List Value)
  | list items => some items
  | _ => none

def fields? : Value → Option (List (String × Value))
  | record fields => some fields
  | _ => none

/-- A list of things of one kind. -/
def listOf? {α : Type} (read : Value → Option α) (value : Value) : Option (List α) :=
  value.items?.bind fun items => items.mapM read

/-- Null, or a thing of some kind. -/
def nullable? {α : Type} (read : Value → Option α) : Value → Option (Option α)
  | null => some none
  | value => (read value).map some

/-- A word out of a fixed list; it may also be given as a record with null under that word. -/
def word? : Value → Option String
  | text value => some value
  | record [(name, null)] => some name
  | _ => none

/-- The fields of a structure with the given names, in the order of the names if they come as a
list. -/
def structure? (names : List String) : Value → Option (String → Option Value)
  | record fields => some fun name => (fields.find? fun field => field.1 == name).map Prod.snd
  | list items =>
      if items.length ≤ names.length then some fun name => items[names.idxOf name]? else none
  | _ => none

def required? {α : Type} (field : Option Value) (read : Value → Option α) : Option α :=
  field.bind read

def withDefault? {α : Type} (field : Option Value) (read : Value → Option α) (default : α) :
    Option α :=
  match field with
  | some value => read value
  | none => some default

def ofTexts (texts : List String) : Value :=
  list (texts.map text)

end Value

end ScreenSight
