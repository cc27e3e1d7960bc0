import ScreenSight.Decimal.Shortest
import ScreenSight.Value

/-!
# Structured data as JSON text

The text spreads over lines, two blanks deeper for each level.  Only what has to be escaped in a
string is escaped.
-/

namespace ScreenSight.Json

/-- The hexadecimal digit of a number below sixteen. -/
def hexDigit (number : Nat) : Char :=
  Nat.digitChar number

/-- A character within a string. -/
def escape (c : Char) : List Char :=
  match c with
  | '"' => ['\\', '"']
  | '\\' => ['\\', '\\']
  | '\x08' => ['\\', 'b']
  | '\x0c' => ['\\', 'f']
  | '\n' => ['\\', 'n']
  | '\r' => ['\\', 'r']
  | '\t' => ['\\', 't']
  | c =>
      if c.toNat < 32 then
        ['\\', 'u', '0', '0', hexDigit (c.toNat / 16), hexDigit (c.toNat % 16)]
      else [c]

def quote (text : String) : String :=
  String.ofList ('"' :: text.toList.flatMap escape ++ ['"'])

/-- How many places before the first digit the point may stand, as a negative number, where no
exponent is written. -/
def positionalFrom : Int := -4

/-- How many places behind the first digit the point may stand where no exponent is written. -/
def positionalTo : Int := 16

/-- A positive decimal.  There is a digit on both sides of the point, unless an exponent follows a
single digit. -/
def decimalText (decimal : Decimal.Numeral) : String :=
  let digits := (Nat.toDigits 10 decimal.digits)
  let count : Int := digits.length
  let point := count + decimal.exponent
  let zeros (number : Int) : List Char := List.replicate number.toNat '0'
  if point < positionalFrom ∨ positionalTo < point then
    let fraction := if digits.length = 1 then [] else '.' :: digits.drop 1
    String.ofList (digits.take 1 ++ fraction ++ ['e']) ++ toString (point - 1)
  else if point ≤ 0 then String.ofList (['0', '.'] ++ zeros (-point) ++ digits)
  else if count ≤ point then String.ofList (digits ++ zeros (point - count) ++ ['.', '0'])
  else String.ofList (digits.take point.toNat ++ '.' :: digits.drop point.toNat)

/-- A floating-point number, by its shortest decimal.  What is no finite number is null. -/
def realText (number : Float) : String :=
  let bits := number.toBits.toNat
  let magnitude := bits % 0x8000000000000000
  let sign := if bits < 0x8000000000000000 then "" else "-"
  if 0x7FF0000000000000 ≤ magnitude then "null"
  else if magnitude = 0 then sign ++ "0.0"
  else sign ++ decimalText (Decimal.shortest (Decimal.Binary.ofBits magnitude))

def lineBreak (level : Nat) : String :=
  String.ofList ('\n' :: List.replicate (2 * level) ' ')

/-- Parts on lines of their own between two brackets; no parts take no lines. -/
def enclose (opening closing : String) (level : Nat) (parts : List String) : String :=
  if parts.isEmpty then opening ++ closing
  else
    opening ++ lineBreak (level + 1) ++ (("," ++ lineBreak (level + 1)).intercalate parts) ++
      lineBreak level ++ closing

mutual

def textAt (level : Nat) : Value → String
  | .null => "null"
  | .truth value => if value then "true" else "false"
  | .integer value => toString value
  | .real value => realText value
  | .text value => quote value
  | .list items => enclose "[" "]" level (itemsAt (level + 1) items)
  | .record fields => enclose "\x7b" "\x7d" level (fieldsAt (level + 1) fields)

def itemsAt (level : Nat) : List Value → List String
  | [] => []
  | item :: rest => textAt level item :: itemsAt level rest

def fieldsAt (level : Nat) : List (String × Value) → List String
  | [] => []
  | (name, value) :: rest => (quote name ++ ": " ++ textAt level value) :: fieldsAt level rest

end

end ScreenSight.Json

namespace ScreenSight

def Value.toJson (value : Value) : String :=
  Json.textAt 0 value

end ScreenSight
