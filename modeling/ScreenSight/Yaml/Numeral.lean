/-!
# Numerals

Natural numbers are written in decimal, or in base 16, 8 or 2 behind a mark that names the base.
-/

namespace ScreenSight.Yaml

def digitValue? (base : Nat) (c : Char) : Option Nat :=
  let value :=
    if c.isDigit then c.toNat - '0'.toNat
    else if 'a' ≤ c && c ≤ 'f' then c.toNat - 'a'.toNat + 10
    else if 'A' ≤ c && c ≤ 'F' then c.toNat - 'A'.toNat + 10
    else base
  if value < base then some value else none

/-- The number that some digits write in a base; there must be a digit. -/
def number? (base : Nat) (digits : List Char) : Option Nat :=
  if digits.isEmpty then none
  else (digits.mapM (digitValue? base)).map fun values =>
    values.foldl (fun number value => number * base + value) 0

/-- The number that a text without a sign writes, in decimal without leading zeros, or in base 16, 8
or 2 behind `0x`, `0o` or `0b`. -/
def unsigned? : List Char → Option Nat
  | '0' :: 'x' :: digits => number? 16 digits
  | '0' :: 'o' :: digits => number? 8 digits
  | '0' :: 'b' :: digits => number? 2 digits
  | '0' :: _ :: _ => none
  | digits => number? 10 digits

/-- The natural number that a plain text writes.  A plus sign may stand in front; with a minus sign
a text writes no natural number, not even zero. -/
def naturalOfText? : List Char → Option Nat
  | '+' :: text => unsigned? text
  | text => unsigned? text

end ScreenSight.Yaml
