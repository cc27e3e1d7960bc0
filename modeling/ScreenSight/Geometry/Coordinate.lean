/-!
# Coordinates

Columns and rows are 32-bit words.  Exact arithmetic on them goes through the integers, and comes
back by a saturating or a checked conversion.  Only a scan counts with a conversion that keeps the
low bits, whatever the others say.
-/

namespace ScreenSight

/-- A column or row of the character plane. -/
abbrev Coordinate := Int32

namespace Coordinate

theorem toInt_min (left right : Coordinate) :
    (min left right).toInt = min left.toInt right.toInt := by
  change (if left ≤ right then left else right).toInt = _
  split <;> simp_all only [Int32.le_iff_toInt_le] <;> omega

theorem toInt_max (left right : Coordinate) :
    (max left right).toInt = max left.toInt right.toInt := by
  change (if left ≤ right then right else left).toInt = _
  split <;> simp_all only [Int32.le_iff_toInt_le] <;> omega

/-- The coordinate nearest to an integer. -/
def saturate (value : Int) : Coordinate :=
  Int32.ofInt (max (-0x80000000) (min value 0x7FFFFFFF))

theorem toInt_saturate (value : Int) :
    (saturate value).toInt = max (-0x80000000) (min value 0x7FFFFFFF) :=
  Int32.toInt_ofInt_of_le (by omega) (by omega)

/-- The coordinate equal to an integer, if there is one. -/
def ofInt? (value : Int) : Option Coordinate :=
  if -0x80000000 ≤ value ∧ value < 0x80000000 then some (Int32.ofInt value) else none

/-- The coordinates from one bound to another, both included, in increasing order. -/
def upTo (first last : Coordinate) : List Coordinate :=
  (List.range (last.toInt + 1 - first.toInt).toNat).map fun (offset : Nat) =>
    Int32.ofInt (first.toInt + offset)

/-- The coordinates below a natural number, as far as there are any. -/
def below (count : Nat) : List Coordinate :=
  (List.range (min count 0x80000000)).map fun (index : Nat) => Int32.ofInt index

/-- The number of places that a scan of an extent comes to: what the low bits of the extent say, and
none if that is negative. -/
def scanEnd (extent : Nat) : Nat :=
  (Int32.ofNat extent).toInt.toNat

/-- The coordinates that a scan of an extent comes to, in increasing order. -/
def scanned (extent : Nat) : List Coordinate :=
  below (scanEnd extent)

/-- The natural number equal to a coordinate, if there is one. -/
def toNat? (value : Coordinate) : Option Nat :=
  value.toInt.toNat?

end Coordinate

end ScreenSight
