/-!
# Shortest decimals

A floating-point number stands for all reals that round to it.  Among the decimals in that interval
the shortest one names the number, and of several that are equally short the nearest.  All
arithmetic is exact.
-/

namespace ScreenSight.Decimal

/-- A positive binary number `mantissa · 2 ^ exponent`. -/
structure Binary where
  mantissa : Nat
  exponent : Int
  deriving DecidableEq, Inhabited

/-- A decimal number `digits · 10 ^ exponent`. -/
structure Numeral where
  digits : Nat
  exponent : Int
  deriving DecidableEq, Inhabited

/-- A fraction of natural numbers. -/
structure Fraction where
  numerator : Nat
  denominator : Nat
  deriving DecidableEq, Inhabited

/-- The fraction `count · base ^ exponent`. -/
def scaled (count base : Nat) (exponent : Int) : Fraction :=
  if 0 ≤ exponent then ⟨count * base.pow exponent.toNat, 1⟩
  else ⟨count, base.pow (-exponent).toNat⟩

def Fraction.atMost (left right : Fraction) : Bool :=
  left.numerator * right.denominator ≤ right.numerator * left.denominator

/-- The reals that round to a number, with the ends or without. -/
structure Interval where
  lower : Fraction
  upper : Fraction
  isClosed : Bool

namespace Binary

/-- The mantissa of a power of two; the numbers below the least such one do not reach it. -/
def leading : Nat := 0x10000000000000

/-- The number of the bits of a floating-point magnitude, which is neither zero nor infinite. -/
def ofBits (bits : Nat) : Binary :=
  let fraction : Nat := bits % leading
  let exponent : Nat := bits / leading
  if exponent = 0 then ⟨fraction, -1074⟩ else ⟨leading + fraction, (exponent : Int) - 1075⟩

/-- A number in quarters of its last place. -/
def quarters (number : Binary) (count : Nat) : Fraction :=
  scaled count 2 (number.exponent - 2)

def value (number : Binary) : Fraction :=
  number.quarters (4 * number.mantissa)

/-- The reals that round to a number.  Below a power of two the neighbour is only half as far. -/
def interval (number : Binary) : Interval where
  lower :=
    number.quarters
      (4 * number.mantissa -
        if number.mantissa = leading ∧ -1074 < number.exponent then 1 else 2)
  upper := number.quarters (4 * number.mantissa + 2)
  isClosed := number.mantissa % 2 = 0

end Binary

def Interval.contains (interval : Interval) (decimal : Numeral) : Bool :=
  let point := scaled decimal.digits 10 decimal.exponent
  if interval.isClosed then interval.lower.atMost point && point.atMost interval.upper
  else !point.atMost interval.lower && !interval.upper.atMost point

/-- The last decimal on a grid of powers of ten that does not exceed a fraction. -/
def floorOn (value : Fraction) (exponent : Int) : Numeral :=
  let step := scaled 1 10 exponent
  ⟨value.numerator * step.denominator / (value.denominator * step.numerator), exponent⟩

/-- Whether the upper of two neighbours on a grid is nearer to a fraction; halfway between them the
even one counts as nearer. -/
def upperIsNearer (value : Fraction) (below : Numeral) : Bool :=
  let middle := scaled (2 * below.digits + 1) 10 below.exponent
  let doubled : Fraction := ⟨2 * value.numerator, value.denominator⟩
  if doubled.atMost middle then middle.atMost doubled && below.digits % 2 == 1 else true

/-- The decimal on a grid in the interval of a number, the nearest if there are two next to it. -/
def onGrid? (number : Binary) (exponent : Int) : Option Numeral :=
  let below := floorOn number.value exponent
  let above : Numeral := ⟨below.digits + 1, exponent⟩
  let interval := number.interval
  match interval.contains below, interval.contains above with
  | true, true => some (if upperIsNearer number.value below then above else below)
  | true, false => some below
  | false, true => some above
  | false, false => none

/-- The first decimal on finer and finer grids. -/
def search (number : Binary) (exponent : Int) : Nat → Numeral
  | 0 => floorOn number.value exponent
  | steps + 1 =>
      match onGrid? number exponent with
      | some decimal => decimal
      | none => search number (exponent - 1) steps

/-- A decimal without zeros at the end of its digits. -/
def normalize (decimal : Numeral) : Nat → Numeral
  | 0 => decimal
  | steps + 1 =>
      if decimal.digits % 10 = 0 ∧ decimal.digits ≠ 0 then
        normalize ⟨decimal.digits / 10, decimal.exponent + 1⟩ steps
      else decimal

/-- The shortest decimal that names a number.  No such number reaches `10 ^ 309`, and none needs
digits beyond `10 ^ -342`. -/
def shortest (number : Binary) : Numeral :=
  normalize (search number 309 652) 20

end ScreenSight.Decimal
