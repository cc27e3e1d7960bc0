/-!
# The total order of floating-point numbers

Floating-point numbers are totally ordered by sign and magnitude: negative zero comes before zero,
and numbers that are not numbers come last or, with a minus sign, first.
-/

namespace ScreenSight

/-- A key by whose value floating-point numbers are totally ordered.  The bits without the sign grow
with the magnitude. -/
def orderKey (number : Float) : Int :=
  let bits := number.toBits.toNat
  if bits < 0x8000000000000000 then bits else 0x7FFFFFFFFFFFFFFF - (bits : Int)

end ScreenSight
