import ScreenSight.Word

/-!
# Limits of a grid

A grid that is loaded from a capture stays within a greatest width and height; whatever falls
outside is dropped.  Tabulators stand a fixed number of columns apart, where zero counts as one.
-/

namespace ScreenSight

/-- How large a loaded grid may become and how far apart tab stops are. -/
structure Limits where
  maxWidth : Nat := 1000
  maxHeight : Nat := 1000
  tabWidth : Nat := 8
  fits : Word.Fits maxWidth ∧ Word.Fits maxHeight ∧ Word.Fits tabWidth := by decide
  deriving DecidableEq

instance : Inhabited Limits := ⟨{}⟩

/-- The limits with the given sizes, if these are words. -/
def Limits.ofSizes? (maxWidth maxHeight tabWidth : Nat) : Option Limits :=
  if fits : Word.Fits maxWidth ∧ Word.Fits maxHeight ∧ Word.Fits tabWidth then
    some ⟨maxWidth, maxHeight, tabWidth, fits⟩
  else none

/-- The first tab stop behind a column. -/
def nextTabStop (tabWidth column : Nat) : Nat :=
  let distance := max tabWidth 1
  (column / distance + 1) * distance

theorem le_nextTabStop (tabWidth column : Nat) : column ≤ nextTabStop tabWidth column := by
  have positive : 0 < max tabWidth 1 := by omega
  have beyond := Nat.lt_mul_div_succ column positive
  rw [nextTabStop, Nat.mul_comm]
  exact Nat.le_of_lt beyond

theorem nextTabStop_le (tabWidth column : Nat) :
    nextTabStop tabWidth column ≤ column + max tabWidth 1 := by
  have before := Nat.div_mul_le_self column (max tabWidth 1)
  rw [nextTabStop, Nat.add_mul, Nat.one_mul]
  omega

end ScreenSight
