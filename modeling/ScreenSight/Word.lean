/-!
# Machine words

Sizes and the numbers of places in storage are words of 64 bits.  A sum or a product that needs more
bits keeps only the low ones.
-/

namespace ScreenSight.Word

/-- The number of words, which is the first number that is not one. -/
def count : Nat := 0x10000000000000000

/-- A number is a word. -/
def Fits (value : Nat) : Prop :=
  value < count

instance (value : Nat) : Decidable (Fits value) :=
  inferInstanceAs (Decidable (value < count))

/-- What a word keeps of a number. -/
def wrap (value : Nat) : Nat :=
  value % count

theorem wrap_of_fits {value : Nat} (fits : Fits value) : wrap value = value :=
  Nat.mod_eq_of_lt fits

theorem fits_wrap (value : Nat) : Fits (wrap value) :=
  Nat.mod_lt value (by decide)

theorem wrap_le (value : Nat) : wrap value ≤ value :=
  Nat.mod_le value count

theorem wrap_wrap_add (left right : Nat) : wrap (wrap left + right) = wrap (left + right) :=
  Nat.mod_add_mod left count right

/-- A sum becomes smaller than what a word is added to just if it is not a word. -/
theorem wrap_add_lt_iff {left right : Nat} (fits : Fits right) :
    wrap (left + right) < left ↔ ¬Fits (left + right) := by
  simp only [Fits, wrap, count] at *
  omega

end ScreenSight.Word
