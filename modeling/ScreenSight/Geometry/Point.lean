import ScreenSight.Geometry.Coordinate

/-!
# Points of the character plane

Columns grow to the right and rows grow downwards, and a point need not lie on any grid.  Points
are ordered like text, by row first.
-/

namespace ScreenSight

/-- A cell of the character plane. -/
structure Point where
  x : Coordinate
  y : Coordinate
  deriving DecidableEq, Inhabited

namespace Point

/-- Reading order: by row, and within a row by column. -/
def Before (left right : Point) : Prop :=
  left.y < right.y ∨ left.y = right.y ∧ left.x < right.x

instance : LT Point := ⟨Before⟩

theorem lt_def {left right : Point} :
    left < right ↔ left.y < right.y ∨ left.y = right.y ∧ left.x < right.x := Iff.rfl

instance (left right : Point) : Decidable (left < right) :=
  inferInstanceAs (Decidable (left.y < right.y ∨ left.y = right.y ∧ left.x < right.x))

theorem lt_trans {first second third : Point} (left : first < second) (right : second < third) :
    first < third := by
  simp only [lt_def, Int32.lt_iff_toInt_lt, ← Int32.toInt_inj] at left right ⊢
  omega

theorem lt_irrefl (point : Point) : ¬point < point := by
  simp only [lt_def, Int32.lt_iff_toInt_lt]
  omega

instance : Trans (α := Point) (· < ·) (· < ·) (· < ·) := ⟨lt_trans⟩

end Point

end ScreenSight
