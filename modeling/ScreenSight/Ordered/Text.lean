/-!
# The order of texts

Texts are ordered like their lists of characters, and characters by their code points.  In UTF-8
this is also the order of the bytes.
-/

namespace ScreenSight

/-- The order of texts is transitive. -/
instance textTransitive : Trans (α := String) (· < ·) (· < ·) (· < ·) := ⟨String.lt_trans⟩

end ScreenSight
