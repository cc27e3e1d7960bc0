import Mathlib.Data.List.Count
import ScreenSight.Hunt.Position
import ScreenSight.Proofs.Hunt.Lexer

/-!
# Lines and columns

The position of an offset only depends on the text before it.  Where that text is
known to begin with another one, counting may as well go on from the position
behind the other one.
-/

namespace ScreenSight.Hunt.Position

/-- The position an offset further on in a text that begins at a position.  An offset behind the
last byte counts as the end; one inside a character has no column of its own and gets the
first. -/
def advance (position : Position) (offset : Nat) : List Char → Position
  | [] => position
  | c :: rest =>
      if offset = 0 then position
      else if offset < c.utf8Size then ⟨position.line, 1⟩
      else if c = '\n' then advance ⟨position.line + 1, 1⟩ (offset - c.utf8Size) rest
      else advance ⟨position.line, position.column + 1⟩ (offset - c.utf8Size) rest

/-- The position behind one more character. -/
def next (position : Position) (c : Char) : Position :=
  if c = '\n' then ⟨position.line + 1, 1⟩ else ⟨position.line, position.column + 1⟩

/-- The position behind a text that begins at a position. -/
def after (position : Position) (text : List Char) : Position :=
  text.foldl next position

theorem line_next (position : Position) (c : Char) :
    (position.next c).line = position.line + if c = '\n' then 1 else 0 := by
  rw [next]
  split <;> rfl

theorem line_after (position : Position) (text : List Char) :
    (position.after text).line = position.line + text.count '\n' := by
  induction text generalizing position with
  | nil => rfl
  | cons c text induction =>
      rw [after, List.foldl_cons, ← after, induction, line_next, List.count_cons, Nat.add_assoc]
      simp only [beq_iff_eq, Nat.add_comm]

theorem advance_zero (position : Position) (text : List Char) :
    position.advance 0 text = position := by
  cases text with
  | nil => rfl
  | cons c text => exact if_pos rfl

theorem advance_cons_of_le
    {position : Position} {offset : Nat} {c : Char} {text : List Char}
    (behind : c.utf8Size ≤ offset) :
    position.advance offset (c :: text) =
      (position.next c).advance (offset - c.utf8Size) text := by
  have reached : offset ≠ 0 := Nat.ne_of_gt (Nat.lt_of_lt_of_le c.utf8Size_pos behind)
  rw [advance, if_neg reached, if_neg (Nat.not_lt.mpr behind), next]
  split <;> rfl

theorem advance_cons_of_lt
    {position : Position} {offset : Nat} {c : Char}
    (inside : offset < c.utf8Size) (text : List Char) :
    position.advance offset (c :: text) =
      if offset = 0 then position else ⟨position.line, 1⟩ := by
  rw [advance, if_pos inside]

/-- Behind a text, counting goes on from the position behind it. -/
theorem advance_append_right (position : Position) (offset : Nat) (first second : List Char) :
    position.advance (byteSize first + offset) (first ++ second) =
      (position.after first).advance offset second := by
  induction first generalizing position with
  | nil =>
      rw [byteSize, Nat.zero_add]
      rfl
  | cons c first induction =>
      have behind : c.utf8Size ≤ byteSize (c :: first) + offset := by
        rw [byteSize]
        omega
      have left : byteSize (c :: first) + offset - c.utf8Size = byteSize first + offset := by
        rw [byteSize]
        omega
      rw [List.cons_append, advance_cons_of_le behind, left, induction]
      rfl

/-- Within a text, what follows it does not count. -/
theorem advance_append_left
    {offset : Nat} {first : List Char} (within : offset ≤ byteSize first)
    (position : Position) (second : List Char) :
    position.advance offset (first ++ second) = position.advance offset first := by
  induction first generalizing position offset with
  | nil =>
      rw [Nat.le_zero.mp within, advance_zero, advance_zero]
  | cons c first induction =>
      rw [byteSize] at within
      rw [List.cons_append]
      by_cases inside : offset < c.utf8Size
      · rw [advance_cons_of_lt inside, advance_cons_of_lt inside]
      · have behind := Nat.not_lt.mp inside
        rw [advance_cons_of_le behind, advance_cons_of_le behind, induction]
        omega

/-- Lines are counted on from the first one, in whatever column it begins. -/
theorem line_advance
    {first second : Position} {lines : Nat} (below : second.line = first.line + lines)
    (offset : Nat) (text : List Char) :
    (second.advance offset text).line = (first.advance offset text).line + lines := by
  induction text generalizing first second offset with
  | nil => exact below
  | cons c text induction =>
      by_cases inside : offset < c.utf8Size
      · rw [advance_cons_of_lt inside, advance_cons_of_lt inside]
        split <;> exact below
      · have behind := Nat.not_lt.mp inside
        rw [advance_cons_of_le behind, advance_cons_of_le behind]
        apply induction
        rw [line_next, line_next, below, Nat.add_right_comm]

end ScreenSight.Hunt.Position
