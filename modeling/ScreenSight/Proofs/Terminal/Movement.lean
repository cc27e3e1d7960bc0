import ScreenSight.Proofs.Terminal.Screen

/-!
# Which way the cursor moves

Moves stop at the limits, but printing does not: it carries the cursor on behind the
last column, one column for each character that is dropped.  So a move to the right from
behind the last column leads back to it.  Besides, a move that counts beyond the words
begins anew at the first row or column.  No other move down or to the right leads to a
smaller row or column.
-/

namespace ScreenSight.Terminal.Canvas

/-- The canvas of a capture that comes in pieces. -/
def ofPieces (limits : Limits) (pieces : List (List UInt8)) : Canvas :=
  pieces.foldl feed { limits := limits }

theorem applyAll_ofPieces (limits : Limits) (pieces : List (List UInt8))
    (actions : List Action) :
    (ofPieces limits pieces).applyAll actions =
      ({ limits := limits } : Canvas).applyAll (pieces.flatMap decode ++ actions) := by
  rw [applyAll, applyAll, List.foldl_append, List.foldl_flatMap]
  rfl

/-- After some actions the cursor stands within the limits but for the columns of
characters that were dropped, of which there is at most one for each action. -/
structure KeepsCursor (limits : Limits) (performed : Nat) (canvas : Canvas) : Prop where
  sameLimits : canvas.limits = limits
  row : canvas.row ≤ limits.maxHeight
  clipped : canvas.clipped ≤ performed
  column : Word.Fits performed → canvas.column ≤ limits.maxWidth + canvas.clipped

namespace KeepsCursor

variable {limits : Limits} {performed : Nat} {canvas : Canvas}

theorem empty (limits : Limits) : KeepsCursor limits 0 { limits := limits } :=
  ⟨rfl, Nat.zero_le _, Nat.zero_le _, fun _ => Nat.zero_le _⟩

theorem withRows (keeps : KeepsCursor limits performed canvas) (rows : List (List Char)) :
    KeepsCursor limits (performed + 1) { canvas with rows := rows } :=
  ⟨keeps.sameLimits, keeps.row, Nat.le_succ_of_le keeps.clipped,
    fun words => keeps.column (Nat.lt_of_succ_lt words)⟩

theorem print (keeps : KeepsCursor limits performed canvas) (c : Char) :
    KeepsCursor limits (performed + 1) (canvas.apply (.print c)) := by
  obtain ⟨rfl, row, clipped, column⟩ := keeps
  have next := Word.wrap_le (canvas.column + 1)
  have dropped := Word.wrap_le (canvas.clipped + 1)
  by_cases held : canvas.limits.holds canvas.cursor = true
  · have within : canvas.column < canvas.limits.maxWidth := (Limits.holds_iff.mp held).1
    rw [apply, put_of_holds held]
    refine ⟨rfl, row, Nat.le_succ_of_le clipped, fun _ => ?_⟩
    exact Nat.le_add_right_of_le (Nat.le_trans next within)
  · -- a character outside of the limits is dropped
    rw [apply, put_of_not_holds held]
    refine ⟨rfl, row, Nat.le_trans dropped (Nat.succ_le_succ clipped), fun words => ?_⟩
    have before := column (Nat.lt_of_succ_lt words)
    have counted : Word.wrap (canvas.clipped + 1) = canvas.clipped + 1 :=
      Word.wrap_of_fits (Nat.lt_of_le_of_lt (Nat.succ_le_succ clipped) words)
    change Word.wrap (canvas.column + 1) ≤ canvas.limits.maxWidth + Word.wrap (canvas.clipped + 1)
    omega

theorem apply (keeps : KeepsCursor limits performed canvas) (action : Action) :
    KeepsCursor limits (performed + 1) (canvas.apply action) := by
  cases action with
  | print c => exact keeps.print c
  | eraseScreen mode =>
      obtain ⟨rows, same, _⟩ := canvas.eraseScreen_frame mode
      rw [Canvas.apply, same]
      exact keeps.withRows rows
  | eraseRow mode =>
      obtain ⟨rows, same, _⟩ := canvas.eraseRow_frame mode
      rw [Canvas.apply, same]
      exact keeps.withRows rows
  | _ =>
      obtain ⟨rfl, row, clipped, column⟩ := keeps
      refine ⟨rfl, ?_, Nat.le_succ_of_le clipped, fun words => ?_⟩
      · simp only [Canvas.apply]
        omega
      · have before := column (Nat.lt_of_succ_lt words)
        simp only [Canvas.apply]
        omega

theorem applyAll (keeps : KeepsCursor limits performed canvas) (actions : List Action) :
    KeepsCursor limits (performed + actions.length) (canvas.applyAll actions) := by
  induction actions generalizing performed canvas with
  | nil => exact keeps
  | cons action rest induction =>
      have behind := induction (keeps.apply action)
      rwa [Nat.add_assoc, Nat.add_comm 1] at behind

end KeepsCursor

/-- Whatever has been received, and whatever actions of a further piece have been carried out,
a move down leads to a smaller row just if it counts beyond the words, which the greatest
height has to be close to.  A move to the right leads to a smaller column just if it does so
or if the cursor stands behind the last column, where only characters that were dropped can
have brought it. -/
theorem cursor_advances (limits : Limits) (pieces : List (List UInt8)) (actions : List Action) :
    let canvas := (ofPieces limits pieces).applyAll actions
    (∀ count, Word.Fits count →
        ((canvas.apply (.down count)).row < canvas.row ↔ ¬Word.Fits (canvas.row + count))) ∧
      ((canvas.apply .lineFeed).row < canvas.row ↔ ¬Word.Fits (canvas.row + 1)) ∧
      canvas.row ≤ limits.maxHeight ∧
      (∀ count, Word.Fits count →
        ((canvas.apply (.forward count)).column < canvas.column ↔
          limits.maxWidth < canvas.column ∨ ¬Word.Fits (canvas.column + count))) ∧
      ((canvas.apply .tab).column < canvas.column ↔
        limits.maxWidth < canvas.column ∨
          ¬Word.Fits (nextTabStop limits.tabWidth canvas.column)) ∧
      (Word.Fits (pieces.flatMap decode ++ actions).length →
        canvas.column ≤ limits.maxWidth + canvas.clipped) := by
  intro canvas
  obtain ⟨same, row, _, column⟩ :
      KeepsCursor limits (pieces.flatMap decode ++ actions).length canvas := by
    have keeps := (KeepsCursor.empty limits).applyAll (pieces.flatMap decode ++ actions)
    rwa [Nat.zero_add, ← applyAll_ofPieces] at keeps
  have one : Word.Fits 1 := by decide
  rw [← same] at row column ⊢
  refine ⟨?_, ?_, row, ?_, ?_, column⟩
  · intro count word
    rw [← Word.wrap_add_lt_iff word]
    change min (Word.wrap (canvas.row + count)) _ < _ ↔ _
    omega
  · rw [← Word.wrap_add_lt_iff one]
    change min (Word.wrap (canvas.row + 1)) _ < _ ↔ _
    omega
  · intro count word
    rw [← Word.wrap_add_lt_iff word]
    change min (Word.wrap (canvas.column + count)) _ < _ ↔ _
    omega
  · obtain ⟨distance, stop⟩ :=
      Nat.exists_eq_add_of_le (le_nextTabStop canvas.limits.tabWidth canvas.column)
    have bound := nextTabStop_le canvas.limits.tabWidth canvas.column
    have word : Word.Fits distance :=
      Nat.lt_of_le_of_lt (by omega) (Nat.max_lt.mpr ⟨canvas.limits.fits.2.2, one⟩)
    rw [stop, ← Word.wrap_add_lt_iff word, ← stop]
    change min (Word.wrap (nextTabStop _ _)) _ < _ ↔ _
    omega

/-- A move to the right can lead to the left. -/
theorem forward_retreats :
    let canvas := ofPieces { maxWidth := 3 } ["abcdef".toUTF8.data.toList]
    canvas.column = 6 ∧ (canvas.apply (.forward 1)).column = 3 ∧ (canvas.apply .tab).column = 3 ∧
      (canvas.feed "\x1B[C".toUTF8.data.toList).column = 3 := by
  decide

end ScreenSight.Terminal.Canvas
