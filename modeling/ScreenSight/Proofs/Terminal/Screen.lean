import Mathlib.Data.List.DropRight
import ScreenSight.Proofs.Grid.Reading
import ScreenSight.Terminal.Canvas

/-!
# The canvas as an unbounded screen

A canvas keeps ragged rows, grows them when it is written to, and cuts them off
when it is erased.  None of this shows: it reads like an unbounded screen on which
characters are put and areas are blanked, as long as no action counts to a number
that is not a word.  The grid that it is frozen into reads the same and ends with
the last row that is not blank.
-/

namespace ScreenSight

/-- A cell of an unbounded screen. -/
structure Place where
  column : Nat := 0
  row : Nat := 0
  deriving DecidableEq

/-- Whether a cell lies within the limits. -/
def Limits.holds (limits : Limits) (place : Place) : Bool :=
  place.column < limits.maxWidth && place.row < limits.maxHeight

theorem Limits.holds_iff {limits : Limits} {place : Place} :
    limits.holds place = true ↔
      place.column < limits.maxWidth ∧ place.row < limits.maxHeight := by
  simp [holds]

namespace Terminal

/-! ## The screen -/

/-- The order in which cells are read: whether a cell is another one or stands before
it. -/
def notAfter (place other : Place) : Bool :=
  place.row < other.row || (place.row = other.row && place.column ≤ other.column)

/-- Where an action moves the cursor. -/
def moveCursor (limits : Limits) (cursor : Place) : Action → Place
  | .print _ => ⟨cursor.column + 1, cursor.row⟩
  | .backspace => ⟨cursor.column - 1, cursor.row⟩
  | .tab => ⟨min (nextTabStop limits.tabWidth cursor.column) limits.maxWidth, cursor.row⟩
  | .lineFeed => ⟨0, min (cursor.row + 1) limits.maxHeight⟩
  | .carriageReturn => ⟨0, cursor.row⟩
  | .up count => ⟨cursor.column, cursor.row - count⟩
  | .down count => ⟨cursor.column, min (cursor.row + count) limits.maxHeight⟩
  | .forward count => ⟨min (cursor.column + count) limits.maxWidth, cursor.row⟩
  | .backward count => ⟨cursor.column - count, cursor.row⟩
  | .position row column =>
      ⟨min (column - 1) limits.maxWidth, min (row - 1) limits.maxHeight⟩
  | .eraseScreen _ => cursor
  | .eraseRow _ => cursor

/-- The number that an action counts to from where the cursor stands. -/
def reach (limits : Limits) (cursor : Place) : Action → Nat
  | .print _ => cursor.column + 1
  | .tab => nextTabStop limits.tabWidth cursor.column
  | .lineFeed => cursor.row + 1
  | .down count => cursor.row + count
  | .forward count => cursor.column + count
  | .eraseScreen 0 => cursor.row + 1
  | .eraseScreen 1 => cursor.column + 1
  | .eraseRow 1 => cursor.column + 1
  | .eraseScreen _ | .eraseRow _ | .backspace | .carriageReturn | .up _ | .backward _
  | .position _ _ => 0

/-- Some actions count to nothing but words. -/
def CountsInWords (limits : Limits) : Place → List Action → Prop
  | _, [] => True
  | cursor, action :: rest =>
      Word.Fits (reach limits cursor action) ∧
        CountsInWords limits (moveCursor limits cursor action) rest

/-- Whether an action blanks a cell. -/
def erases (cursor : Place) (action : Action) (place : Place) : Bool :=
  match action with
  | .eraseScreen 0 => notAfter cursor place
  | .eraseScreen 1 => notAfter place cursor
  | .eraseScreen 2 => true
  | .eraseScreen 3 => true
  | .eraseRow 0 => place.row = cursor.row && cursor.column ≤ place.column
  | .eraseRow 1 => place.row = cursor.row && place.column ≤ cursor.column
  | .eraseRow 2 => place.row = cursor.row
  | _ => false

/-- An unbounded screen with a cursor. -/
structure Screen where
  cursor : Place := {}
  plane : Place → Char := fun _ => blank

namespace Screen

/-- What an action does to the screen.  A character is put at the cursor if that is
within the limits. -/
def perform (limits : Limits) (screen : Screen) (action : Action) : Screen where
  cursor := moveCursor limits screen.cursor action
  plane place :=
    match action with
    | .print c =>
        if limits.holds screen.cursor ∧ place = screen.cursor then c else screen.plane place
    | _ => if erases screen.cursor action place then blank else screen.plane place

/-- The screen after some actions. -/
def performAll (limits : Limits) (screen : Screen) (actions : List Action) : Screen :=
  actions.foldl (perform limits) screen

/-- The screen needs so many rows: none if it is blank, else those down to the last
one that is not blank. -/
def HasHeight (screen : Screen) : Nat → Prop
  | 0 => ∀ place, screen.plane place = blank
  | row + 1 =>
      (∃ column, screen.plane ⟨column, row⟩ ≠ blank) ∧
        ∀ place, screen.plane place ≠ blank → place.row ≤ row

end Screen

/-- Whether an action puts a character outside of the limits. -/
def loses (limits : Limits) (cursor : Place) (action : Action) : Bool :=
  (action matches .print _) && !limits.holds cursor

/-- How many characters some actions put outside of the limits. -/
def countLost (limits : Limits) (cursor : Place) (actions : List Action) : Nat :=
  (actions.zip (actions.scanl (moveCursor limits) cursor)).countP fun (action, place) =>
    loses limits place action

theorem countLost_cons (limits : Limits) (cursor : Place) (action : Action)
    (rest : List Action) :
    countLost limits cursor (action :: rest) =
      (if loses limits cursor action then 1 else 0) +
        countLost limits (moveCursor limits cursor action) rest := by
  rw [countLost, List.scanl_cons, List.zip_cons_cons, List.countP_cons, Nat.add_comm]
  rfl

/-! ## Counting in words -/

/-- How far an action is told to move the cursor down or to the right. -/
def Action.steps : Action → Nat
  | .down count => count
  | .forward count => count
  | _ => 0

theorem reach_le (limits : Limits) (cursor : Place) (action : Action) :
    reach limits cursor action ≤
      cursor.column + cursor.row + limits.tabWidth + action.steps + 1 := by
  have stop := nextTabStop_le limits.tabWidth cursor.column
  cases action with
  | eraseScreen mode | eraseRow mode =>
      rcases mode with _ | _ | mode <;> simp only [reach, Action.steps] <;> omega
  | _ =>
      simp only [reach, Action.steps]
      omega

theorem moveCursor_le (limits : Limits) (cursor : Place) (action : Action) :
    (moveCursor limits cursor action).column ≤ max (cursor.column + 1) limits.maxWidth ∧
      (moveCursor limits cursor action).row ≤ max cursor.row limits.maxHeight := by
  cases action <;> simp only [moveCursor] <;> omega

/-- Only limits, steps or a number of actions of the size of all words can lead beyond
the words. -/
theorem countsInWords_of_small {limits : Limits} {actions : List Action} {steps : Nat}
    (near : ∀ action ∈ actions, action.steps ≤ steps)
    (small : Word.Fits
      (limits.maxWidth + limits.maxHeight + limits.tabWidth + steps + actions.length)) :
    CountsInWords limits {} actions := by
  -- each action so far has carried the cursor on by one column behind the limits at most
  suffices general : ∀ (done : Nat) (cursor : Place), cursor.column ≤ limits.maxWidth + done →
      cursor.row ≤ limits.maxHeight →
      Word.Fits (limits.maxWidth + limits.maxHeight + limits.tabWidth + steps +
        (done + actions.length)) → CountsInWords limits cursor actions by
    refine general 0 {} (Nat.zero_le _) (Nat.zero_le _) ?_
    rwa [Nat.zero_add]
  clear small
  induction actions with
  | nil => exact fun _ _ _ _ _ => trivial
  | cons action rest induction =>
      intro done cursor column row small
      obtain ⟨first, later⟩ := List.forall_mem_cons.mp near
      have reached := reach_le limits cursor action
      obtain ⟨nextColumn, nextRow⟩ := moveCursor_le limits cursor action
      rw [List.length_cons] at small
      refine ⟨?_, induction later (done + 1) _ (by omega) (by omega) ?_⟩
      · exact Nat.lt_of_le_of_lt (by omega) small
      · rwa [Nat.add_assoc done, Nat.add_comm 1]

/-! ## Lines under changes -/

section

variable {α : Type} {missing : α}

theorem getD_modify {change : α → α} {items : List α} {index : Nat}
    (stays : change missing = missing ∨ index < items.length) (place : Nat) :
    (items.modify index change).getD place missing =
      if place = index then change (items.getD place missing)
      else items.getD place missing := by
  simp only [List.getD_eq_getElem?_getD, List.getElem?_modify]
  by_cases same : place = index
  · subst same
    cases present : items[place]? with
    | none =>
        have outside := List.getElem?_eq_none_iff.mp present
        have keeps : change missing = missing :=
          stays.resolve_right (Nat.not_lt.mpr outside)
        simp [keeps]
    | some item => simp
  · cases items[place]? <;> simp [same, Ne.symm same]

theorem getD_mapIdx {change : Nat → α → α} (keeps : ∀ place, change place missing = missing)
    (items : List α) (place : Nat) :
    (items.mapIdx change).getD place missing = change place (items.getD place missing) := by
  simp only [List.getD_eq_getElem?_getD, List.getElem?_mapIdx]
  cases items[place]? <;> simp [keeps]

theorem getD_take (items : List α) (count place : Nat) :
    (items.take count).getD place missing =
      if place < count then items.getD place missing else missing := by
  simp only [List.getD_eq_getElem?_getD, List.getElem?_take]
  split <;> rfl

end

namespace Canvas

theorem getD_putInRow (column place : Nat) (c : Char) (line : List Char) :
    (putInRow column c line).getD place blank =
      if place = column then c else line.getD place blank := by
  have long : column < (line.rightpad (column + 1) blank).length := by
    simp [List.rightpad]
    omega
  unfold putInRow
  rw [List.getD_eq_getElem?_getD, List.getElem?_set]
  by_cases same : place = column
  · subst same
    rw [if_pos rfl, if_pos long, if_pos rfl, Option.getD_some]
  · rw [if_neg (Ne.symm same), if_neg same, ← List.getD_eq_getElem?_getD, getD_rightpad]

theorem length_putInRow (column : Nat) (c : Char) (line : List Char) :
    (putInRow column c line).length = max line.length (column + 1) := by
  simp [putInRow, List.rightpad]
  omega

theorem getD_eraseCells (first stop place : Nat) (line : List Char) :
    (eraseCells first stop line).getD place blank =
      if first ≤ place ∧ place < stop then blank else line.getD place blank := by
  have keeps (place : Nat) :
      (if first ≤ place ∧ place < stop then blank else blank) = blank := by
    split <;> rfl
  exact getD_mapIdx keeps line place

theorem getD_eraseFrom (first place : Nat) (line : List Char) :
    (eraseFrom first line).getD place blank =
      if first ≤ place then blank else line.getD place blank := by
  rw [eraseFrom, getD_eraseCells]
  by_cases inside : place < line.length
  · simp [inside]
  · have beyond : line.getD place blank = blank := by
      rw [List.getD_eq_getElem?_getD, List.getElem?_eq_none (by omega)]
      rfl
    rw [beyond, ite_self, ite_self]

theorem length_eraseCells (first stop : Nat) (line : List Char) :
    (eraseCells first stop line).length = line.length :=
  List.length_mapIdx

theorem eraseFrom_nil (first : Nat) : eraseFrom first [] = [] := rfl

theorem eraseCells_nil (first stop : Nat) : eraseCells first stop [] = [] := rfl

/-- Where the cursor of a canvas stands. -/
abbrev cursor (canvas : Canvas) : Place :=
  ⟨canvas.column, canvas.row⟩

/-- The character in a cell of a canvas, blank where it has none. -/
def charAt (canvas : Canvas) (place : Place) : Char :=
  charIn canvas.rows place.column place.row

theorem charIn_modify {lines : List (List Char)} {change : List Char → List Char}
    {index : Nat} (stays : change [] = [] ∨ index < lines.length) (column row : Nat) :
    charIn (lines.modify index change) column row =
      if row = index then (change (lines.getD index [])).getD column blank
      else charIn lines column row := by
  rw [charIn, getD_modify stays]
  by_cases same : row = index
  · rw [if_pos same, if_pos same, same]
  · rw [if_neg same, if_neg same, charIn]

theorem charIn_take (lines : List (List Char)) (count column row : Nat) :
    charIn (lines.take count) column row =
      if row < count then charIn lines column row else blank := by
  rw [charIn, getD_take]
  split <;> rfl

theorem charIn_rightpad (lines : List (List Char)) (length column row : Nat) :
    charIn (lines.rightpad length []) column row = charIn lines column row := by
  rw [charIn, getD_rightpad, charIn]

theorem put_of_holds {canvas : Canvas} (held : canvas.limits.holds canvas.cursor = true)
    (c : Char) :
    canvas.put c =
      { canvas with
        rows := (canvas.rows.rightpad (canvas.row + 1) []).modify canvas.row
          (putInRow canvas.column c) } := by
  have inside : canvas.column < canvas.limits.maxWidth ∧
      canvas.row < canvas.limits.maxHeight := Limits.holds_iff.mp held
  rw [put, if_neg (by omega)]

theorem put_of_not_holds {canvas : Canvas}
    (lost : ¬canvas.limits.holds canvas.cursor = true) (c : Char) :
    canvas.put c = { canvas with clipped := Word.wrap (canvas.clipped + 1) } := by
  have outside : ¬(canvas.column < canvas.limits.maxWidth ∧
      canvas.row < canvas.limits.maxHeight) := fun inside => lost (Limits.holds_iff.mpr inside)
  rw [put, if_pos (by omega)]

theorem charAt_put (canvas : Canvas) (c : Char) (place : Place) :
    (canvas.put c).charAt place =
      if canvas.limits.holds canvas.cursor ∧ place = canvas.cursor then c
      else canvas.charAt place := by
  by_cases held : canvas.limits.holds canvas.cursor = true
  · have present : canvas.row < (canvas.rows.rightpad (canvas.row + 1) []).length := by
      simp [List.rightpad]
      omega
    obtain ⟨column, row⟩ := place
    simp only [put_of_holds held, charAt, charIn_modify (.inr present), getD_putInRow,
      getD_rightpad, charIn_rightpad, held, true_and, Place.mk.injEq]
    by_cases sameRow : row = canvas.row
    · simp [sameRow, charIn]
    · simp [sameRow]
  · rw [put_of_not_holds held, if_neg (fun both => held both.1)]
    rfl

theorem charAt_eraseRow (canvas : Canvas) (mode : Nat)
    (counted : Word.Fits (reach canvas.limits canvas.cursor (.eraseRow mode))) (place : Place) :
    (canvas.eraseRow mode).charAt place =
      if erases canvas.cursor (.eraseRow mode) place then blank
      else canvas.charAt place := by
  obtain ⟨column, row⟩ := place
  match mode with
  | 0 =>
      simp only [eraseRow, modifyRow, charAt, charIn_modify (.inl (eraseFrom_nil _)),
        getD_eraseFrom, erases]
      by_cases sameRow : row = canvas.row
      · simp [sameRow, charIn]
      · simp [sameRow]
  | 1 =>
      have stop : Word.wrap (canvas.column + 1) = canvas.column + 1 := Word.wrap_of_fits counted
      simp only [eraseRow, modifyRow, charAt, charIn_modify (.inl (eraseCells_nil _ _)),
        getD_eraseCells, erases, stop, Nat.lt_add_one_iff]
      by_cases sameRow : row = canvas.row
      · simp [sameRow, charIn]
      · simp [sameRow]
  | 2 =>
      simp only [eraseRow, modifyRow, charAt, charIn_modify (.inl (eraseFrom_nil _)),
        getD_eraseFrom, erases]
      by_cases sameRow : row = canvas.row
      · simp [sameRow]
      · simp [sameRow]
  | other + 3 => simp [eraseRow, erases]

theorem charAt_eraseScreen (canvas : Canvas) (mode : Nat)
    (counted : Word.Fits (reach canvas.limits canvas.cursor (.eraseScreen mode)))
    (place : Place) :
    (canvas.eraseScreen mode).charAt place =
      if erases canvas.cursor (.eraseScreen mode) place then blank
      else canvas.charAt place := by
  obtain ⟨column, row⟩ := place
  match mode with
  | 0 =>
      have stop : Word.wrap (canvas.row + 1) = canvas.row + 1 := Word.wrap_of_fits counted
      simp only [eraseScreen, modifyRow, charAt, charIn_take,
        charIn_modify (.inl (eraseFrom_nil _)), getD_eraseFrom, erases, notAfter, stop]
      rcases Nat.lt_trichotomy row canvas.row with above | same | below
      · have kept : row < canvas.row + 1 := by omega
        have notBelow : ¬canvas.row < row := by omega
        simp [kept, notBelow, Nat.ne_of_lt above, Nat.ne_of_gt above]
      · simp [same, charIn]
      · have cut : ¬row < canvas.row + 1 := by omega
        simp [cut, below]
  | 1 =>
      have stop : Word.wrap (canvas.column + 1) = canvas.column + 1 := Word.wrap_of_fits counted
      simp only [eraseScreen, modifyRow, charAt, charIn_modify (.inl (eraseCells_nil _ _)),
        getD_eraseCells, erases, notAfter, stop, Nat.lt_add_one_iff]
      rw [getD_mapIdx (fun _ => by split <;> rfl), charIn, getD_mapIdx (fun _ => by split <;> rfl)]
      rcases Nat.lt_trichotomy row canvas.row with above | same | below
      · rw [if_neg (Nat.ne_of_lt above), if_pos above, getD_eraseFrom]
        simp [above]
      · simp [same, charIn]
      · have notAbove : ¬row < canvas.row := by omega
        simp [notAbove, Nat.ne_of_gt below, charIn]
  | 2 => rfl
  | 3 => rfl
  | other + 4 => simp [eraseScreen, erases]

/-! ## Limits -/

/-- Rows have no cells outside of the limits. -/
structure Fits (limits : Limits) (rows : List (List Char)) : Prop where
  height : rows.length ≤ limits.maxHeight
  width : ∀ row, (rows.getD row []).length ≤ limits.maxWidth

namespace Fits

variable {limits : Limits} {rows : List (List Char)}

theorem empty (limits : Limits) : Fits limits [] :=
  ⟨Nat.zero_le _, fun _ => Nat.zero_le _⟩

theorem length_le (fits : Fits limits rows) {line : List Char} (member : line ∈ rows) :
    line.length ≤ limits.maxWidth := by
  obtain ⟨row, present⟩ := List.getElem?_of_mem member
  have bound := fits.width row
  rwa [List.getD_eq_getElem?_getD, present, Option.getD_some] at bound

theorem modify (fits : Fits limits rows) {change : List Char → List Char}
    (keeps : ∀ line, (change line).length = line.length) (index : Nat) :
    Fits limits (rows.modify index change) := by
  have stays : change [] = [] := List.length_eq_zero_iff.mp (keeps [])
  refine ⟨by simpa using fits.height, ?_⟩
  intro row
  have bound := fits.width row
  rw [getD_modify (.inl stays)]
  split
  · rwa [keeps]
  · exact bound

theorem take (fits : Fits limits rows) (count : Nat) : Fits limits (rows.take count) := by
  have height := fits.height
  refine ⟨by rw [List.length_take]; omega, ?_⟩
  intro row
  rw [getD_take]
  split
  · exact fits.width row
  · exact Nat.zero_le _

theorem mapIdx (fits : Fits limits rows) {change : Nat → List Char → List Char}
    (keeps : ∀ row line, (change row line).length = line.length) :
    Fits limits (rows.mapIdx change) := by
  have stays (row : Nat) : change row [] = [] := List.length_eq_zero_iff.mp (keeps row [])
  refine ⟨by simpa using fits.height, ?_⟩
  intro row
  rw [getD_mapIdx stays, keeps]
  exact fits.width row

theorem put (fits : Fits limits rows) {place : Place} (held : limits.holds place = true)
    (c : Char) :
    Fits limits ((rows.rightpad (place.row + 1) []).modify place.row
      (putInRow place.column c)) := by
  have inside := Limits.holds_iff.mp held
  have height := fits.height
  have length : (rows.rightpad (place.row + 1) []).length = max rows.length (place.row + 1) := by
    simp [List.rightpad]
    omega
  refine ⟨by rw [List.length_modify, length]; omega, ?_⟩
  intro row
  have bound := fits.width row
  rw [getD_modify (.inr (by omega)), getD_rightpad]
  split
  · rw [length_putInRow]
    omega
  · exact bound

end Fits

/-! ## Actions -/

theorem eraseRow_frame (canvas : Canvas) (mode : Nat) :
    ∃ rows, canvas.eraseRow mode = { canvas with rows := rows } ∧
      (Fits canvas.limits canvas.rows → Fits canvas.limits rows) := by
  match mode with
  | 0 => exact ⟨_, rfl, fun fits => fits.modify (fun _ => length_eraseCells _ _ _) _⟩
  | 1 => exact ⟨_, rfl, fun fits => fits.modify (fun _ => length_eraseCells _ _ _) _⟩
  | 2 => exact ⟨_, rfl, fun fits => fits.modify (fun _ => length_eraseCells _ _ _) _⟩
  | other + 3 => exact ⟨_, rfl, id⟩

theorem eraseScreen_frame (canvas : Canvas) (mode : Nat) :
    ∃ rows, canvas.eraseScreen mode = { canvas with rows := rows } ∧
      (Fits canvas.limits canvas.rows → Fits canvas.limits rows) := by
  match mode with
  | 0 =>
      refine ⟨_, rfl, fun fits => ?_⟩
      exact (fits.modify (fun _ => length_eraseCells _ _ _) _).take _
  | 1 =>
      refine ⟨_, rfl, fun fits => ?_⟩
      apply Fits.modify
      · apply fits.mapIdx
        intro row line
        split
        · exact length_eraseCells _ _ _
        · rfl
      · exact length_eraseCells _ _
  | 2 => exact ⟨_, rfl, fun _ => Fits.empty _⟩
  | 3 => exact ⟨_, rfl, fun _ => Fits.empty _⟩
  | other + 4 => exact ⟨_, rfl, id⟩

/-- What a canvas looks like. -/
def screen (canvas : Canvas) : Screen :=
  ⟨canvas.cursor, canvas.charAt⟩

/-- What an action does to a canvas, by what the canvas looks like. -/
structure Performs (canvas after : Canvas) (action : Action) : Prop where
  limits : after.limits = canvas.limits
  screen : Word.Fits (reach canvas.limits canvas.cursor action) →
    after.screen = canvas.screen.perform canvas.limits action
  clipped : after.clipped =
    if loses canvas.limits canvas.cursor action then Word.wrap (canvas.clipped + 1)
    else canvas.clipped
  fits : Fits canvas.limits canvas.rows → Fits canvas.limits after.rows

theorem screen_print (canvas : Canvas) (c : Char) (counted : Word.Fits (canvas.column + 1)) :
    (canvas.apply (.print c)).screen =
      canvas.screen.perform canvas.limits (.print c) := by
  have cursor : (canvas.put c).cursor = canvas.cursor := by
    unfold put
    split <;> rfl
  have moved : (canvas.apply (.print c)).cursor =
      moveCursor canvas.limits canvas.cursor (.print c) := by
    change Place.mk (Word.wrap ((canvas.put c).cursor.column + 1)) (canvas.put c).cursor.row = _
    rw [cursor, Word.wrap_of_fits counted]
    rfl
  have reads : (canvas.apply (.print c)).charAt =
      (canvas.screen.perform canvas.limits (.print c)).plane :=
    funext (canvas.charAt_put c)
  rw [screen, moved, reads]
  rfl

theorem performs_apply (canvas : Canvas) (action : Action) :
    Performs canvas (canvas.apply action) action := by
  cases action with
  | print c =>
      have looks := canvas.screen_print c
      by_cases held : canvas.limits.holds canvas.cursor = true
      · have written := put_of_holds held c
        rw [apply, written] at looks ⊢
        exact ⟨rfl, looks, by simp [loses, held], fun fits => fits.put held c⟩
      · have dropped := put_of_not_holds held c
        rw [apply, dropped] at looks ⊢
        exact ⟨rfl, looks, by simp [loses, held], id⟩
  | eraseScreen mode =>
      obtain ⟨rows, same, fits⟩ := canvas.eraseScreen_frame mode
      have reads := canvas.charAt_eraseScreen mode
      rw [same] at reads
      rw [apply, same]
      exact ⟨rfl, fun counted => congrArg (Screen.mk canvas.cursor) (funext (reads counted)), rfl,
        fits⟩
  | eraseRow mode =>
      obtain ⟨rows, same, fits⟩ := canvas.eraseRow_frame mode
      have reads := canvas.charAt_eraseRow mode
      rw [same] at reads
      rw [apply, same]
      exact ⟨rfl, fun counted => congrArg (Screen.mk canvas.cursor) (funext (reads counted)), rfl,
        fits⟩
  | position row column =>
      have fromOne (number : Nat) : max number 1 - 1 = number - 1 := by omega
      simp only [apply, fromOne]
      exact ⟨rfl, fun _ => rfl, rfl, id⟩
  | tab | lineFeed | down | forward =>
      refine ⟨rfl, fun counted => ?_, rfl, id⟩
      simp only [reach] at counted
      simp only [apply, Word.wrap_of_fits counted]
      rfl
  | backspace | carriageReturn | up | backward => exact ⟨rfl, fun _ => rfl, rfl, id⟩

/-- Performing actions that count in words on a canvas is performing them on the
screen that it looks like. -/
theorem screen_applyAll (canvas : Canvas) {actions : List Action}
    (counted : CountsInWords canvas.limits canvas.cursor actions) :
    (canvas.applyAll actions).screen =
      canvas.screen.performAll canvas.limits actions := by
  induction actions generalizing canvas with
  | nil => rfl
  | cons action rest induction =>
      obtain ⟨first, later⟩ := counted
      have step := performs_apply canvas action
      have looks := step.screen first
      have moved : (canvas.apply action).cursor =
          moveCursor canvas.limits canvas.cursor action := congrArg Screen.cursor looks
      have behind := induction (canvas.apply action) (by rwa [step.limits, moved])
      rw [step.limits, looks] at behind
      exact behind

theorem clipped_applyAll (canvas : Canvas) {actions : List Action}
    (counted : CountsInWords canvas.limits canvas.cursor actions)
    (small : Word.Fits canvas.clipped) :
    (canvas.applyAll actions).clipped =
      Word.wrap (canvas.clipped + countLost canvas.limits canvas.cursor actions) := by
  induction actions generalizing canvas with
  | nil => exact (Word.wrap_of_fits small).symm
  | cons action rest induction =>
      obtain ⟨first, later⟩ := counted
      have step := performs_apply canvas action
      have moved : (canvas.apply action).cursor =
          moveCursor canvas.limits canvas.cursor action :=
        congrArg Screen.cursor (step.screen first)
      have word : Word.Fits (canvas.apply action).clipped := by
        rw [step.clipped]
        split
        · exact Word.fits_wrap _
        · exact small
      have behind := induction (canvas.apply action) (by rwa [step.limits, moved]) word
      rw [step.limits, step.clipped, moved] at behind
      change ((canvas.apply action).applyAll rest).clipped = _
      rw [behind, countLost_cons]
      split
      · rw [Word.wrap_wrap_add, Nat.add_assoc]
      · rw [Nat.zero_add]

theorem fits_applyAll (canvas : Canvas) (fits : Fits canvas.limits canvas.rows)
    (actions : List Action) : Fits canvas.limits (canvas.applyAll actions).rows := by
  induction actions generalizing canvas with
  | nil => exact fits
  | cons action rest induction =>
      have step := performs_apply canvas action
      have within : Fits (canvas.apply action).limits (canvas.apply action).rows := by
        rw [step.limits]
        exact step.fits fits
      have behind := induction (canvas.apply action) within
      rw [step.limits] at behind
      exact behind

/-! ## Freezing -/

theorem dropBlankRows_concat (rows : List (List Char)) (line : List Char) :
    dropBlankRows (rows ++ [line]) =
      if line.all (· == blank) then dropBlankRows rows else rows ++ [line] :=
  List.rdropWhile_concat _ rows line

theorem getD_of_all_blank {cells : List Char} (empty : cells.all (· == blank) = true)
    (column : Nat) : cells.getD column blank = blank := by
  rw [List.getD_eq_getElem?_getD]
  cases present : cells[column]? with
  | none => rfl
  | some c => simpa using List.all_eq_true.mp empty c (List.mem_of_getElem? present)

/-- Rows that are dropped read blank anyway. -/
theorem charIn_dropBlankRows (rows : List (List Char)) (column row : Nat) :
    charIn (dropBlankRows rows) column row = charIn rows column row := by
  induction rows using List.reverseRecOn with
  | nil => rfl
  | append_singleton rows line induction =>
      rw [dropBlankRows_concat]
      by_cases empty : line.all (· == blank) = true
      · rw [if_pos empty, induction, charIn_concat_of_blank (getD_of_all_blank empty)]
      · rw [if_neg empty]

theorem charAt_freeze (canvas : Canvas) (place : Place) :
    canvas.freeze.charAt place.column place.row = canvas.charAt place := by
  rw [freeze, Grid.charAt_ofRows, charIn_dropBlankRows, charAt]

/-- The last row that is left is not blank. -/
theorem exists_of_dropBlankRows {rows kept : List (List Char)} {last : List Char}
    (left : dropBlankRows rows = kept ++ [last]) :
    ∃ column, last.getD column blank ≠ blank := by
  have written : ¬last.all (· == blank) = true := by
    change List.rdropWhile (fun line => line.all (· == blank)) rows = kept ++ [last] at left
    have ends := List.rdropWhile_last_not (fun line => line.all (· == blank)) rows (by simp [left])
    simpa only [left, List.getLast_concat] using ends
  simp only [List.all_eq_true, beq_iff_eq, not_forall] at written
  obtain ⟨c, member, visible⟩ := written
  obtain ⟨column, present⟩ := List.getElem?_of_mem member
  exact ⟨column, by rwa [List.getD_eq_getElem?_getD, present, Option.getD_some]⟩

theorem hasHeight_freeze (canvas : Canvas) :
    canvas.screen.HasHeight canvas.freeze.height := by
  have reads (place : Place) : canvas.screen.plane place =
      charIn (dropBlankRows canvas.rows) place.column place.row :=
    (charIn_dropBlankRows canvas.rows place.column place.row).symm
  rcases List.eq_nil_or_concat (dropBlankRows canvas.rows) with none | ⟨kept, last, left⟩
  · have height : canvas.freeze.height = 0 := by
      rw [freeze, none]
      rfl
    rw [height]
    intro place
    rw [reads, none, charIn_of_ge (Nat.zero_le _)]
  · rw [List.concat_eq_append] at left
    obtain ⟨column, visible⟩ := exists_of_dropBlankRows left
    have seen : charIn (dropBlankRows canvas.rows) column kept.length ≠ blank := by
      rwa [left, charIn_concat, if_pos rfl]
    have height : canvas.freeze.height = kept.length + 1 := by
      rw [freeze, Grid.height_ofRows seen, left, List.length_append, List.length_singleton]
    rw [height]
    refine ⟨⟨column, (reads _).trans_ne seen⟩, ?_⟩
    · intro place seen
      by_contra below
      apply seen
      rw [reads, left]
      exact charIn_of_ge (by rw [List.length_append]; exact Nat.not_le.mp below) _

end Canvas

end Terminal

end ScreenSight
