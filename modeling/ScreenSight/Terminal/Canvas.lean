import ScreenSight.Grid.Basic
import ScreenSight.Terminal.Decoder

/-!
# The canvas of a terminal

A canvas collects what the actions of a terminal write.  It holds the rows written so far, each as
far as it was written; characters outside the limits are counted and dropped.  In the end it becomes
a grid without blank rows at its bottom.  Sums are taken in words.  Where a character is written,
the limits keep them from becoming too large; elsewhere nothing does.
-/

namespace ScreenSight.Terminal

/-- The screen of a terminal while it is being written. -/
structure Canvas where
  limits : Limits
  rows : List (List Char) := []
  -- the cursor
  column : Nat := 0
  row : Nat := 0
  clipped : Nat := 0
  deriving DecidableEq

namespace Canvas

/-- Write a character into a row, which is filled up with blanks to reach it. -/
def putInRow (column : Nat) (c : Char) (line : List Char) : List Char :=
  (line.rightpad (column + 1) blank).set column c

/-- Write a character at the cursor if that is inside the limits. -/
def put (canvas : Canvas) (c : Char) : Canvas :=
  if canvas.limits.maxWidth ≤ canvas.column ∨ canvas.limits.maxHeight ≤ canvas.row then
    { canvas with clipped := Word.wrap (canvas.clipped + 1) }
  else
    { canvas with
      rows := (canvas.rows.rightpad (canvas.row + 1) []).modify canvas.row
        (putInRow canvas.column c) }

/-- Blank the cells of a row from a column on and before a column. -/
def eraseCells (first stop : Nat) (line : List Char) : List Char :=
  line.mapIdx fun column c => if first ≤ column ∧ column < stop then blank else c

/-- Blank the cells of a row from a column on. -/
def eraseFrom (first : Nat) (line : List Char) : List Char :=
  eraseCells first line.length line

/-- Change the row of the cursor, if it has been written. -/
def modifyRow (canvas : Canvas) (change : List Char → List Char) : Canvas :=
  { canvas with rows := canvas.rows.modify canvas.row change }

/-- Blank part of the row of the cursor. -/
def eraseRow (canvas : Canvas) (mode : Nat) : Canvas :=
  match mode with
  | 0 => canvas.modifyRow (eraseFrom canvas.column)
  | 1 => canvas.modifyRow (eraseCells 0 (Word.wrap (canvas.column + 1)))
  | 2 => canvas.modifyRow (eraseFrom 0)
  | _ => canvas

/-- Blank part of the screen. -/
def eraseScreen (canvas : Canvas) (mode : Nat) : Canvas :=
  match mode with
  | 0 =>
      let erased := canvas.modifyRow (eraseFrom canvas.column)
      { erased with rows := erased.rows.take (Word.wrap (canvas.row + 1)) }
  | 1 =>
      let above := canvas.rows.mapIdx fun row line =>
        if row < canvas.row then eraseFrom 0 line else line
      { canvas with rows := above }.modifyRow (eraseCells 0 (Word.wrap (canvas.column + 1)))
  | 2 | 3 => { canvas with rows := [] }
  | _ => canvas

/-- Perform an action.  Moves stay within the limits, but printing may carry the cursor beyond the
last column. -/
def apply (canvas : Canvas) : Action → Canvas
  | .print c =>
      let written := canvas.put c
      { written with column := Word.wrap (written.column + 1) }
  | .backspace => { canvas with column := canvas.column - 1 }
  | .tab =>
      let stop := Word.wrap (nextTabStop canvas.limits.tabWidth canvas.column)
      { canvas with column := min stop canvas.limits.maxWidth }
  | .lineFeed =>
      { canvas with row := min (Word.wrap (canvas.row + 1)) canvas.limits.maxHeight, column := 0 }
  | .carriageReturn => { canvas with column := 0 }
  | .up count => { canvas with row := canvas.row - count }
  | .down count =>
      { canvas with row := min (Word.wrap (canvas.row + count)) canvas.limits.maxHeight }
  | .forward count =>
      { canvas with column := min (Word.wrap (canvas.column + count)) canvas.limits.maxWidth }
  | .backward count => { canvas with column := canvas.column - count }
  | .position row column =>
      { canvas with
        row := min (max row 1 - 1) canvas.limits.maxHeight
        column := min (max column 1 - 1) canvas.limits.maxWidth }
  | .eraseScreen mode => canvas.eraseScreen mode
  | .eraseRow mode => canvas.eraseRow mode

/-- Perform some actions one after the other. -/
def applyAll (canvas : Canvas) (actions : List Action) : Canvas :=
  actions.foldl apply canvas

/-- Perform the actions of some bytes.  Decoding begins anew, so a sequence does not continue from
one piece of a capture to the next. -/
def feed (canvas : Canvas) (bytes : List UInt8) : Canvas :=
  canvas.applyAll (decode bytes)

/-- The rows without the blank ones at the end. -/
def dropBlankRows (rows : List (List Char)) : List (List Char) :=
  (rows.reverse.dropWhile fun line => line.all (· == blank)).reverse

/-- The grid of what has been written. -/
def freeze (canvas : Canvas) : Grid :=
  Grid.ofRows (dropBlankRows canvas.rows)

end Canvas

/-- The grid of a complete capture. -/
def load (bytes : List UInt8) (limits : Limits) : Grid :=
  ({ limits := limits : Canvas }.feed bytes).freeze

end ScreenSight.Terminal
