/-!
# Terminal actions

What a capture of a terminal can do to the screen: put a character, move the cursor, or blank part
of the screen.  Everything else that a terminal understands, colours among it, leaves the
characters alone and has no action here.
-/

namespace ScreenSight.Terminal

/-- A change of the screen or of the cursor. -/
inductive Action where
  /-- Put a character at the cursor, which then moves on by one column. -/
  | print (c : Char)
  | backspace
  | tab
  | lineFeed
  | carriageReturn
  | up (count : Nat)
  | down (count : Nat)
  | forward (count : Nat)
  | backward (count : Nat)
  /-- Move to a row and a column, both counted from one; zero counts as one. -/
  | position (row column : Nat)
  /-- Blank part of the screen: to the end (0), from the start (1) or all of it (2 and 3). -/
  | eraseScreen (mode : Nat)
  /-- Blank part of the row of the cursor: to its end (0), from its start (1) or all of it (2). -/
  | eraseRow (mode : Nat)
  deriving DecidableEq

def Action.ofControl? (code : UInt8) : Option Action :=
  match code.toNat with
  | 0x08 => some .backspace
  | 0x09 => some .tab
  | 0x0A => some .lineFeed
  | 0x0D => some .carriageReturn
  | _ => none

/-- A count of steps: zero and a missing parameter mean one. -/
def stepCount (parameters : List Nat) : Nat :=
  match parameters.head? with
  | some 0 => 1
  | some count => count
  | none => 1

/-- The action of a control sequence with its numeric parameters and its final character. -/
def Action.ofSequence? (parameters : List Nat) (final : Char) : Option Action :=
  match final with
  | 'A' => some (.up (stepCount parameters))
  | 'B' => some (.down (stepCount parameters))
  | 'C' => some (.forward (stepCount parameters))
  | 'D' => some (.backward (stepCount parameters))
  | 'H' | 'f' => some (.position (parameters[0]?.getD 1) (parameters[1]?.getD 1))
  | 'J' => some (.eraseScreen (parameters.head?.getD 0))
  | 'K' => some (.eraseRow (parameters.head?.getD 0))
  | _ => none

end ScreenSight.Terminal
