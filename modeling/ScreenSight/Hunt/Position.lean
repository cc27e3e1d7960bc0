import ScreenSight.Ordered.Bisection

/-!
# Positions in a source

Messages point to places by line and column, both counted from one, and columns in characters.
Places inside the program are offsets in bytes of UTF-8.  The line of an offset is looked up in a
table of the offsets at which lines begin; the column is counted from there.
-/

namespace ScreenSight.Hunt

/-- A place in a source. -/
structure Position where
  line : Nat
  column : Nat
  deriving DecidableEq, Inhabited

/-! ## Pieces of a text -/

/-- A text without its first bytes, unless they end inside a character or behind the text. -/
def behind? (size : Nat) : List Char → Option (List Char)
  | [] => if size = 0 then some [] else none
  | c :: rest =>
      if size = 0 then some (c :: rest)
      else if size < c.utf8Size then none
      else behind? (size - c.utf8Size) rest

/-- The first bytes of a text, unless they end inside a character or behind the text. -/
def front? (size : Nat) : List Char → Option (List Char)
  | [] => if size = 0 then some [] else none
  | c :: rest =>
      if size = 0 then some []
      else if size < c.utf8Size then none
      else (front? (size - c.utf8Size) rest).map (c :: ·)

/-- The text between two offsets, if both are boundaries of characters. -/
def piece? (text : List Char) (start stop : Nat) : Option (List Char) :=
  if start ≤ stop then (behind? start text).bind (front? (stop - start)) else none

/-! ## Lines -/

/-- The offsets behind the line feeds of a text that begins at an offset. -/
def startsFrom (offset : Nat) : List Char → List Nat
  | [] => []
  | c :: rest =>
      if c = '\n' then (offset + c.utf8Size) :: startsFrom (offset + c.utf8Size) rest
      else startsFrom (offset + c.utf8Size) rest

theorem lt_of_mem_startsFrom {offset start : Nat} {text : List Char}
    (listed : start ∈ startsFrom offset text) : offset < start := by
  induction text generalizing offset with
  | nil => cases listed
  | cons c rest induction =>
      have wide := c.utf8Size_pos
      rw [startsFrom] at listed
      split at listed
      · rcases List.mem_cons.mp listed with rfl | later
        · omega
        · exact Nat.lt_trans (by omega) (induction later)
      · exact Nat.lt_trans (by omega) (induction listed)

theorem increasing_startsFrom (offset : Nat) (text : List Char) :
    (startsFrom offset text).Pairwise (· < ·) := by
  induction text generalizing offset with
  | nil => exact List.Pairwise.nil
  | cons c rest induction =>
      rw [startsFrom]
      split
      · exact List.pairwise_cons.mpr ⟨fun _ => lt_of_mem_startsFrom, induction _⟩
      · exact induction _

/-- The offsets at which the lines of a source begin. -/
structure LineTable where
  starts : Array Nat
  first : starts[0]? = some 0
  increasing : starts.toList.Pairwise (· < ·)

namespace LineTable

def ofSource (source : String) : LineTable where
  starts := (0 :: startsFrom 0 source.toList).toArray
  first := rfl
  increasing := List.pairwise_cons.mpr
    ⟨fun _ => lt_of_mem_startsFrom, increasing_startsFrom 0 source.toList⟩

/-- The number of the line of an offset, from zero: the line that begins there or, if none does, the
one in front of the next line. -/
def line? (table : LineTable) (offset : Nat) : Option Nat :=
  match bisect table.starts offset with
  | .found line => some line
  | .missing 0 => none
  | .missing (next + 1) => some next

/-- The position of an offset.  An offset behind the last byte counts as the end; one inside a
character has no column of its own and gets the first. -/
def position? (table : LineTable) (source : String) (offset : Nat) : Option Position := do
  let line ← table.line? offset
  let start ← table.starts[line]?
  let read := piece? source.toList start (min offset source.utf8ByteSize)
  return ⟨line + 1, (read.getD []).length + 1⟩

theorem position?_of_line? {table : LineTable} {offset line start : Nat}
    (looked : table.line? offset = some line) (begins : table.starts[line]? = some start)
    (source : String) :
    table.position? source offset = some ⟨line + 1,
      ((piece? source.toList start (min offset source.utf8ByteSize)).getD []).length + 1⟩ := by
  rw [position?, looked, Option.bind_eq_bind, Option.bind_some, begins]
  rfl

/-- A lookup finds a line of the table, which does not begin behind the offset. -/
theorem exists_start_of_line? (table : LineTable) (offset : Nat) :
    ∃ line start, table.line? offset = some line ∧ table.starts[line]? = some start ∧
      start ≤ offset := by
  have landing := describes_bisect table.increasing offset
  rw [line?]
  cases search : bisect table.starts offset with
  | found line =>
      rw [search] at landing
      exact ⟨line, offset, rfl, landing, Nat.le_refl offset⟩
  | missing next =>
      rw [search] at landing
      obtain ⟨within, sides⟩ := landing
      cases next with
      | zero =>
          have beyond := (sides 0 0 table.first).2 (Nat.le_refl 0)
          exact absurd beyond (Nat.not_lt_zero offset)
      | succ line =>
          have begins := Array.getElem?_eq_getElem within
          have before := (sides line _ begins).1 (Nat.lt_succ_self line)
          exact ⟨line, _, rfl, begins, Nat.le_of_lt before⟩

/-- Every offset has a position. -/
theorem isSome_position? (table : LineTable) (source : String) (offset : Nat) :
    (table.position? source offset).isSome = true := by
  obtain ⟨line, start, looked, begins, _⟩ := table.exists_start_of_line? offset
  rw [position?_of_line? looked begins]
  rfl

end LineTable

def positionAt (source : String) (offset : Nat) : Position :=
  ((LineTable.ofSource source).position? source offset).get
    ((LineTable.ofSource source).isSome_position? source offset)

end ScreenSight.Hunt
