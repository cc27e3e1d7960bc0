import ScreenSight.Detection.Detector

/-!
# Bracketed spans

A bracketed span stands in one row between an opening bracket and the closing one of its pair, with
no other bracket between them.  Check boxes, radio buttons and buttons look like this.
-/

namespace ScreenSight

/-- A pair of brackets. -/
structure BracketPair where
  opening : Char
  closing : Char
  deriving DecidableEq, Inhabited

namespace BracketPair

def all : List BracketPair :=
  [⟨'[', ']'⟩, ⟨'(', ')'⟩, ⟨'<', '>'⟩]

def opened? (c : Char) : Option BracketPair :=
  all.find? fun pair => pair.opening == c

/-- Whether a character is a bracket. -/
def isBracket (c : Char) : Bool :=
  all.any fun pair => pair.opening == c || pair.closing == c

end BracketPair

/-- A bracketed span of a row: the column of the opening bracket, and the characters inside and
behind. -/
structure BracketSpan where
  pair : BracketPair
  column : Nat
  inside : List Char
  trailing : List Char
  deriving DecidableEq, Inhabited

namespace BracketSpan

/-- The greatest number of characters between the brackets. -/
def longest : Nat := 30

def lastColumn (span : BracketSpan) : Nat :=
  span.column + span.inside.length + 1

def cell (y : Coordinate) (column : Nat) : Point :=
  ⟨Coordinate.saturate column, y⟩

def ends (span : BracketSpan) (y : Coordinate) : List Point :=
  [cell y span.column, cell y span.lastColumn]

/-- The span that a pair opens in a column, with the characters behind its opening bracket. -/
def ofPair? (pair : BracketPair) (column : Nat) (behind : List Char) : Option BracketSpan :=
  let inside := behind.takeWhile (· != pair.closing)
  match behind.dropWhile (· != pair.closing) with
  | [] => none
  | _ :: trailing =>
      if longest < inside.length ∨ inside.any BracketPair.isBracket then none
      else some ⟨pair, column, inside, trailing⟩

theorem length_trailing_lt {pair : BracketPair} {column : Nat} {behind : List Char}
    {span : BracketSpan} (found : ofPair? pair column behind = some span) :
    span.trailing.length < behind.length := by
  simp only [ofPair?] at found
  split at found
  · cases found
  · next closing trailing rest =>
      split at found
      · cases found
      · cases found
        have size := (List.dropWhile_sublist (l := behind) (· != pair.closing)).length_le
        rw [rest, List.length_cons] at size
        exact size

/-- The span that begins with the first character of a row, which stands in a column. -/
def first? (column : Nat) : List Char → Option BracketSpan
  | [] => none
  | c :: behind => (BracketPair.opened? c).bind fun pair => ofPair? pair column behind

theorem length_trailing_lt_row {column : Nat} {row : List Char} {span : BracketSpan}
    (found : first? column row = some span) : span.trailing.length < row.length := by
  cases row with
  | nil => cases found
  | cons c behind =>
      obtain ⟨_, _, opened⟩ := Option.bind_eq_some_iff.mp found
      exact Nat.lt_succ_of_lt (length_trailing_lt opened)

/-- The spans of a row from a column on, left to right, as far as the plane goes.  The search goes
on behind a span, also behind one with a claimed bracket, which is not reported. -/
def scan (claimed : CellSet) (y : Coordinate) (column : Nat) (row : List Char) :
    List BracketSpan :=
  match row with
  | [] => []
  | c :: behind =>
      match found : first? column (c :: behind) with
      | none => scan claimed y (column + 1) behind
      | some span =>
          if (Coordinate.ofInt? span.lastColumn).isNone then []
          else
            let others := scan claimed y (span.lastColumn + 1) span.trailing
            if (span.ends y).any claimed.contains then others else span :: others
termination_by row.length
decreasing_by
  · exact Nat.lt_succ_self _
  · exact length_trailing_lt_row found

/-- Whether a caption can have a character. -/
def isCaption (c : Char) : Bool :=
  !Text.isBlank c && c != '[' && c != '(' && c != '<'

/-- The words at the beginning of a text with single blanks between them. -/
def captionWords : List Char → List Char
  | [] => []
  | c :: rest =>
      if isCaption c then c :: captionWords rest
      else if c = ' ' then
        match rest with
        | [] => []
        | next :: rest => if isCaption next then c :: next :: captionWords rest else []
      else []

/-- The caption behind a span: words right after the closing bracket or after a blank. -/
def caption? (span : BracketSpan) : Option String :=
  let text := if span.trailing.head? = some ' ' then span.trailing.drop 1 else span.trailing
  match text with
  | [] => none
  | c :: _ => if isCaption c then some (String.ofList (captionWords text)) else none

def properties (span : BracketSpan) : Properties :=
  SortedMap.ofList
    ([("shape", .text "bracket"),
        ("delimiter", .text (String.ofList [span.pair.opening, span.pair.closing]))] ++
      span.caption?.toList.map fun caption => ("label", .text caption))

def component (span : BracketSpan) (y : Coordinate) : Component where
  id := ""
  box := some (Box.ofCorners (cell y span.column).x y (cell y span.lastColumn).x y)
  boundary := SortedSet.ofList (span.ends y)
  interior := SortedSet.ofList
    ((List.range span.inside.length).map fun offset => cell y (span.column + 1 + offset))
  properties := span.properties

/-- A span as it is reported; one with nothing but blanks inside is less certain. -/
def detected (span : BracketSpan) (y : Coordinate) : Detected :=
  ⟨span.component y, if span.inside.all (· == blank) then .medium else .high⟩

def detectRow (claimed : CellSet) (y : Coordinate) (row : List Char) : List Detected :=
  (scan claimed y 0 row).map fun span => span.detected y

end BracketSpan

/-- Finds bracketed spans row by row. -/
def Detector.bracket : Detector where
  name := "bracket"
  priority := 60
  detect grid claimed :=
    (grid.rows.zip (Coordinate.below grid.height)).flatMap fun (row, y) =>
      BracketSpan.detectRow claimed y row

end ScreenSight
