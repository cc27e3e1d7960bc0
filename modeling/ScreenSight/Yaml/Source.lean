/-!
# The characters of a YAML text

A text is made of printable characters, separators and line breaks.  Most of the ways to write a
line break are given the form of a line feed before anything else is read.
-/

namespace ScreenSight.Yaml

/-- Whether a character separates words within a line. -/
def isSpace (c : Char) : Bool :=
  c == ' ' || c == '\t'

/-- Whether a character ends a line. -/
def isBreak (c : Char) : Bool :=
  c == '\n' || c == '\u2028' || c == '\u2029'

/-- Whether a character is a separator or ends a line. -/
def isLayout (c : Char) : Bool :=
  isSpace c || isBreak c

/-- Whether a text is at its end, at a separator or at the end of a line. -/
def atLayout : List Char → Bool
  | [] => true
  | c :: _ => isLayout c

/-- Whether a character may stand in a text: the control characters may not, separators and line
breaks apart. -/
def isPrintable (c : Char) : Bool :=
  let code := c.toNat
  code == 0x09 || code == 0x0A || code == 0x0D || (0x20 ≤ code && code ≤ 0x7E) || code == 0x85 ||
    (0xA0 ≤ code && code ≤ 0xFFFD) || 0x10000 ≤ code

/-- The text with a line feed for each carriage return, pair of carriage return and line feed, and
next-line character. -/
def unifyBreaks : List Char → List Char
  | [] => []
  | '\r' :: '\n' :: rest => '\n' :: unifyBreaks rest
  | c :: rest => (if c == '\r' || c == '\u0085' then '\n' else c) :: unifyBreaks rest

/-- The text as it is read, unless it holds a character that it may not. -/
def readable? (text : List Char) : Option (List Char) :=
  if text.all isPrintable then some (unifyBreaks text) else none

/-- Whether a line that begins with some text is a mark between documents. -/
def startsMark (text : List Char) : Bool :=
  (text.take 3 == ['-', '-', '-'] || text.take 3 == ['.', '.', '.']) && atLayout (text.drop 3)

/-- A place in a text: the number of characters before it, its line, and the number of characters
before it on that line. -/
structure Place where
  index : Nat
  line : Nat
  column : Nat
  deriving DecidableEq

/-- The place behind a character. -/
def Place.after (place : Place) (c : Char) : Place :=
  if isBreak c then ⟨place.index + 1, place.line + 1, 0⟩
  else ⟨place.index + 1, place.line, place.column + 1⟩

def Place.afterAll (place : Place) (text : List Char) : Place :=
  text.foldl Place.after place

/-- Whether the character at a place is a byte order mark, which may stand in front of any line. -/
def Place.isMarkOfOrder (place : Place) (c : Char) : Bool :=
  place.column == 0 && c == '\ufeff'

end ScreenSight.Yaml
