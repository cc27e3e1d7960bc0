import ScreenSight.Text.Ranges

/-!
# White space

White space is what Unicode calls so: the ASCII blanks and line breaks, the next-line character, the
no-break spaces, the typographic spaces, and the line and paragraph separators.  A zero-width space
is not white space.
-/

namespace ScreenSight.Text

/-- Ranges of the characters with the Unicode property `White_Space`. -/
def blankRanges : List (Nat × Nat) := [
  (0x9, 0xD), (0x20, 0x20), (0x85, 0x85), (0xA0, 0xA0), (0x1680, 0x1680), (0x2000, 0x200A),
  (0x2028, 0x2029), (0x202F, 0x202F), (0x205F, 0x205F), (0x3000, 0x3000)]

/-- Whether a character is white space. -/
def isBlank (c : Char) : Bool :=
  inRanges blankRanges c.toNat

/-- The characters without the white space at their end. -/
def dropBlankEnd (characters : List Char) : List Char :=
  (characters.reverse.dropWhile isBlank).reverse

/-- The characters without the white space at both ends. -/
def dropBlankEnds (characters : List Char) : List Char :=
  dropBlankEnd (characters.dropWhile isBlank)

/-- The pieces of a text between its line feeds. -/
def splitLines (text : List Char) : List (List Char) :=
  text.splitOnP (· == '\n')

/-- Several texts with a separator between each two. -/
def joinWith (separator : String) (parts : List String) : String :=
  separator.intercalate parts

end ScreenSight.Text
