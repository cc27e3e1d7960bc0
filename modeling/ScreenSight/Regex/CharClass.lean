import ScreenSight.Text.Blank
import ScreenSight.Text.Words
import ScreenSight.Text.CaseFold

/-!
# Character classes

A class is a set of characters, kept as spans of code points that ascend and lie apart.  Two classes
with the same members are equal, so an expression does not depend on how its classes were written.
-/

namespace ScreenSight.Regex

/-- The code points between two ends, both included. -/
structure Span where
  first : Nat
  last : Nat
  deriving DecidableEq

/-- A set of characters: spans in ascending order, with a gap between each two. -/
structure CharClass where
  spans : List Span
  deriving DecidableEq

namespace CharClass

/-- Unite spans that overlap or touch.  They are given in the order of their first code points. -/
def join : List Span → List Span
  | [] => []
  | [span] => [span]
  | first :: second :: rest =>
      if second.first ≤ first.last + 1 then
        join (⟨first.first, max first.last second.last⟩ :: rest)
      else first :: join (second :: rest)
termination_by spans => spans.length

/-- The class of the code points of some spans. -/
def ofSpans (spans : List Span) : CharClass :=
  ⟨join ((spans.filter fun span => span.first ≤ span.last).mergeSort fun left right =>
    left.first ≤ right.first)⟩

/-- The class of the code points of some ranges. -/
def ofRanges (ranges : List (Nat × Nat)) : CharClass :=
  ofSpans (ranges.map fun range => ⟨range.1, range.2⟩)

def span (first last : Nat) : CharClass :=
  ofSpans [⟨first, last⟩]

/-- The class without members. -/
def empty : CharClass :=
  ⟨[]⟩

/-- Greatest code point. -/
def lastCode : Nat := 0x10FFFF

/-- The class of all characters. -/
def all : CharClass :=
  ⟨[⟨0, lastCode⟩]⟩

def single (c : Char) : CharClass :=
  ⟨[⟨c.toNat, c.toNat⟩]⟩

/-- Whether a code point lies in one of some ascending spans. -/
def inSpans (code : Nat) : List Span → Bool
  | [] => false
  | span :: rest => span.first ≤ code && (code ≤ span.last || inSpans code rest)

/-- Whether a code point belongs to a class. -/
def holdsCode (members : CharClass) (code : Nat) : Bool :=
  inSpans code members.spans

/-- Whether a character belongs to a class. -/
def holds (members : CharClass) (c : Char) : Bool :=
  members.holdsCode c.toNat

def only? (members : CharClass) : Option Char :=
  match members.spans with
  | [span] => if span.first = span.last then some (Char.ofNat span.first) else none
  | _ => none

def isAscii (members : CharClass) : Bool :=
  members.spans.all fun span => span.last < 0x80

/-! ## Set operations -/

/-- The characters of either class. -/
def union (left right : CharClass) : CharClass :=
  ofSpans (left.spans ++ right.spans)

/-- The characters of any of some classes. -/
def unionAll (classes : List CharClass) : CharClass :=
  ofSpans (classes.flatMap spans)

/-- The span from one code point up to another one, without the latter; surrogates are no
characters. -/
def gap (first stop : Nat) : List Span :=
  let first := if first = 0xD800 then 0xE000 else first
  let last := if stop = 0xE000 then 0xD7FF else stop - 1
  if first < stop ∧ first ≤ last then [⟨first, last⟩] else []

/-- The gaps between some spans, from a code point on. -/
def gaps (first : Nat) : List Span → List Span
  | [] => gap first (lastCode + 1)
  | span :: rest => gap first span.first ++ gaps (span.last + 1) rest

/-- The characters that are not in a class. -/
def complement (members : CharClass) : CharClass :=
  ⟨gaps 0 members.spans⟩

/-- The characters of both classes. -/
def intersection (left right : CharClass) : CharClass :=
  (left.complement.union right.complement).complement

/-- The characters of the first class that are not in the second. -/
def difference (left right : CharClass) : CharClass :=
  left.intersection right.complement

/-- The characters of exactly one of two classes. -/
def symmetricDifference (left right : CharClass) : CharClass :=
  (left.union right).difference (left.intersection right)

/-! ## Case -/

/-- The class together with all case variants of its members. -/
def fold (members : CharClass) : CharClass :=
  let variants := Text.caseOrbits.filter fun orbit => orbit.any members.holdsCode
  ofSpans (members.spans ++ variants.flatMap fun orbit => orbit.map fun code => ⟨code, code⟩)

/-- The class together with the other case of its ASCII letters. -/
def foldAscii (members : CharClass) : CharClass :=
  let upper := members.intersection (span 0x41 0x5A)
  let lower := members.intersection (span 0x61 0x7A)
  ofSpans (members.spans ++ upper.spans.map (fun span => ⟨span.first + 32, span.last + 32⟩) ++
    lower.spans.map (fun span => ⟨span.first - 32, span.last - 32⟩))

/-! ## Named classes -/

/-- The decimal digits of all scripts. -/
def digit : CharClass :=
  ofRanges Text.decimalDigitRanges

/-- White space. -/
def blank : CharClass :=
  ofRanges Text.blankRanges

def word : CharClass :=
  ofRanges Text.wordRanges

def asciiDigit : CharClass :=
  span 0x30 0x39

/-- The ASCII white space. -/
def asciiBlank : CharClass :=
  ofRanges [(0x9, 0xD), (0x20, 0x20)]

def asciiLetter : CharClass :=
  ofRanges [(0x41, 0x5A), (0x61, 0x7A)]

/-- The ASCII letters and digits, and `_`. -/
def asciiWord : CharClass :=
  unionAll [asciiDigit, asciiLetter, single '_']

/-- The ASCII class of a name in brackets, such as `alpha`. -/
def ofAsciiName? (name : String) : Option CharClass :=
  match name with
  | "alnum" => some (union asciiDigit asciiLetter)
  | "alpha" => some asciiLetter
  | "ascii" => some (span 0 0x7F)
  | "blank" => some (ofRanges [(0x9, 0x9), (0x20, 0x20)])
  | "cntrl" => some (ofRanges [(0, 0x1F), (0x7F, 0x7F)])
  | "digit" => some asciiDigit
  | "graph" => some (span 0x21 0x7E)
  | "lower" => some (span 0x61 0x7A)
  | "print" => some (span 0x20 0x7E)
  | "punct" => some (ofRanges [(0x21, 0x2F), (0x3A, 0x40), (0x5B, 0x60), (0x7B, 0x7E)])
  | "space" => some asciiBlank
  | "upper" => some (span 0x41 0x5A)
  | "word" => some asciiWord
  | "xdigit" => some (ofRanges [(0x30, 0x39), (0x41, 0x46), (0x61, 0x66)])
  | _ => none

end CharClass

/-- The classes with an escape of their own. -/
inductive NamedClass where
  | digit
  | blank
  | word
  deriving DecidableEq

/-- The members of a named class, of all scripts or of ASCII only. -/
def NamedClass.members (unicode : Bool) : NamedClass → CharClass
  | digit => if unicode then CharClass.digit else CharClass.asciiDigit
  | blank => if unicode then CharClass.blank else CharClass.asciiBlank
  | word => if unicode then CharClass.word else CharClass.asciiWord

end ScreenSight.Regex
