import ScreenSight.Ordered.Set
import ScreenSight.Text.Blank

/-!
# Tag rules

A tag rule lists literals and asks that the border of a component be drawn with them.  A symbol that
is a literal by itself counts fully, and one that only occurs inside a longer literal counts half;
the score is the mean over the symbols.
-/

namespace ScreenSight.Hunt

/-- A rule about the symbols of the border of a component type. -/
structure TagRule where
  target : String
  literals : List String
  deriving DecidableEq, Inhabited

/-- How well a symbol is covered by literals. -/
inductive Grade where
  /-- It is a literal. -/
  | whole
  /-- It occurs in a longer literal. -/
  | part
  deriving DecidableEq

def Grade.points : Grade → Float
  | whole => 1.0
  | part => 0.5

/-- How well a symbol is covered by literals, if at all. -/
def grade? (literals : List String) (symbol : Char) : Option Grade :=
  if literals.any fun literal => literal.toList == [symbol] then some .whole
  else if literals.any fun literal => literal.toList.contains symbol then some .part
  else none

/-- The mean of some numbers. -/
def mean (numbers : List Float) : Float :=
  numbers.foldl (· + ·) 0.0 / Float.ofNat numbers.length

/-- The symbols that are not white space. -/
def visible (symbols : SortedSet Char) : List Char :=
  symbols.toList.filter fun symbol => !Text.isBlank symbol

namespace TagRule

/-- The grades of the visible symbols, if there are any and all are covered. -/
def grades? (rule : TagRule) (symbols : SortedSet Char) : Option (List Grade) :=
  if (visible symbols).isEmpty then none else (visible symbols).mapM (grade? rule.literals)

/-- The score of a border, unless the rule fails on it. -/
def score? (rule : TagRule) (symbols : SortedSet Char) : Option Float :=
  (rule.grades? symbols).map fun grades => mean (grades.map Grade.points)

/-- Whether a border satisfies the rule. -/
def accepts (rule : TagRule) (symbols : SortedSet Char) : Bool :=
  (rule.grades? symbols).isSome

end TagRule

end ScreenSight.Hunt
