import ScreenSight.Failure
import ScreenSight.Ordered.Map
import ScreenSight.Regex.Search
import ScreenSight.Text.Blank

/-!
# Pluck rules

A pluck rule takes a value from the text inside a component by the first of its expressions that
yields one.  An expression that is not well formed is kept: it does no harm until the search comes
to it.
-/

namespace ScreenSight.Hunt

/-- A regular expression as it was written, and what it means if it is well formed. -/
structure Expression where
  source : String
  regex : Option Regex
  regex_eq : regex = Regex.ofText? source

namespace Expression

/-- The expression of a written form. -/
def ofText (source : String) : Expression :=
  ⟨source, Regex.ofText? source, rfl⟩

/-- Whether an expression is well formed. -/
def isValid (expression : Expression) : Bool :=
  expression.regex.isSome

/-- What stands in messages for the reason why an expression is not well formed, which is not worked
out. -/
def unstatedReason : String :=
  "<regex error>"

/-- What messages say of an expression that is not well formed. -/
def complaint (expression : Expression) : String :=
  s!"invalid regex `{expression.source}`: {unstatedReason}"

end Expression

/-- What a pluck rule has taken from a text, with the texts of the named groups that are not empty.
-/
structure Extraction where
  value : String
  captures : SortedMap String String
  deriving DecidableEq, Inhabited

/-- The extraction of a match: the first group if it took part and else the whole match, without
white space at the ends.  An empty value does not count. -/
def Extraction.ofMatch? (regex : Regex) (found : RegexMatch) : Option Extraction :=
  let text? (group : Nat) : Option String :=
    (found.group? group).map fun characters => String.ofList (Text.dropBlankEnds characters)
  let value := ((text? 1).or (text? 0)).getD ""
  if value.isEmpty then none
  else
    let named := regex.names.filterMap fun (name, group) =>
      (text? group).map fun text => (name, text)
    some ⟨value, SortedMap.ofList (named.filter fun (_, text) => !text.isEmpty)⟩

/-- A rule that takes a value from a text, to be stored as a property. -/
structure PluckRule where
  target : String
  expressions : List Expression

namespace PluckRule

/-- The rule of some written expressions. -/
def ofTexts (target : String) (sources : List String) : PluckRule :=
  ⟨target, sources.map Expression.ofText⟩

/-- The expressions that are not well formed. -/
def invalid (rule : PluckRule) : List Expression :=
  rule.expressions.filter fun expression => !expression.isValid

/-- Search a text with some expressions for the value of a target. -/
def extractBy (target : String) (text : String) :
    List Expression → Except Failure (Option Extraction)
  | [] => .ok none
  | expression :: rest =>
      match expression.regex with
      | none => .error (.invalidPattern s!"pluck `{target}`: {expression.complaint}")
      | some regex =>
          match (regex.search text.toList).bind (Extraction.ofMatch? regex) with
          | some extraction => .ok (some extraction)
          | none => extractBy target text rest

/-- What the first successful expression takes from a text.  It fails where an expression that is
not well formed comes first. -/
def extract (rule : PluckRule) (text : String) : Except Failure (Option Extraction) :=
  extractBy rule.target text rule.expressions

end PluckRule

end ScreenSight.Hunt
