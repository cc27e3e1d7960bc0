import ScreenSight.Hunt.Reader
import ScreenSight.Hunt.Rule.Link
import ScreenSight.Hunt.Rule.Pluck
import ScreenSight.Hunt.Rule.Tag

/-!
# Rules

Each param of a block declares one rule.  Only the values of a link rule can be wrong; that is a
problem of the source, at the place of the param.
-/

namespace ScreenSight.Hunt

/-- A rule of any kind. -/
inductive Rule where
  | tag (rule : TagRule)
  | pluck (rule : PluckRule)
  | link (rule : LinkRule)

namespace Rule

def ofParam (source : String) (param : Param) : Except Failure Rule :=
  match param.kind with
  | .tag => .ok (tag ⟨param.target, param.values⟩)
  | .pluck => .ok (pluck (PluckRule.ofTexts param.target param.values))
  | .link =>
      match LinkRule.ofValues param.target param.values with
      | .ok rule => .ok (link rule)
      | .error problem => .error (malformedAt source param.start (problem.message param.target))

def tag? : Rule → Option TagRule
  | tag rule => some rule
  | _ => none

def pluck? : Rule → Option PluckRule
  | pluck rule => some rule
  | _ => none

def link? : Rule → Option LinkRule
  | link rule => some rule
  | _ => none

end Rule

end ScreenSight.Hunt
