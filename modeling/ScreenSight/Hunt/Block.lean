/-!
# Hunt blocks

A hunt source is a list of blocks.  A block has a name and some params, and each param declares a
rule: its kind, what the rule is about, and the values it works with.
-/

namespace ScreenSight.Hunt

/-- The kinds of params. -/
inductive ParamKind where
  /-- The border must consist of given symbols. -/
  | tag
  /-- A value is taken from the text inside. -/
  | pluck
  /-- Two components are related. -/
  | link
  deriving DecidableEq, Inhabited

namespace ParamKind

def name : ParamKind → String
  | tag => "tag"
  | pluck => "pluck"
  | link => "link"

def ofName? : String → Option ParamKind
  | "tag" => some tag
  | "pluck" => some pluck
  | "link" => some link
  | _ => none

theorem ofName?_name (kind : ParamKind) : ofName? kind.name = some kind := by
  cases kind <;> rfl

end ParamKind

/-- The declaration of a rule about a component type, a property or a kind of relationship.  It
starts at the offset of its opening brace in bytes. -/
structure Param where
  kind : ParamKind
  target : String
  values : List String
  start : Nat
  deriving DecidableEq, Inhabited

/-- A named list of params.  It starts at the offset of its opening mark in bytes. -/
structure Block where
  name : String
  params : List Param
  start : Nat
  deriving DecidableEq, Inhabited

def Block.ofKind (block : Block) (kind : ParamKind) : List Param :=
  block.params.filter fun param => param.kind == kind

end ScreenSight.Hunt
