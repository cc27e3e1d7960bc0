import ScreenSight.Hunt.Rule

/-!
# Patterns

A block gives rise to up to four patterns of its name: one that tracks all of its rules, one that
extracts values, one that recognises a component type, and one that relates components.
-/

namespace ScreenSight.Hunt

/-- All rules of a block that begins on a line. -/
structure TrackingPattern where
  name : String
  rules : List Rule
  line : Nat
  deriving Inhabited

/-- The pluck rules of a block, guarded by its tag rules. -/
structure ExtractionPattern where
  name : String
  guards : List TagRule
  plucks : List PluckRule
  deriving Inhabited

/-- A component type with the rules by which it is recognised. -/
structure ComponentPattern where
  name : String
  componentType : String
  tags : List TagRule
  plucks : List PluckRule
  deriving Inhabited

/-- The link rules of a block. -/
structure RelationshipPattern where
  name : String
  links : List LinkRule
  deriving Inhabited

/-- The success of a component pattern on a component: how well the border fits, and what the pluck
rules have taken under their targets. -/
structure PatternMatch where
  pattern : String
  componentType : String
  confidence : Float
  extracted : List (String × Extraction)
  deriving Inhabited

/-- Whether the tag rules of a block all accept a border.  A block without any tracks nothing. -/
def TrackingPattern.tracks (pattern : TrackingPattern) (symbols : SortedSet Char) : Bool :=
  let tags := pattern.rules.filterMap Rule.tag?
  !tags.isEmpty && tags.all fun tag => tag.accepts symbols

/-- What some pluck rules take from a text, under their targets. -/
def pluckAll (text : String) : List PluckRule → Except Failure (List (String × Extraction))
  | [] => .ok []
  | pluck :: rest => do
      let extraction ← pluck.extract text
      let others ← pluckAll text rest
      return (extraction.toList.map fun extraction => (pluck.target, extraction)) ++ others

/-- What a pattern extracts from a component; if the border does not satisfy the guards, nothing. -/
def ExtractionPattern.extract (pattern : ExtractionPattern) (symbols : SortedSet Char)
    (text : String) : Except Failure (List (String × Extraction)) :=
  if pattern.guards.all fun guard => guard.accepts symbols then pluckAll text pattern.plucks
  else .ok []

/-- What some pluck rules take from a text if all of them take something.  The rules behind the
first one that takes nothing are not tried. -/
def pluckEach (text : String) :
    List PluckRule → Except Failure (Option (List (String × Extraction)))
  | [] => .ok (some [])
  | pluck :: rest => do
      match ← pluck.extract text with
      | none => return none
      | some extraction =>
          let others ← pluckEach text rest
          return others.map fun others => (pluck.target, extraction) :: others

namespace ComponentPattern

/-- How well a border fits: the mean score of the tag rules, which all have to accept it.  Without
tag rules every border fits. -/
def confidence? (pattern : ComponentPattern) (symbols : SortedSet Char) : Option Float :=
  (pattern.tags.mapM fun (tag : TagRule) => tag.score? symbols).map fun scores =>
    if scores.isEmpty then 1.0 else mean scores

/-- Try a pattern on the symbols of a border and the text inside.  The text is only searched if the
border fits. -/
def evaluate (pattern : ComponentPattern) (symbols : SortedSet Char) (text : String) :
    Except Failure (Option PatternMatch) :=
  match pattern.confidence? symbols with
  | none => .ok none
  | some confidence => do
      let extracted ← pluckEach text pattern.plucks
      return extracted.map fun extracted =>
        ⟨pattern.name, pattern.componentType, confidence, extracted⟩

end ComponentPattern

end ScreenSight.Hunt
