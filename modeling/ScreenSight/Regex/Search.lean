import ScreenSight.Regex.Plan
import ScreenSight.Regex.Reader

/-!
# Searching

A search finds a match in a text as the plan of the expression says.  It reports where the match is
and what the groups have recorded on the way that is preferred among those that begin at the same
place.

Reading and searching are sealed: what is built on them holds for whatever expressions are read
and whatever matches are found.
-/

namespace ScreenSight.Regex

/-- The first place from some place on where one of some landmarks stands: its first byte and the
byte behind it. -/
def occurrence? (landmarks : List (List UInt8)) (position : Nat) :
    List UInt8 → Option (Nat × Nat)
  | [] => none
  | byte :: rest =>
      match landmarks.find? (·.isPrefixOf (byte :: rest)) with
      | some landmark => some (position, position + landmark.length)
      | none => occurrence? landmarks (position + 1) rest

/-- What reading back from landmarks tells of the match that is searched for. -/
inductive Finding where
  /-- Nothing: a match has to be tried at every place. -/
  | unknown
  /-- There is no match. -/
  | absent
  /-- The match begins behind so many bytes. -/
  | start (bytes : Nat)

namespace Walker

/-- Where the longest match begins that ends at a place.  The walk does not go back beyond the place
where an earlier one has begun.  Nothing is known if it comes to the start of the text but the match
does not: a match might begin even before. -/
def backFrom (walker : Walker) (text : List UInt8) (least stop : Nat) : Finding :=
  let bound := if least = 0 then none else some (stop - least)
  match walker.walk? bound text[stop]? (text.take stop).reverse with
  | none => .unknown
  | some walk =>
      match walk.found with
      | none => .absent
      | some length => if walk.reachedEnd && length ≠ stop then .unknown else .start (stop - length)

/-- How far a match goes that begins at a place. -/
def onFrom? (walker : Walker) (text : List UInt8) (start : Nat) : Option Walk :=
  walker.walk? none (if start = 0 then none else text[start - 1]?) (text.drop start)

/-- Where a match begins that ends with a landmark. -/
def findByEnd (walker : Walker) (landmark : List UInt8) (text : List UInt8) :
    (steps position least : Nat) → Finding
  | 0, _, _ => .absent
  | steps + 1, position, least =>
      match occurrence? [landmark] position (text.drop position) with
      | none => .absent
      | some (first, stop) =>
          match walker.backFrom text least stop with
          | .absent => walker.findByEnd landmark text steps (first + 1) stop
          | finding => finding

/-- Where a match begins that has a landmark behind its front.  Landmarks before the place where the
last match that was tried has failed are not used. -/
def findByMiddle (front whole : Walker) (landmarks : List (List UInt8)) (text : List UInt8) :
    (steps position least failed : Nat) → Finding
  | 0, _, _, _ => .absent
  | steps + 1, position, least, failed =>
      match occurrence? landmarks position (text.drop position) with
      | none => .absent
      | some (first, stop) =>
          if first < failed then .unknown
          else
            match front.backFrom text least first with
            | .unknown => .unknown
            | .absent => findByMiddle front whole landmarks text steps (first + 1) stop failed
            | .start start =>
                match whole.onFrom? text start with
                | none => .unknown
                | some walk =>
                    if walk.found.isSome then .start start
                    else
                      findByMiddle front whole landmarks text steps (first + 1) stop
                        (start + walk.length)

end Walker

/-- The number of characters that some bytes of a text are. -/
def countCharacters : (bytes : Nat) → List Char → Nat
  | 0, _ => 0
  | _ + 1, [] => 0
  | bytes + 1, c :: rest => countCharacters (bytes + 1 - c.utf8Size) rest + 1

end ScreenSight.Regex

namespace ScreenSight

/-- A regular expression that is ready to search: a walker that reads matches forward, a plan for
texts, and groups, some of which have names. -/
structure Regex where
  walker : Regex.Walker
  plan : Regex.Plan
  groups : Nat
  names : List (String × Nat)

/-- What a search has found: the text of group zero, which is the whole match, and of each group
that took part in it. -/
structure RegexMatch where
  groups : List (Option (List Char))

namespace Regex

/-- The regular expression of a written form, if that is well formed. -/
@[irreducible]
def ofText? (text : String) : Option Regex :=
  (read? text).map fun reading =>
    { walker := .ofPattern .forward reading.pattern
      plan := .ofPattern reading.pattern
      groups := reading.groups
      names := reading.names }

/-- A record in which nothing is recorded. -/
def fresh (regex : Regex) : Slots :=
  Array.replicate (2 * (regex.groups + 1)) none

/-- The record of the first match in a text. -/
def firstMatch (regex : Regex) (text : List Char) : Option Slots :=
  run regex.walker.program (some regex.fresh) [] none 0 none text

/-- The record of the match that begins behind some characters of a text. -/
def matchBehind (regex : Regex) (count : Nat) (text : List Char) : Option Slots :=
  let before := if count = 0 then none else text[count - 1]?
  run regex.walker.program none [⟨0, regex.fresh⟩] none count before (text.drop count)

/-- What the plan tells of the match in a text.  Without groups the match is read forward as bytes
too. -/
def finding (regex : Regex) (text : List UInt8) : Finding :=
  match regex.plan with
  | .everywhere => .unknown
  | .byEnd landmark whole =>
      match whole.findByEnd landmark text (text.length + 1) 0 0 with
      | .start start =>
          if regex.groups = 0 && (regex.walker.onFrom? text start).isNone then .unknown
          else .start start
      | finding => finding
  | .byMiddle landmarks front =>
      front.findByMiddle regex.walker landmarks text (text.length + 1) 0 0 0

/-- The match that a search finds in a text. -/
@[irreducible]
def search (regex : Regex) (text : List Char) : Option RegexMatch :=
  let record :=
    match regex.finding (text.flatMap String.utf8EncodeChar) with
    | .unknown => regex.firstMatch text
    | .absent => none
    | .start bytes => regex.matchBehind (countCharacters bytes text) text
  record.map fun slots =>
    ⟨(List.range (regex.groups + 1)).map fun group =>
      match slots.getD (2 * group) none, slots.getD (2 * group + 1) none with
      | some first, some last => some ((text.drop first).take (last - first))
      | _, _ => none⟩

end Regex

/-- The text of a group that took part in a match. -/
def RegexMatch.group? (found : RegexMatch) (number : Nat) : Option (List Char) :=
  (found.groups[number]?).join

end ScreenSight
