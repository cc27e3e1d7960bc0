import ScreenSight.Regex.Footprint
import ScreenSight.Regex.Landmark
import ScreenSight.Regex.Walk

/-!
# Plans

A *plan* says how a text is searched.  Where all matches end with some bytes, or hold one of a few
landmarks behind a front part, the text is searched for these bytes first, and then read backward to
find where the match begins.  The first landmark that a match goes with decides, so a match that
begins before it and runs on across the landmark can be missed.
-/

namespace ScreenSight.Regex

/-- How a text is searched. -/
inductive Plan where
  /-- A match is tried at every place. -/
  | everywhere
  /-- Every match ends with some bytes. -/
  | byEnd (landmark : List UInt8) (whole : Walker)
  /-- Every match has a landmark behind its front. -/
  | byMiddle (landmarks : List (List UInt8)) (front : Walker)

namespace Pattern

/-- A pattern without the groups that enclose all of it. -/
def uncaptured : Pattern → Pattern
  | capture _ inner => inner.uncaptured
  | pattern => pattern

/-- The alternatives of a pattern without groups. -/
def bareBranches : Pattern → List Pattern
  | capture _ inner => [choiceAll inner.bareBranches]
  | sequence first second =>
      [sequenceAll [choiceAll first.bareBranches, choiceAll second.bareBranches]]
  | choice first second => first.bareBranches ++ second.bareBranches
  | repetition inner least most greedy =>
      [repeated (choiceAll inner.bareBranches) least most greedy]
  | pattern => [pattern]

/-- A pattern without groups, in simple form. -/
def bare (pattern : Pattern) : Pattern :=
  choiceAll pattern.bareBranches

/-- What to look for at the beginning of a part that does not begin a match. -/
def innerLandmarks (pattern : Pattern) : List (List UInt8) :=
  ((Fragments.ofPattern .forward pattern).parts.select .forward).landmarks

/-- The front and the landmarks behind it, if some part of a sequence has quick ones.  The landmarks
of all that follows are taken instead of those of the part if they are quick too. -/
def middle? (front : List Pattern) : List Pattern → Option (Pattern × List (List UInt8))
  | [] => none
  | part :: rest =>
      if !front.isEmpty && areQuick part.innerLandmarks then
        let following := (chain (part :: rest)).innerLandmarks
        some (chain front, if areQuick following then following else part.innerLandmarks)
      else middle? (front ++ [part]) rest

end Pattern

namespace Plan

/-- The plan for a pattern.  Landmarks at its beginning leave no match out if a match is tried at
each of them, and so do the ends of the text. -/
def ofPattern (pattern : Pattern) : Plan :=
  let beginnings := ((Fragments.ofPattern .forward pattern).select .forward).landmarks
  if Draft.isAnchored .forward pattern || Draft.isAnchored .backward pattern ||
      pattern.words?.isSome || pattern.isLongList || areQuick beginnings then .everywhere
  else
    match Fragment.common (((Fragments.ofPattern .backward pattern).select .backward).getD []) with
    | [] =>
        let inner := pattern.uncaptured
        match if inner.isSequence then Pattern.middle? [] inner.bare.parts else none with
        | some (front, landmarks) => .byMiddle landmarks (.ofPattern .backward front)
        | none => .everywhere
    | landmark => .byEnd landmark.reverse (.ofPattern .backward pattern)

end Plan

end ScreenSight.Regex
