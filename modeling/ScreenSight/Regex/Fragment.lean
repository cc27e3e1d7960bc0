import ScreenSight.Regex.Pattern
import ScreenSight.Regex.Utf8

/-!
# Fragments

A *fragment* is what some matches of a pattern have at the end from which they are read: all of a
match, or its first bytes.  A pattern has a list of fragments so that each match has one of them,
the most preferred one first, or none where the list would be too long.
-/

namespace ScreenSight.Regex

/-- Some bytes at one end of a match, in the order of reading, or the whole of it. -/
structure Fragment where
  bytes : List UInt8
  isWhole : Bool
  deriving DecidableEq

namespace Fragment

/-- The whole of an empty match. -/
def nothing : Fragment :=
  ⟨[], true⟩

/-- The same bytes as a part of a longer match. -/
def part (fragment : Fragment) : Fragment :=
  { fragment with isWhole := false }

/-- At most so many bytes of a fragment. -/
def cut (length : Nat) (fragment : Fragment) : Fragment :=
  if fragment.bytes.length ≤ length then fragment else ⟨fragment.bytes.take length, false⟩

/-- What is read when the match of another pattern follows on a whole match. -/
def append (near far : Fragment) : Fragment :=
  ⟨near.bytes ++ far.bytes, far.isWhole⟩

/-- Unite neighbours with the same bytes. -/
def unite : List Fragment → List Fragment
  | [] => []
  | first :: rest =>
      match unite rest with
      | second :: others =>
          if first.bytes = second.bytes then
            ⟨first.bytes, first.isWhole && second.isWhole⟩ :: others
          else first :: second :: others
      | [] => [first]

end Fragment

/-- The fragments of a pattern, or `none` where there would be too many. -/
abbrev Fragments :=
  Option (List Fragment)

namespace Fragments

/-- Greatest number of fragments. -/
def countLimit : Nat := 250

/-- Greatest number of bytes of a fragment. -/
def lengthLimit : Nat := 100

/-- Greatest number of members of a class whose characters are fragments. -/
def classLimit : Nat := 10

/-- Greatest number of rounds of a repetition that fragments are made of. -/
def roundLimit : Nat := 10

/-- The number of bytes that fragments are cut to when there are too many alternatives. -/
def shortLength : Nat := 4

/-- The fragments of the empty pattern. -/
def nothing : Fragments :=
  some [.nothing]

/-- The same bytes as parts of longer matches. -/
def parts (fragments : Fragments) : Fragments :=
  fragments.map fun list => list.map Fragment.part

/-- Whether some fragment is a whole match, which can be read on behind. -/
def isOpen (fragments : Fragments) : Bool :=
  fragments.any fun list => list.any (·.isWhole)

/-- What is read of two patterns one behind the other.  The preference is that of the pattern that
is written first. -/
def followedBy (direction : Direction) (near far : Fragments) : Fragments :=
  match near, far with
  | none, _ => none
  | some nears, far =>
      let fits := fun fars : List Fragment => decide (nears.length * fars.length ≤ countLimit)
      match far.filter fits with
      | none => if nears.any (·.bytes.isEmpty) then none else some (nears.map Fragment.part)
      | some fars =>
          let joined := match direction, fars with
            | .forward, fars =>
                nears.flatMap fun near => if near.isWhole then fars.map near.append else [near]
            | .backward, [] => []
            | .backward, first :: others =>
                (nears.map fun near => if near.isWhole then near.append first else near) ++
                  others.flatMap fun far => (nears.filter (·.isWhole)).map (·.append far)
          some ((Fragment.unite joined).map (Fragment.cut lengthLimit))

/-- What is read of two alternatives.  Fragments are cut if that makes room for all. -/
def orElse (upper lower : Fragments) : Fragments :=
  match upper, lower with
  | some uppers, some lowers =>
      if uppers.length + lowers.length ≤ countLimit then some (Fragment.unite (uppers ++ lowers))
      else
        let uppers := Fragment.unite (uppers.map (Fragment.cut shortLength))
        let lowers := Fragment.unite (lowers.map (Fragment.cut shortLength))
        if uppers.length + lowers.length ≤ countLimit then some (Fragment.unite (uppers ++ lowers))
        else none
  | _, _ => none

def ofText (direction : Direction) (text : List Char) : Fragments :=
  some [Fragment.cut lengthLimit ⟨direction.bytes text, true⟩]

/-- The fragments of a class: its characters, if they are few. -/
def ofClass (direction : Direction) (members : CharClass) : Fragments :=
  let count := (members.spans.map fun span => span.last + 1 - span.first).foldl (· + ·) 0
  if count ≤ classLimit then
    some (members.spans.flatMap fun span =>
      (List.range (span.last + 1 - span.first)).map fun offset =>
        ⟨direction.bytes [Char.ofNat (span.first + offset)], true⟩)
  else none

/-- Some rounds of a pattern, as far as they can be read on. -/
def rounds (direction : Direction) (round : Fragments) : Nat → Fragments → Fragments
  | 0, fragments => fragments
  | count + 1, fragments =>
      if fragments.isOpen then rounds direction round count (fragments.followedBy direction round)
      else fragments

def ofRepetition (direction : Direction) (round : Fragments) (least : Nat) (most : Option Nat)
    (greedy : Bool) : Fragments :=
  if least = 0 then
    let round := if most = some 1 then round else round.parts
    if greedy then round.orElse nothing else orElse nothing round
  else
    let fragments := rounds direction round (min least roundLimit) nothing
    if most = some least ∧ least ≤ roundLimit then fragments else fragments.parts

/-- What has been read before a pattern: what it follows on, or its preferred alternatives. -/
inductive Context where
  | behind (near : Fragments)
  | beside (upper : Fragments)

/-- Read a further pattern. -/
def Context.add (direction : Direction) (context : Context) (own : Fragments) : Fragments :=
  match context with
  | behind near => if near.isOpen then near.followedBy direction own else near
  | beside upper => if upper.isSome then upper.orElse own else none

def collect (direction : Direction) : Pattern → Context → Fragments
  | .empty, context => context.add direction nothing
  | .check _, context => context.add direction nothing
  | .literal text, context => context.add direction (ofText direction text)
  | .oneOf members _, context => context.add direction (ofClass direction members)
  | .capture _ inner, context =>
      context.add direction (collect direction inner (.behind nothing))
  | .repetition inner least most greedy, context =>
      let round := collect direction inner (.behind nothing)
      context.add direction (ofRepetition direction round least most greedy)
  | .sequence first second, .behind near =>
      match direction with
      | .forward => collect .forward second (.behind (collect .forward first (.behind near)))
      | .backward => collect .backward first (.behind (collect .backward second (.behind near)))
  | .sequence first second, context =>
      context.add direction (match direction with
        | .forward =>
            collect .forward second (.behind (collect .forward first (.behind nothing)))
        | .backward =>
            collect .backward first (.behind (collect .backward second (.behind nothing))))
  | .choice first second, .beside upper =>
      collect direction second (.beside (collect direction first (.beside upper)))
  | .choice first second, context =>
      context.add direction
        (collect direction second (.beside (collect direction first (.beside (some [])))))

def ofPattern (direction : Direction) (pattern : Pattern) : Fragments :=
  collect direction pattern (.behind nothing)

end Fragments

end ScreenSight.Regex
