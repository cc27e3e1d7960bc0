import ScreenSight.Regex.Fragment

/-!
# Landmarks

The *landmarks* of a pattern are a few short texts, in bytes, one of which every match has at one of
its ends.  A text can be searched for them before any match is tried.  Landmarks are good if there
are few of them, and if they are neither short nor made of common bytes.
-/

namespace ScreenSight.Regex

/-- How common the bytes below `0xC0` are in texts of all kinds, from 0 to 255. -/
def byteRanks : Array Nat := #[
  55, 52, 51, 50, 49, 48, 47, 46, 45, 103, 242, 66, 67, 229, 44, 43, 42, 41, 40, 39, 38, 37, 36,
  35, 34, 33, 56, 32, 31, 30, 29, 28, 255, 148, 164, 149, 136, 160, 155, 173, 221, 222, 134,
  122, 232, 202, 215, 224, 208, 220, 204, 187, 183, 179, 177, 168, 178, 200, 226, 195, 154, 184,
  174, 126, 120, 191, 157, 194, 170, 189, 162, 161, 150, 193, 142, 137, 171, 176, 185, 167, 186,
  112, 175, 192, 188, 156, 140, 143, 123, 133, 128, 147, 138, 146, 114, 223, 151, 249, 216, 238,
  236, 253, 227, 218, 230, 247, 135, 180, 241, 233, 246, 244, 231, 139, 245, 243, 251, 235, 201,
  196, 240, 214, 152, 182, 205, 181, 127, 27, 212, 211, 210, 213, 228, 197, 169, 159, 131, 172,
  105, 80, 98, 96, 97, 81, 207, 145, 116, 115, 144, 130, 153, 121, 107, 132, 109, 110, 124, 111,
  82, 108, 118, 141, 113, 129, 119, 125, 165, 117, 92, 106, 83, 72, 99, 93, 65, 79, 166, 237,
  163, 199, 190, 225, 209, 203, 198, 217, 219, 206, 234, 248, 158, 239]

/-- How common a byte is; the first byte of an encoding of several bytes counts as very common. -/
def byteRank (byte : UInt8) : Nat :=
  byteRanks.getD byte.toNat 255

namespace Fragment

/-- Leave out the fragments that begin with a more preferred one. -/
def dropLonger (fragments : List Fragment) : List Fragment :=
  fragments.foldl
    (fun kept fragment =>
      if kept.any (·.bytes.isPrefixOf fragment.bytes) then kept else kept ++ [fragment])
    []

/-- The bytes that two lists share at their beginnings. -/
def shared : List UInt8 → List UInt8 → List UInt8
  | left :: lefts, right :: rights => if left = right then left :: shared lefts rights else []
  | _, _ => []

/-- The bytes that all fragments begin with. -/
def common : List Fragment → List UInt8
  | [] => []
  | first :: others => others.foldl (fun bytes fragment => shared bytes fragment.bytes) first.bytes

/-- Leave out superfluous fragments.  At the far end of matches the preference is open, so there is
none that is superfluous. -/
def simplify (direction : Direction) (fragments : List Fragment) : List Fragment :=
  match direction with
  | .forward => dropLonger fragments
  | .backward => fragments

/-- The lengths that fragments are cut to, and up to how many fragments may be longer. -/
def cuts : List (Nat × Nat) :=
  [(5, 10), (4, 10), (3, 64), (2, 64), (1, 10)]

/-- Cut fragments shorter and shorter while there are too many of them. -/
def shorten (direction : Direction) : List (Nat × Nat) → List Fragment → List Fragment
  | [], fragments => fragments
  | (length, count) :: rest, fragments =>
      if fragments.length ≤ count then fragments
      else shorten direction rest (simplify direction (fragments.map (cut length)))

/-- Whether a fragment stands at too many places to be worth looking for. -/
def isCommon (fragment : Fragment) : Bool :=
  match fragment.bytes with
  | [] => true
  | [byte] => 250 ≤ byteRank byte
  | _ => false

end Fragment

namespace Fragments

open Fragment

/-- Choose what to look for among some fragments.  A rare first byte that all share is enough, and
so are some bytes that all share, unless a few fragments are all there is to look for. -/
def select (direction : Direction) (fragments : Fragments) : Fragments :=
  fragments.bind fun all =>
    let simple := simplify direction all
    let start := common simple
    if all.any (·.bytes.isEmpty) then none
    else if direction = .forward ∧ 1 < all.length ∧ 0 < start.length ∧ start.length ≤ 3 ∧
        start.head?.any (byteRank · < 200) then
      some (unite (simple.map (cut 1)))
    else
      let areExact := simple.all (·.isWhole) && simple.length ≤ 16
      let chosen :=
        if 4 < start.length ∨ (1 < start.length ∧ !areExact) then
          unite (simple.map (cut start.length))
        else simple
      if chosen.all (·.isWhole) && !chosen.isEmpty then some chosen
      else
        let short := shorten direction cuts chosen
        if short.any isCommon then none else some short

/-- The bytes of chosen fragments. -/
def landmarks (fragments : Fragments) : List (List UInt8) :=
  (fragments.getD []).map (·.bytes)

end Fragments

/-- Whether looking for landmarks is much quicker than trying matches: a single landmark, up to
three bytes, or up to 64 landmarks of three bytes or more. -/
def areQuick (landmarks : List (List UInt8)) : Bool :=
  match landmarks with
  | [] => false
  | [landmark] => !landmark.isEmpty
  | _ =>
      (landmarks.length ≤ 3 && landmarks.all (·.length == 1)) ||
        (landmarks.length ≤ 64 && landmarks.all (3 ≤ ·.length))

namespace Pattern

/-- Whether a pattern captures or checks something. -/
def observes : Pattern → Bool
  | empty => false
  | literal _ => false
  | oneOf _ _ => false
  | check _ => true
  | capture _ _ => true
  | sequence first second => first.observes || second.observes
  | choice first second => first.observes || second.observes
  | repetition inner _ _ _ => inner.observes

/-- Number of alternatives from which on a choice of literals is looked up as a whole. -/
def manyLiterals : Nat := 3000

/-- The texts that a pattern matches, the most preferred one first, where they are so few that
landmarks are all there is to look for. -/
def words? (pattern : Pattern) : Option (List (List Char)) :=
  match (Fragments.ofPattern .forward pattern).select .forward with
  | some (first :: others) =>
      if !pattern.observes && (first :: others).all (·.isWhole) then
        (first :: others).mapM fun fragment =>
          (String.fromUTF8? fragment.bytes.toByteArray).map String.toList
      else none
  | _ => none

def isLongList (pattern : Pattern) : Bool :=
  manyLiterals ≤ pattern.branches.length &&
    pattern.branches.all fun branch =>
      match branch with
      | literal _ => true
      | _ => false

end Pattern

end ScreenSight.Regex
