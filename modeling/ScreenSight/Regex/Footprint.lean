import ScreenSight.Regex.Pattern
import ScreenSight.Regex.SlotTable
import ScreenSight.Regex.Utf8

/-!
# Footprints

An expression stands for an automaton that reads the bytes of a text, forward or backward.  Its
footprint is the memory that the states take, and an expression with too large a footprint is
refused.  A counted repetition has a copy of the states for each round, so a short expression can
have a large footprint.

States are numbered in the order in which they are made.  The states of a class share what they can,
as far as a table of fixed size remembers what has been made; since its slots depend on the numbers,
two copies of a class may differ a little in size.
-/

namespace ScreenSight.Regex

/-- The number of some states, and the memory in bytes that they take besides their own. -/
structure Footprint where
  states : Nat
  attached : Nat

namespace Footprint

/-- A number of states without anything attached. -/
def plain (count : Nat) : Footprint :=
  ⟨count, 0⟩

/-- A state that takes any of a number of ranges of bytes. -/
def ranges (count : Nat) : Footprint :=
  ⟨1, 8 * count⟩

/-- A state that takes no byte and goes on in a number of ways. -/
def ways (count : Nat) : Footprint :=
  ⟨1, 4 * count⟩

/-- Two parts together. -/
def add (left right : Footprint) : Footprint :=
  ⟨left.states + right.states, left.attached + right.attached⟩

def memory (footprint : Footprint) : Nat :=
  32 * footprint.states + footprint.attached

/-- Greatest memory of an automaton. -/
def limit : Nat := 10 * 1024 * 1024

/-! ## Literals -/

/-- Cut a list of literals at the empty ones. -/
def segments : List (List UInt8) → List (List (List UInt8))
  | [] => [[]]
  | [] :: rest => [] :: segments rest
  | literal :: rest =>
      match segments rest with
      | segment :: others => (literal :: segment) :: others
      | [] => [[literal]]

/-- What some literals begin with, and what follows there. -/
def beginnings (literals : List (List UInt8)) : List (List (List UInt8)) :=
  (literals.filterMap List.head?).eraseDups.map fun first =>
    literals.filterMap fun literal =>
      match literal with
      | byte :: rest => if byte = first then some rest else none
      | [] => none

/-- The footprint of the place where some ends of literals are still to be read.  Literals are
preferred in their order, so one that ends here parts those before it from those behind it.  The
number of bytes of the longest end bounds the depth. -/
def ofEnds : Nat → List (List UInt8) → Footprint
  | 0, _ => plain 0
  | depth + 1, literals =>
      if literals.all (·.isEmpty) then plain 0
      else
        let literals := match literals with
          | [] :: rest => [] :: rest.dropWhile (·.isEmpty)
          | literals => literals
        let parts := segments literals
        let groups := (parts.filter (!·.isEmpty)).map beginnings
        groups.foldl
          (fun total group =>
            group.foldl (fun total rest => total.add (ofEnds depth rest))
              (total.add (if group.length = 1 then plain 1 else ranges group.length)))
          (ways (groups.length + parts.length - 1))

/-- The footprint of a choice of literals, which shares their beginnings. -/
def ofLiterals (direction : Direction) (texts : List (List Char)) : Footprint :=
  let ends := texts.map direction.bytes
  (plain 1).add (ofEnds ((ends.map List.length).foldl max 0 + 1) ends)

/-- The texts of a choice between literals only. -/
def literals? (pattern : Pattern) : Option (List (List Char)) :=
  pattern.branches.mapM fun branch =>
    match branch with
    | .literal text => some text
    | _ => none

end Footprint

/-- An automaton that is being made.  States that take up the beginning of a block are kept by the
state before them and their bytes, and those that take the rest by their bytes and the states
behind. -/
structure Draft where
  footprint : Footprint
  beginnings : SlotTable
  remainders : SlotTable

namespace Draft

/-- The automaton without states. -/
def empty : Draft :=
  ⟨.plain 0, .empty 1000, .empty 10000⟩

/-- Make some states, unless the automaton would get too large. -/
def make? (draft : Draft) (part : Footprint) : Option Draft :=
  let footprint := draft.footprint.add part
  if footprint.memory ≤ Footprint.limit then some { draft with footprint := footprint } else none

/-- The number of the next state. -/
def next (draft : Draft) : Nat :=
  draft.footprint.states

/-! ## Classes -/

/-- Make the states of a block for reading backward, behind a state.  Beginnings that are remembered
are shared. -/
def makeBlock? (state : Nat) : ByteBlock → Draft → Option Draft
  | [], draft => draft.make? ⟨0, 4⟩
  | range :: rest, draft =>
      let key := [state, range.first, range.last]
      match draft.beginnings.find? key with
      | some present => makeBlock? present rest draft
      | none =>
          let made := draft.next
          match draft.make? (.plain 1) with
          | some draft =>
              makeBlock? made rest
                { draft with beginnings := draft.beginnings.insert key made }
          | none => none

/-- Make the states of some blocks for reading forward, in front of a state.  Rests that are
remembered are shared.  The number of bytes of the longest block bounds the depth.  The result has
the number of the first state. -/
def makeBlocks? (state : Nat) : Nat → List ByteBlock → Draft → Option (Nat × Draft)
  | 0, _, draft => some (state, draft)
  | depth + 1, blocks, draft => do
      let groups := ByteBlock.gather blocks
      let (key, draft) ← groups.foldlM
        (fun ((key, draft) : List Nat × Draft) (range, rest) => do
          let (behind, draft) ←
            if rest.all (·.isEmpty) then some (state, draft)
            else makeBlocks? state depth rest draft
          return (behind :: range.last :: range.first :: key, draft))
        ([], draft)
      let key := key.reverse
      match draft.remainders.find? key with
      | some present => return (present, draft)
      | none =>
          let made := draft.next
          let draft ← draft.make? (.ranges groups.length)
          return (made, { draft with remainders := draft.remainders.insert key made })

end Draft

/-- A part of an automaton as the way to make its states in a draft, unless the automaton gets too
large.  All copies of a part are made in one way, so what can be worked out beforehand is worked out
once. -/
structure Part where
  make? : Draft → Option Draft

namespace Part

def states (footprint : Footprint) : Part :=
  ⟨fun draft => draft.make? footprint⟩

/-- No states. -/
def nothing : Part :=
  ⟨some⟩

/-- A part and behind it another one. -/
def andThen (first second : Part) : Part :=
  ⟨fun draft => (first.make? draft).bind second.make?⟩

/-- Make something a number of times. -/
def repeat? (make : Draft → Option Draft) : Nat → Draft → Option Draft
  | 0, draft => some draft
  | count + 1, draft =>
      match make draft with
      | some draft => repeat? make count draft
      | none => none

def times (count : Nat) (part : Part) : Part :=
  ⟨repeat? part.make? count⟩

/-! ## Classes -/

def ofBlocks (direction : Direction) (blocks : List ByteBlock) : Part :=
  ⟨fun draft =>
    match direction with
    | .forward => do
        let behind := draft.next
        let draft ← draft.make? (.plain 1)
        let (_, draft) ← draft.makeBlocks? behind 4 blocks
        return draft
    | .backward => do
        let behind := draft.next + 1
        let draft ← draft.make? (.plain 2)
        blocks.foldlM (fun draft block => draft.makeBlock? behind block) draft⟩

/-- The states of a class.  An ASCII class takes its bytes in one state. -/
def ofClass (direction : Direction) (members : CharClass) : Part :=
  if members.isAscii then states ((Footprint.plain 1).add (.ranges members.spans.length))
  else
    let blocks := ByteBlock.ofClass members
    ofBlocks direction blocks

/-! ## Patterns -/

/-- The states of a pattern.  The states that begin and end a choice are made behind its second
branch; `before` counts the branches that come before the pattern in a choice. -/
def ofPattern (direction : Direction) : (before : Nat) → Pattern → Part
  | _, .empty => states (.plain 1)
  | _, .literal text => states (.plain (direction.bytes text).length)
  | _, .oneOf members _ => ofClass direction members
  | _, .check _ => states (.plain 1)
  | _, .capture _ inner =>
      match direction with
      | .forward =>
          ((states (.plain 1)).andThen (ofPattern direction 0 inner)).andThen (states (.plain 1))
      | .backward => ofPattern direction 0 inner
  | _, .sequence first second =>
      match direction with
      | .forward => (ofPattern direction 0 first).andThen (ofPattern direction 0 second)
      | .backward => (ofPattern direction 0 second).andThen (ofPattern direction 0 first)
  | before, .choice first second =>
      let choice := Pattern.choice first second
      match if before = 0 then Footprint.literals? choice else none with
      | some texts => states (Footprint.ofLiterals direction texts)
      | none =>
          let ends := states ⟨2, 4 * (choice.branches.length + before)⟩
          let isSecond := before = 1
          let secondIsLast := before = 0 ∧ second.branches.length = 1
          (((ofPattern direction 0 first).andThen (if isSecond then ends else nothing)).andThen
            (ofPattern direction (before + 1) second)).andThen
              (if secondIsLast then ends else nothing)
  | _, .repetition inner least none _ =>
      let round := ofPattern direction 0 inner
      if 0 < least then (round.times least).andThen (states (.ways 2))
      else if inner.takesCharacter then (states (.ways 2)).andThen round
      else round.andThen (states (((Footprint.ways 2).add (.ways 2)).add (.plain 1)))
  | _, .repetition inner 0 (some 1) _ =>
      ((states (.ways 2)).andThen (ofPattern direction 0 inner)).andThen (states (.plain 1))
  | _, .repetition inner least (some most) _ =>
      let round := ofPattern direction 0 inner
      let needed := if least = 0 then states (.plain 1) else round.times least
      if least = most then needed
      else
        let optional := ((states (.ways 2)).andThen round).times (most - least)
        (needed.andThen (states (.plain 1))).andThen optional

end Part

namespace Draft

/-- Whether a pattern only matches where reading begins. -/
def isAnchored (direction : Direction) : Pattern → Bool
  | .check .textStart => direction = .forward
  | .check .textEnd => direction = .backward
  | .capture _ inner => isAnchored direction inner
  | .sequence first second =>
      match direction with
      | .forward => isAnchored direction first || (first.onlyEmpty && isAnchored direction second)
      | .backward => isAnchored direction second || (second.onlyEmpty && isAnchored direction first)
  | .choice first second => isAnchored direction first && isAnchored direction second
  | .repetition inner least _ _ => 0 < least && isAnchored direction inner
  | _ => false

/-- Make the automaton of a whole expression, which may begin at any byte unless it is anchored, and
records its match. -/
def ofExpression? (direction : Direction) (pattern : Pattern) : Option Draft := do
  let entry : Footprint :=
    if isAnchored direction pattern then .plain 1
    else ((Footprint.ways 2).add (.plain 1)).add (.ranges 1)
  let draft ← Draft.empty.make? entry
  let draft ← (Part.ofPattern direction 0 (.capture 0 pattern)).make? draft
  draft.make? (.plain 1)

end Draft

/-- Whether the automata of a pattern fit into the limit, whatever the direction of reading. -/
def Pattern.fits (pattern : Pattern) : Bool :=
  (Draft.ofExpression? .forward pattern).isSome && (Draft.ofExpression? .backward pattern).isSome

end ScreenSight.Regex
