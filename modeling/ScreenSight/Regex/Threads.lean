import ScreenSight.Regex.Program

/-!
# Threads

A text is searched from left to right by a list of threads, the most preferred one first.  At every
place each thread is followed through the instructions that take no character; an address that a
more preferred thread has already reached is not followed again.  The match found is the one that
begins first, and of those the one preferred by the order of alternatives and repetitions.
-/

namespace ScreenSight.Regex

/-- The recorded positions, two for each group. -/
abbrev Slots := Array (Option Nat)

/-- A thread of a search: the address it has reached and what it has recorded. -/
structure Thread where
  address : Nat
  slots : Slots

/-- A place between two characters of a text. -/
structure Place where
  position : Nat
  before : Option Char
  after : Option Char

/-- Follow threads through the instructions that take no character.  The result lists the threads
that wait for a character or accept, in order of preference. -/
def follow (program : Array Instruction) (place : Place) :
    Nat → List Thread → Array Bool → Array Thread → List Thread
  | 0, _, _, waiting => waiting.toList
  | _ + 1, [], _, waiting => waiting.toList
  | steps + 1, thread :: others, seen, waiting =>
      if seen.getD thread.address true then
        follow program place steps others seen waiting
      else
        let seen := seen.setIfInBounds thread.address true
        let next := thread.address + 1
        match program[thread.address]? with
        | none => follow program place steps others seen waiting
        | some (.take _) => follow program place steps others seen (waiting.push thread)
        | some .accept => follow program place steps others seen (waiting.push thread)
        | some (.check assertion) =>
            if assertion.holds place.before place.after then
              follow program place steps ({ thread with address := next } :: others) seen waiting
            else follow program place steps others seen waiting
        | some (.mark slot) =>
            let marked : Thread := ⟨next, thread.slots.setIfInBounds slot (some place.position)⟩
            follow program place steps (marked :: others) seen waiting
        | some (.jump target) =>
            follow program place steps ({ thread with address := target } :: others) seen waiting
        | some (.fork first second) =>
            follow program place steps
              ({ thread with address := first } :: { thread with address := second } :: others)
              seen waiting

/-- Let waiting threads take a character.  The first accepting thread ends the list, since the
threads behind it are less preferred; its record comes along. -/
def advance (program : Array Instruction) (next : Option Char) :
    List Thread → List Thread × Option Slots
  | [] => ([], none)
  | thread :: others =>
      match program[thread.address]? with
      | some .accept => ([], some thread.slots)
      | some (.take members) =>
          let (threads, found) := advance program next others
          match next with
          | some c =>
              if members.holds c then
                ({ thread with address := thread.address + 1 } :: threads, found)
              else (threads, found)
          | none => (threads, found)
      | _ => advance program next others

/-- Run the threads over the rest of a text.  If there is a record for new threads, one starts at
every place until there is a match. -/
def run (program : Array Instruction) (fresh : Option Slots) (threads : List Thread)
    (found : Option Slots) (position : Nat) (before : Option Char) : List Char → Option Slots
  | [] =>
      let (_, accepted) := here threads none
      accepted.or found
  | c :: rest =>
      let (threads, accepted) := here threads (some c)
      let found := accepted.or found
      if threads.isEmpty && (found.isSome || fresh.isNone) then found
      else run program fresh threads found (position + 1) (some c) rest
where
  /-- What the threads do at the current place. -/
  here (threads : List Thread) (after : Option Char) : List Thread × Option Slots :=
    let threads :=
      match fresh with
      | some slots => if found.isNone then threads ++ [⟨0, slots⟩] else threads
      | none => threads
    let steps := threads.length + 2 * program.size + 1
    advance program after
      (follow program ⟨position, before, after⟩ steps threads
        (Array.replicate program.size false) #[])

end ScreenSight.Regex
