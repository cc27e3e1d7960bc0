import ScreenSight.Regex.Pattern

/-!
# Matching programs

A pattern is laid out as a list of instructions with absolute addresses.  Control runs on from one
instruction to the next unless an instruction says otherwise; a fork prefers its first branch.  The
length of the code of a pattern is known beforehand, and so are all addresses.

After a round of a loop that took a character, control returns to the fork in front of the loop.  If
a round may take nothing, that fork may have been passed at the same place before, so the end of the
loop has a fork of its own.
-/

namespace ScreenSight.Regex

/-- One instruction. -/
inductive Instruction where
  /-- Take one character of a class. -/
  | take (members : CharClass)
  /-- Go on only where an assertion holds. -/
  | check (assertion : Assertion)
  /-- Record the current position in a slot. -/
  | mark (slot : Nat)
  /-- Go on at either address, the first one preferred. -/
  | fork (first second : Nat)
  /-- Go on at an address. -/
  | jump (target : Nat)
  /-- The text read so far is a match. -/
  | accept

namespace Pattern

/-- The number of instructions of a pattern. -/
def codeSize : Pattern → Nat
  | empty => 0
  | literal text => text.length
  | oneOf _ _ => 1
  | check _ => 1
  | capture _ inner => inner.codeSize + 2
  | sequence first second => first.codeSize + second.codeSize
  | choice first second => first.codeSize + second.codeSize + 2
  | repetition inner 0 none _ => inner.codeSize + 2
  | repetition inner (least + 1) none _ => (least + 1) * inner.codeSize + 1
  | repetition inner least (some most) _ =>
      least * inner.codeSize + (most - least) * (inner.codeSize + 1)

/-- A fork that prefers to go on inside a repetition if that is greedy. -/
def choose (greedy : Bool) (inside outside : Nat) : Instruction :=
  if greedy then .fork inside outside else .fork outside inside

/-- The instructions of a pattern, laid out from an address on. -/
def code : Pattern → Nat → List Instruction
  | empty, _ => []
  | literal text, _ => text.map fun c => .take (.single c)
  | oneOf members _, _ => [.take members]
  | check assertion, _ => [.check assertion]
  | capture group inner, start =>
      .mark (2 * group) :: inner.code (start + 1) ++ [.mark (2 * group + 1)]
  | sequence first second, start =>
      first.code start ++ second.code (start + first.codeSize)
  | choice first second, start =>
      let other := start + first.codeSize + 2
      .fork (start + 1) other :: first.code (start + 1) ++
        .jump (other + second.codeSize) :: second.code other
  | repetition inner 0 none greedy, start =>
      let enter := choose greedy (start + 1) (start + inner.codeSize + 2)
      enter :: inner.code (start + 1) ++ [if inner.takesCharacter then .jump start else enter]
  | repetition inner (least + 1) none greedy, start =>
      let size := inner.codeSize
      let last := start + least * size
      ((List.range (least + 1)).flatMap fun round => inner.code (start + round * size)) ++
        [choose greedy last (last + size + 1)]
  | repetition inner least (some most) greedy, start =>
      let size := inner.codeSize
      let optional := start + least * size
      let stop := optional + (most - least) * (size + 1)
      ((List.range least).flatMap fun round => inner.code (start + round * size)) ++
        (List.range (most - least)).flatMap fun round =>
          let here := optional + round * (size + 1)
          choose greedy (here + 1) stop :: inner.code (here + 1)

/-- The program of a pattern: it records the match as group zero and accepts. -/
def program (pattern : Pattern) : Array Instruction :=
  ((capture 0 pattern).code 0 ++ [Instruction.accept]).toArray

end Pattern

end ScreenSight.Regex
