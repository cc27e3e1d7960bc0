import ScreenSight.Regex.CharClass

/-!
# Patterns

The structure of a regular expression after all flags have been resolved.  Alternatives and
repetitions are ordered: the choice written first is preferred.
-/

namespace ScreenSight.Regex

/-- A test on the place between two characters. -/
inductive Assertion where
  | textStart
  | textEnd
  /-- After a line feed or at the start. -/
  | lineStart
  /-- Before a line feed or at the end. -/
  | lineEnd
  /-- As `lineStart`, where a carriage return, alone or before a line feed, ends lines too. -/
  | lineStartCrlf
  /-- As `lineEnd`, where a carriage return, alone or before a line feed, ends lines too. -/
  | lineEndCrlf
  /-- Between a word character and another one. -/
  | wordBoundary (unicode : Bool)
  | notWordBoundary (unicode : Bool)
  | wordStart (unicode : Bool)
  | wordEnd (unicode : Bool)
  /-- Not after a word character. -/
  | wordStartHalf (unicode : Bool)
  /-- Not before a word character. -/
  | wordEndHalf (unicode : Bool)
  deriving DecidableEq

/-- A regular expression. -/
inductive Pattern where
  /-- The empty text. -/
  | empty
  /-- Some characters one after the other. -/
  | literal (text : List Char)
  /-- One character of a class.  Classes that were read with and without Unicode are told apart. -/
  | oneOf (members : CharClass) (unicode : Bool)
  /-- The empty text, where an assertion holds. -/
  | check (assertion : Assertion)
  /-- What the inner pattern matches, recorded under a group number. -/
  | capture (group : Nat) (inner : Pattern)
  /-- The first pattern, then the second. -/
  | sequence (first second : Pattern)
  /-- Either pattern, the first one preferred. -/
  | choice (first second : Pattern)
  /-- The pattern at least `least` times and at most `most` times, often as preferred if `greedy`
  and seldom otherwise. -/
  | repetition (inner : Pattern) (least : Nat) (most : Option Nat) (greedy : Bool)
  deriving DecidableEq

namespace Assertion

/-- Whether a neighbour exists and is a word character. -/
def isWord (unicode : Bool) : Option Char → Bool
  | none => false
  | some c => if unicode then Text.isWordCharacter c else Text.isAsciiWordCharacter c

/-- Whether an assertion holds between two neighbours; a missing one is an end of the text. -/
def holds (before after : Option Char) : Assertion → Bool
  | textStart => before.isNone
  | textEnd => after.isNone
  | lineStart => before.isNone || before == some '\n'
  | lineEnd => after.isNone || after == some '\n'
  | lineStartCrlf =>
      before.isNone || before == some '\n' || (before == some '\r' && after != some '\n')
  | lineEndCrlf =>
      after.isNone || after == some '\r' || (after == some '\n' && before != some '\r')
  | wordBoundary unicode => isWord unicode before != isWord unicode after
  | notWordBoundary unicode => isWord unicode before == isWord unicode after
  | wordStart unicode => !isWord unicode before && isWord unicode after
  | wordEnd unicode => isWord unicode before && !isWord unicode after
  | wordStartHalf unicode => !isWord unicode before
  | wordEndHalf unicode => !isWord unicode after

end Assertion

namespace Pattern

/-! ## What a pattern takes -/

/-- Whether a pattern matches no text but the empty one. -/
def onlyEmpty : Pattern → Bool
  | empty => true
  | literal text => text.isEmpty
  | oneOf _ _ => false
  | check _ => true
  | capture _ inner => inner.onlyEmpty
  | sequence first second => first.onlyEmpty && second.onlyEmpty
  | choice first second => first.onlyEmpty && second.onlyEmpty
  | repetition inner _ most _ => inner.onlyEmpty && most.isSome

/-- The least number of characters that a pattern takes, unless a class without members leaves that
open. -/
def leastLength? : Pattern → Option Nat
  | empty => some 0
  | literal text => some text.length
  | oneOf members _ => if members.spans.isEmpty then none else some 1
  | check _ => some 0
  | capture _ inner => inner.leastLength?
  | sequence first second => do return (← first.leastLength?) + (← second.leastLength?)
  | choice first second => do return min (← first.leastLength?) (← second.leastLength?)
  | repetition inner least _ _ => inner.leastLength?.map (least * ·)

/-- Whether a pattern is known to take a character. -/
def takesCharacter (pattern : Pattern) : Bool :=
  pattern.leastLength?.any (0 < ·)

/-- The number of nodes of a pattern. -/
def size : Pattern → Nat
  | empty => 1
  | literal _ => 1
  | oneOf _ _ => 1
  | check _ => 1
  | capture _ inner => inner.size + 1
  | sequence first second => first.size + second.size + 1
  | choice first second => first.size + second.size + 1
  | repetition inner _ _ _ => inner.size + 1

/-! ## Building patterns

Patterns are brought into a simple form while they are built.  What a search prefers is read off
that form, so it is part of the meaning of an expression. -/

/-- The pattern without a match. -/
def never : Pattern :=
  oneOf .empty true

/-- The pattern of a class; a class with one member is a literal. -/
def ofClass (unicode : Bool) (members : CharClass) : Pattern :=
  match members.only? with
  | some c => literal [c]
  | none => if members.spans.isEmpty then never else oneOf members unicode

def parts : Pattern → List Pattern
  | empty => []
  | sequence first second => first.parts ++ second.parts
  | pattern => [pattern]

/-- Unite literals that follow one another. -/
def joinLiterals : List Pattern → List Pattern
  | [] => []
  | literal text :: rest =>
      match joinLiterals rest with
      | literal more :: others => literal (text ++ more) :: others
      | others => literal text :: others
  | pattern :: rest => pattern :: joinLiterals rest

/-- The patterns of a list one after the other, as they stand. -/
def chain : List Pattern → Pattern
  | [] => empty
  | [only] => only
  | first :: rest => sequence first (chain rest)

/-- The patterns of a list one after the other. -/
def sequenceAll (patterns : List Pattern) : Pattern :=
  chain (joinLiterals (patterns.flatMap parts))

def branches : Pattern → List Pattern
  | choice first second => first.branches ++ second.branches
  | pattern => [pattern]

/-- The patterns of a list as alternatives, as they stand. -/
def fork : List Pattern → Pattern
  | [] => never
  | [only] => only
  | first :: rest => choice first (fork rest)

def character? : Pattern → Option CharClass
  | literal [c] => some (.single c)
  | _ => none

def members? : Pattern → Option CharClass
  | oneOf members _ => some members
  | _ => none

/-- The class of some alternatives, if all of them are characters or all of them are classes. -/
def commonClass? (patterns : List Pattern) : Option CharClass :=
  ((patterns.mapM character?).or (patterns.mapM members?)).map .unionAll

/-- The beginning that two lists share. -/
def sharedParts : List Pattern → List Pattern → List Pattern
  | left :: lefts, right :: rights => if left = right then left :: sharedParts lefts rights else []
  | _, _ => []

/-- Whether a pattern is a sequence of several parts. -/
def isSequence : Pattern → Bool
  | sequence _ _ => true
  | _ => false

/-- The parts that all branches begin with, if all of them are sequences. -/
def commonParts : List Pattern → List Pattern
  | [] => []
  | first :: others =>
      if first.isSequence && others.all isSequence then
        others.foldl (fun shared branch => sharedParts shared branch.parts) first.parts
      else []

/-- The patterns of a list as alternatives.  Characters are united in a class, and so are classes,
and parts that all alternatives begin with are taken out in front.  The number of steps bounds how
often that can happen. -/
def choiceWithin : Nat → List Pattern → Pattern
  | 0, patterns => fork patterns
  | steps + 1, patterns =>
      match patterns.flatMap branches with
      | [] => fork []
      | [only] => only
      | all =>
          match commonClass? all with
          | some members => ofClass true members
          | none =>
              match commonParts all with
              | [] => fork all
              | shared =>
                  let tails := all.map fun branch => chain (branch.parts.drop shared.length)
                  sequenceAll (shared ++ [choiceWithin steps tails])

/-- The patterns of a list as alternatives, the first one preferred. -/
def choiceAll (patterns : List Pattern) : Pattern :=
  choiceWithin ((patterns.map size).foldl (· + ·) 0) patterns

/-- A repetition; more than one round of a pattern that only matches the empty text is no use, and
no round at all is the empty pattern. -/
def repeated (inner : Pattern) (least : Nat) (most : Option Nat) (greedy : Bool) : Pattern :=
  let bounded := inner.onlyEmpty
  let least := if bounded then min least 1 else least
  let most := if bounded then some (min (most.getD 1) 1) else most
  if least = 0 ∧ most = some 0 then empty
  else if least = 1 ∧ most = some 1 then inner
  else repetition inner least most greedy

end Pattern

end ScreenSight.Regex
