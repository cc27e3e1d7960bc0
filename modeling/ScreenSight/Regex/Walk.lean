import ScreenSight.Regex.Threads
import ScreenSight.Regex.Utf8

/-!
# Walks

A *walk* reads a text byte by byte from one place on, forward or backward, until no thread is left.
It finds out how far the best match goes, and how much of the text has to be read to know that.
Forward the match is the preferred one; backward it is the longest one.
-/

namespace ScreenSight.Regex

/-- Whether an assertion tells word characters of all scripts from others. -/
def Assertion.isUnicode : Assertion → Bool
  | wordBoundary unicode => unicode
  | notWordBoundary unicode => unicode
  | wordStart unicode => unicode
  | wordEnd unicode => unicode
  | wordStartHalf unicode => unicode
  | wordEndHalf unicode => unicode
  | _ => false

namespace Pattern

/-- Whether a pattern tells word characters of all scripts from others between characters. -/
def asksWords : Pattern → Bool
  | empty => false
  | literal _ => false
  | oneOf _ _ => false
  | check assertion => assertion.isUnicode
  | capture _ inner => inner.asksWords
  | sequence first second => first.asksWords || second.asksWords
  | choice first second => first.asksWords || second.asksWords
  | repetition inner _ _ _ => inner.asksWords

/-- The pattern of the reversed matches, without groups. -/
def backward : Pattern → Pattern
  | empty => empty
  | literal text => literal text.reverse
  | oneOf members unicode => oneOf members unicode
  | check assertion => check assertion
  | capture _ inner => inner.backward
  | sequence first second => sequence second.backward first.backward
  | choice first second => choice first.backward second.backward
  | repetition inner least most greedy => repetition inner.backward least most greedy

end Pattern

/-- Whoever walks.  Assertions that look at single bytes may restrict it to ASCII. -/
structure Walker where
  direction : Direction
  program : Array Instruction
  asciiOnly : Bool

/-- How far a walk has come: the bytes of the match, the bytes that threads have taken, and whether
the end of the text was reached. -/
structure Walk where
  found : Option Nat
  length : Nat
  reachedEnd : Bool

namespace Walker

def ofPattern (direction : Direction) (pattern : Pattern) : Walker :=
  let program :=
    match direction with
    | .forward => pattern.program
    | .backward => (pattern.backward.code 0 ++ [Instruction.accept]).toArray
  ⟨direction, program, pattern.asksWords⟩

/-- The place between the byte that was read last and the next one.  Assertions that can be asked
here take all bytes of other than ASCII characters alike. -/
def place (walker : Walker) (last next : Option UInt8) : Place :=
  let last := last.map fun byte => Char.ofNat byte.toNat
  let next := next.map fun byte => Char.ofNat byte.toNat
  match walker.direction with
  | .forward => ⟨0, last, next⟩
  | .backward => ⟨0, next, last⟩

def accepts (walker : Walker) (thread : Thread) : Bool :=
  match walker.program[thread.address]? with
  | some .accept => true
  | _ => false

/-- The threads that wait for a character at a place, and whether one accepts there.  Forward, an
accepting thread stops those that are less preferred. -/
def gather (walker : Walker) (threads : List Thread) (last next : Option UInt8) :
    List Thread × Bool :=
  let steps := threads.length + 2 * walker.program.size + 1
  let waiting := follow walker.program (walker.place last next) steps threads
    (Array.replicate walker.program.size false) #[]
  let going :=
    match walker.direction with
    | .forward => waiting.takeWhile (!walker.accepts ·)
    | .backward => waiting.filter (!walker.accepts ·)
  (going, waiting.any walker.accepts)

/-- How many bytes are left of a character that a waiting thread takes when some of its bytes have
been read. -/
def left? (walker : Walker) (taken : List UInt8) (thread : Thread) : Option Nat :=
  match walker.program[thread.address]?, taken with
  | some (.take members), [byte] =>
      if byte < 0x80 then if members.holds (Char.ofNat byte.toNat) then some 0 else none
      else among members
  | some (.take members), _ => among members
  | _, _ => none
where
  /-- The same for the characters of a class. -/
  among (members : CharClass) : Option Nat :=
    (ByteBlock.ofClass members).findSome? fun block =>
      ByteBlock.left? (walker.direction.order block) taken

/-- Read on with some threads.  They wait within a character of which `taken` are the bytes read, or
between characters if there are none.  The walk is given up if it reads a byte that it must not, or
if it comes to its bound while threads are left. -/
def read? (walker : Walker) (bound : Option Nat) (length : Nat) (threads : List Thread)
    (taken : List UInt8) (last : Option UInt8) (found : Option Nat) :
    List UInt8 → Option Walk
  | [] =>
      let accepted := taken.isEmpty && (walker.gather threads last none).2
      some ⟨if accepted then some length else found, length, true⟩
  | byte :: rest =>
      let (waiting, accepted) :=
        if taken.isEmpty then walker.gather threads last (some byte) else (threads, false)
      let found := if accepted then some length else found
      let taken := taken ++ [byte]
      let kept := waiting.filterMap fun thread =>
        (walker.left? taken thread).map fun left => (thread, left)
      let through := kept.filter fun (_, left) => left = 0
      if walker.asciiOnly && 0x80 ≤ byte then none
      else if kept.isEmpty && !accepted then some ⟨found, length, false⟩
      else if !rest.isEmpty && bound.any (· ≤ length + 1) then none
      else if kept.isEmpty || !through.isEmpty then
        let threads := through.map fun (thread, _) => { thread with address := thread.address + 1 }
        walker.read? bound (length + 1) threads [] (some byte) found rest
      else
        walker.read? bound (length + 1) (kept.map (·.1)) taken (some byte) found rest

/-- Walk from a place on.  The byte on its other side is looked at too. -/
def walk? (walker : Walker) (bound : Option Nat) (last : Option UInt8) (text : List UInt8) :
    Option Walk :=
  if walker.asciiOnly && last.any (0x80 ≤ ·) then none
  else walker.read? bound 0 [⟨0, #[]⟩] [] last none text

end Walker

end ScreenSight.Regex
