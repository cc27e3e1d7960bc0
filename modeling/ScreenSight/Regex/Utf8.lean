import ScreenSight.Regex.CharClass

/-!
# The bytes of a class

UTF-8 writes a character in one to four bytes.  The encodings of the characters of a span are a few
*blocks*: in each of them every place has a range of bytes, and all combinations occur.
-/

namespace ScreenSight.Regex

/-- The end from which something is read on. -/
inductive Direction where
  | forward
  | backward
  deriving DecidableEq

namespace Direction

def order {α : Type} (list : List α) : Direction → List α
  | forward => list
  | backward => list.reverse

/-- The bytes of a text in the order of reading. -/
def bytes (text : List Char) (direction : Direction) : List UInt8 :=
  direction.order (text.flatMap String.utf8EncodeChar)

end Direction

/-- Encodings of equal length: a range of bytes for each place. -/
abbrev ByteBlock := List Span

namespace ByteBlock

/-- Number of values of a byte behind the first one. -/
def radix : Nat := 64

/-- The range of all bytes behind the first one. -/
def anyTrailing : Span := ⟨0x80, 0xBF⟩

/-- The blocks of the numbers between two ends, written with a first byte and `places` further ones.
The first byte counts from `mark` on.  The ends are in blocks of their own unless they are ends of a
full block too. -/
def between : (places mark first last : Nat) → List ByteBlock
  | 0, mark, first, last => [[⟨mark + first, mark + last⟩]]
  | places + 1, mark, first, last =>
      let size := Nat.pow radix (places + 1)
      let lead (digit : Nat) (tails : List ByteBlock) : List ByteBlock :=
        tails.map (⟨mark + digit, mark + digit⟩ :: ·)
      let low := first / size
      let high := last / size
      let behind := between places anyTrailing.first
      if low = high then lead low (behind (first % size) (last % size))
      else
        let startsFull := first % size = 0
        let endsFull := last % size = size - 1
        let fullLow := if startsFull then low else low + 1
        let fullEnd := if endsFull then high + 1 else high
        (if startsFull then [] else lead low (behind (first % size) (size - 1))) ++
          (if fullLow < fullEnd then
            [⟨mark + fullLow, mark + fullEnd - 1⟩ :: List.replicate (places + 1) anyTrailing]
          else []) ++
          (if endsFull then [] else lead high (behind 0 (last % size)))

/-- The spans of code points that are written alike: the number of further bytes, the least first
byte, and the ends.  Surrogates are not written. -/
def forms : List (Nat × Nat × Span) :=
  [(0, 0, ⟨0, 0x7F⟩), (1, 0xC0, ⟨0x80, 0x7FF⟩), (2, 0xE0, ⟨0x800, 0xD7FF⟩),
    (2, 0xE0, ⟨0xE000, 0xFFFF⟩), (3, 0xF0, ⟨0x10000, CharClass.lastCode⟩)]

def ofSpan (span : Span) : List ByteBlock :=
  forms.flatMap fun (places, mark, form) =>
    let first := max span.first form.first
    let last := min span.last form.last
    if first ≤ last then between places mark first last else []

/-- The blocks of the characters of a class, in ascending order. -/
def ofClass (members : CharClass) : List ByteBlock :=
  members.spans.flatMap ofSpan

/-- How many bytes are left of an encoding in a block, in the order of reading, behind some bytes
that are in their ranges. -/
def left? : ByteBlock → List UInt8 → Option Nat
  | block, [] => some block.length
  | [], _ :: _ => none
  | range :: ranges, byte :: bytes =>
      if range.first ≤ byte.toNat && byte.toNat ≤ range.last then left? ranges bytes else none

/-- Gather blocks that stand together and begin alike: a beginning with all that follows it. -/
def gather : List ByteBlock → List (Span × List ByteBlock)
  | [] => []
  | [] :: rest => gather rest
  | (head :: tail) :: rest =>
      match gather rest with
      | (next, tails) :: others =>
          if head = next then (head, tail :: tails) :: others
          else (head, [tail]) :: (next, tails) :: others
      | [] => [(head, [tail])]

end ByteBlock

end ScreenSight.Regex
