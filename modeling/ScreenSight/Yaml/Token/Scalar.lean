import ScreenSight.Yaml.Numeral
import ScreenSight.Yaml.Source

/-!
# YAML scalars

A scalar is plain or stands in quotes, and may run over several lines.  Blanks around a line break
are dropped; a single break is read as a blank, and of several in a row all but the first are kept.
-/

namespace ScreenSight.Yaml

/-- What has been read between two words of a scalar. -/
inductive Gap where
  /-- Separators within a line, last one first. -/
  | blanks (written : List Char)
  /-- Line breaks: the first one, unless it is escaped, and the others, last one first. -/
  | breaks (first : Option Char) (others : List Char)

namespace Gap

/-- Whether a line ends in the gap. -/
def isBroken : Gap → Bool
  | blanks _ => false
  | breaks _ _ => true

/-- Whether nothing has been read. -/
def isEmpty : Gap → Bool
  | blanks written => written.isEmpty
  | breaks _ _ => false

/-- The gap with another separator or line break. -/
def extend (gap : Gap) (c : Char) : Gap :=
  match gap with
  | blanks written => if isSpace c then blanks (c :: written) else breaks (some c) []
  | breaks first others => if isSpace c then gap else breaks first (c :: others)

def text : Gap → List Char
  | blanks written => written.reverse
  | breaks (some '\n') [] => [' ']
  | breaks (some '\n') others => others.reverse
  | breaks first others => first.toList ++ others.reverse

end Gap

/-- A scalar that has been read, and what is left behind it. -/
structure ScalarReading where
  text : String
  place : Place
  rest : List Char
  lineEnded : Bool

/-! ## Quoted scalars -/

/-- The character of an escape with one letter. -/
def escaped? (c : Char) : Option Char :=
  match c with
  | '0' => some '\x00'
  | 'a' => some '\x07'
  | 'b' => some '\x08'
  | 't' | '\t' => some '\t'
  | 'n' => some '\n'
  | 'v' => some '\x0b'
  | 'f' => some '\x0c'
  | 'r' => some '\r'
  | 'e' => some '\x1b'
  | ' ' | '"' | '/' | '\\' => some c
  | 'N' => some '\u0085'
  | '_' => some '\u00a0'
  | 'L' => some '\u2028'
  | 'P' => some '\u2029'
  | _ => none

/-- The number of hexadecimal digits behind an escape letter. -/
def escapeDigits (c : Char) : Nat :=
  match c with
  | 'x' => 2
  | 'u' => 4
  | 'U' => 8
  | _ => 0

/-- The character of an escape, from behind its backslash, and the length of the escape without the
backslash. -/
def readEscape? : List Char → Option (Char × Nat)
  | [] => none
  | c :: rest =>
      match escaped? c with
      | some plain => some (plain, 1)
      | none => do
          let count := escapeDigits c
          let digits := rest.take count
          let code ← number? 16 digits
          if digits.length = count ∧ code.isValidChar then some (Char.ofNat code, count + 1)
          else none

/-- Read a quoted scalar from behind its first quote.  The words and the last gap read so far are
given, the words last character first.  No line of the scalar may be a mark between documents. -/
def readQuoted? (quote : Char) (place : Place) (written : List Char) (gap : Gap) :
    List Char → Option ScalarReading
  | [] => none
  | c :: rest =>
      if isLayout c then readQuoted? quote (place.after c) written (gap.extend c) rest
      else if place.column = 0 ∧ startsMark (c :: rest) then none
      else
        let written := gap.text.reverse ++ written
        let place := place.after c
        if c = quote then
          match quote, rest with
          | '\'', '\'' :: rest =>
              readQuoted? quote (place.after '\'') ('\'' :: written) (.blanks []) rest
          | _, _ => some ⟨String.ofList written.reverse, place, rest, false⟩
        else if c = '\\' ∧ quote = '"' then
          match rest with
          | [] => none
          | next :: after =>
              if isBreak next then
                readQuoted? quote (place.after next) written (.breaks none []) after
              else
                match readEscape? (next :: after) with
                | some (plain, length) =>
                    readQuoted? quote (place.afterAll ((next :: after).take length))
                      (plain :: written) (.blanks []) (after.drop (length - 1))
                | none => none
        else readQuoted? quote place (c :: written) (.blanks []) rest
termination_by text => text.length

/-! ## Plain scalars -/

/-- Whether a character has a meaning of its own in flow collections. -/
def isFlowIndicator (c : Char) : Bool :=
  ",[]\x7b\x7d".contains c

/-- Whether a plain scalar may begin with some text. -/
def startsPlain (inFlow : Bool) : List Char → Bool
  | [] => false
  | c :: rest =>
      if c == '-' then !atLayout rest
      else if c == '?' || c == ':' then !inFlow && !atLayout rest
      else !isLayout c && !isFlowIndicator c && !("#&*!|>'\"%@\x60".contains c)

/-- Whether a plain scalar ends before some text: at a colon in front of a separator, and in a flow
collection at an indicator. -/
def endsPlain (inFlow : Bool) : List Char → Bool
  | [] => true
  | c :: rest => (c == ':' && atLayout rest) || (inFlow && isFlowIndicator c)

/-- Whether a text begins with a colon that a flow collection does not allow in a plain scalar. -/
def hasStrayColon : List Char → Bool
  | ':' :: next :: _ => isFlowIndicator next || next == '?'
  | _ => false

/-- Read a plain scalar up to its end.  A block scalar ends before a line that is indented less than
`indent`; a scalar of either kind ends before a mark between documents and before a comment.  Tabs
do not indent. -/
def readPlain? (inFlow : Bool) (indent : Nat) (place : Place) (written : List Char) (gap : Gap) :
    List Char → Option ScalarReading
  | [] => some ⟨String.ofList written.reverse, place, [], gap.isBroken⟩
  | c :: rest =>
      if isLayout c then
        if c = '\t' ∧ gap.isBroken ∧ place.column < indent then none
        else readPlain? inFlow indent (place.after c) written (gap.extend c) rest
      else if (gap.isBroken && !inFlow && decide (place.column < indent)) ||
          (place.column == 0 && startsMark (c :: rest)) || (c == '#' && !gap.isEmpty) then
        some ⟨String.ofList written.reverse, place, c :: rest, gap.isBroken⟩
      else if inFlow && hasStrayColon (c :: rest) then none
      else if endsPlain inFlow (c :: rest) then
        some ⟨String.ofList written.reverse, place, c :: rest, gap.isBroken⟩
      else
        let written := c :: (gap.text.reverse ++ written)
        readPlain? inFlow indent (place.after c) written (.blanks []) rest

end ScreenSight.Yaml
