import ScreenSight.Regex.Footprint
import ScreenSight.Regex.Landmark

/-!
# Reading regular expressions

The written form has literals, escapes, bracketed classes with set operations, anchors, groups,
alternatives and counted repetitions.  Flags such as `(?i)` act up to the end of the group they
stand in, and are resolved while reading.  A text that is not well formed has no reading; there are
no lookaround assertions, no backreferences and no Unicode property classes.

Loops that skip over layout carry a number of steps, which is never smaller than the number of
characters left.
-/

namespace ScreenSight.Regex

/-- The flags in force at a place of an expression, which are written `i`, `m`, `s`, `U`, `u`, `R`
and `x` in this order. -/
structure Flags where
  ignoreCase : Bool := false
  multiLine : Bool := false
  dotAll : Bool := false
  swapGreed : Bool := false
  unicode : Bool := true
  crlf : Bool := false
  spaced : Bool := false

/-- The single item that an escape or a plain character stands for. -/
inductive Atom where
  /-- A character; `byte` if it was written as two hexadecimal digits. -/
  | literal (c : Char) (byte : Bool)
  | named (name : NamedClass) (negated : Bool)
  | check (assertion : Assertion)

/-- Greatest nesting depth of an expression. -/
def nestingLimit : Nat := 250

/-- Skip white space and comments that run to the end of their line. -/
def skipLayout : Bool → List Char → List Char
  | _, [] => []
  | true, c :: rest => skipLayout (c != '\n') rest
  | false, c :: rest =>
      if Text.isBlank c then skipLayout false rest
      else if c == '#' then skipLayout true rest
      else c :: rest

/-- Skip layout where the flags allow it. -/
def Flags.skip (flags : Flags) (rest : List Char) : List Char :=
  if flags.spaced then skipLayout false rest else rest

/-- The next character after the current one, past white space and at most one `#`. -/
def Flags.peek (flags : Flags) : List Char → Option Char
  | [] => none
  | _ :: rest =>
      if flags.spaced then
        let plain := rest.dropWhile Text.isBlank
        match plain with
        | '#' :: comment => (comment.dropWhile Text.isBlank).head?.or rest.head?
        | c :: _ => some c
        | [] => rest.head?
      else rest.head?

/-- Whether a character has a meaning of its own, so that a backslash makes it plain. -/
def isMeta (c : Char) : Bool :=
  "\\.+*?()|[]\x7b\x7d^$#&-~".contains c

/-- Whether a backslash before a character is allowed and has no effect. -/
def isEscapable (c : Char) : Bool :=
  isMeta c || (c.toNat < 0x80 && !c.isAlphanum && c != '<' && c != '>')

/-- The value of a hexadecimal digit. -/
def hexValue? (c : Char) : Option Nat :=
  if c.isDigit then some (c.toNat - '0'.toNat)
  else if 'a' ≤ c && c ≤ 'f' then some (c.toNat - 'a'.toNat + 10)
  else if 'A' ≤ c && c ≤ 'F' then some (c.toNat - 'A'.toNat + 10)
  else none

/-- The character of a code point that is a Unicode scalar value. -/
def scalar? (code : Nat) : Option Char :=
  if code.isValidChar then some (Char.ofNat code) else none

/-- Read a fixed number of hexadecimal digits. -/
def readHexDigits (flags : Flags) : Nat → Nat → List Char → Option (Nat × List Char)
  | 0, value, rest => some (value, rest)
  | _ + 1, _, [] => none
  | count + 1, value, c :: rest =>
      match hexValue? c with
      | some digit => readHexDigits flags count (value * 16 + digit) (flags.skip rest)
      | none => none

/-- Read hexadecimal digits up to a closing brace; there must be one. -/
def readHexBraced (flags : Flags) : Nat → Option Nat → List Char → Option (Nat × List Char)
  | 0, _, _ => none
  | _ + 1, _, [] => none
  | steps + 1, value, c :: rest =>
      if c == '\x7d' then value.map fun code => (code, flags.skip rest)
      else
        match hexValue? c with
        | some digit =>
            readHexBraced flags steps (some (value.getD 0 * 16 + digit)) (flags.skip rest)
        | none => none

/-- Read the digits of a hexadecimal escape with `count` digits, or with any number in braces. -/
def readHex (flags : Flags) (count : Nat) (text : List Char) : Option (Atom × List Char) :=
  match flags.skip text with
  | '\x7b' :: rest => do
      let (code, rest) ← readHexBraced flags (rest.length + 1) none (flags.skip rest)
      let c ← scalar? code
      return (.literal c false, rest)
  | digits => do
      let (code, rest) ← readHexDigits flags count 0 digits
      let c ← scalar? code
      return (.literal c (count == 2), rest)

/-- Read the name of a special word boundary up to its closing brace. -/
def readBoundaryName (flags : Flags) : Nat → List Char → List Char → Option (String × List Char)
  | 0, _, _ => none
  | _ + 1, _, [] => none
  | steps + 1, name, c :: rest =>
      if c.isAlpha || c == '-' then readBoundaryName flags steps (c :: name) (flags.skip rest)
      else if c == '\x7d' then some (String.ofList name.reverse, rest)
      else none

/-- Read what follows `\b`: a special boundary in braces, or nothing.  Braces that do not begin with
a name are left for a counted repetition. -/
def readBoundary (flags : Flags) (text : List Char) : Option (Atom × List Char) :=
  let plain := some (.check (.wordBoundary flags.unicode), text)
  match text with
  | '\x7b' :: inside =>
      match flags.skip inside with
      | [] => none
      | c :: rest =>
          if c.isAlpha || c == '-' then do
            let (name, rest) ← readBoundaryName flags (rest.length + 2) [] (c :: rest)
            match name with
            | "start" => return (.check (.wordStart flags.unicode), rest)
            | "end" => return (.check (.wordEnd flags.unicode), rest)
            | "start-half" => return (.check (.wordStartHalf flags.unicode), rest)
            | "end-half" => return (.check (.wordEndHalf flags.unicode), rest)
            | _ => none
          else plain
  | _ => plain

/-- Read an escape, from behind its backslash. -/
def readEscape (flags : Flags) : List Char → Option (Atom × List Char)
  | [] => none
  | c :: rest =>
      let plain (c : Char) : Option (Atom × List Char) := some (.literal c false, rest)
      if isEscapable c then plain c
      else
        match c with
        | 'x' => readHex flags 2 rest
        | 'u' => readHex flags 4 rest
        | 'U' => readHex flags 8 rest
        | 'd' => some (.named .digit false, rest)
        | 'D' => some (.named .digit true, rest)
        | 's' => some (.named .blank false, rest)
        | 'S' => some (.named .blank true, rest)
        | 'w' => some (.named .word false, rest)
        | 'W' => some (.named .word true, rest)
        | 'a' => plain '\x07'
        | 'f' => plain '\x0c'
        | 't' => plain '\t'
        | 'n' => plain '\n'
        | 'r' => plain '\r'
        | 'v' => plain '\x0b'
        | 'A' => some (.check .textStart, rest)
        | 'z' => some (.check .textEnd, rest)
        | 'b' => readBoundary flags rest
        | 'B' => some (.check (.notWordBoundary flags.unicode), rest)
        | '<' => some (.check (.wordStart flags.unicode), rest)
        | '>' => some (.check (.wordEnd flags.unicode), rest)
        | _ => none

/-! ## Classes -/

/-- The class with the case variants that the flags ask for. -/
def Flags.fold (flags : Flags) (members : CharClass) : CharClass :=
  if flags.ignoreCase then if flags.unicode then members.fold else members.foldAscii else members

/-- The class of a character with the case variants that the flags ask for. -/
def Flags.variants (flags : Flags) (c : Char) : CharClass :=
  if flags.ignoreCase && flags.unicode then
    .ofSpans ((Text.caseVariants c.toNat).map fun code => ⟨code, code⟩)
  else flags.fold (.single c)

/-- The complement of a class; without Unicode it would hold bytes that are no characters. -/
def Flags.negate? (flags : Flags) (negated : Bool) (members : CharClass) : Option CharClass :=
  if !negated then some members
  else if flags.unicode then some members.complement
  else none

def Flags.namedClass? (flags : Flags) (name : NamedClass) (negated : Bool) : Option CharClass :=
  flags.negate? negated (name.members flags.unicode)

/-- The code point of a literal in a class; without Unicode it must be ASCII. -/
def Flags.member? (flags : Flags) : Atom → Option Nat
  | .literal c _ => if flags.unicode || c.toNat < 0x80 then some c.toNat else none
  | _ => none

/-- The set operations in brackets. -/
inductive SetOperation where
  | intersection
  | difference
  | symmetricDifference

def SetOperation.apply : SetOperation → CharClass → CharClass → CharClass
  | .intersection => .intersection
  | .difference => .difference
  | .symmetricDifference => .symmetricDifference

/-- A class being read, with its nesting depth. -/
structure ClassPart where
  members : CharClass
  depth : Nat

/-- The items of a union of classes, last one first. -/
abbrev ClassItems := List ClassPart

def unite : ClassItems → ClassPart
  | [] => ⟨.empty, 0⟩
  | [only] => only
  | items =>
      ⟨CharClass.unionAll (items.reverse.map (·.members)),
        (items.map (·.depth)).foldl max 0 + 1⟩

/-- What stands on the left of the union being read, joined to it. -/
def combine (flags : Flags) (pending : Option (SetOperation × ClassPart)) (right : ClassPart) :
    ClassPart :=
  match pending with
  | none => right
  | some (operation, left) =>
      ⟨operation.apply (flags.fold left.members) (flags.fold right.members),
        max left.depth right.depth + 1⟩

/-- Read an ASCII class such as `[:alpha:]`, from behind its first bracket. -/
def readAsciiClass (flags : Flags) : List Char → Option (Option CharClass × List Char)
  | ':' :: text =>
      let negated := text.head? == some '^'
      let inside := if negated then text.drop 1 else text
      let name := inside.takeWhile (· != ':')
      match inside.dropWhile (· != ':') with
      | ':' :: ']' :: rest =>
          (CharClass.ofAsciiName? (String.ofList name)).map fun members =>
            (flags.negate? negated (flags.fold members), rest)
      | _ => none
  | _ => none

/-- Read the leading hyphens of a class, and a closing bracket that comes first. -/
def readClassStart (flags : Flags) : Nat → ClassItems → List Char → Option (ClassItems × List Char)
  | 0, _, _ => none
  | _ + 1, _, [] => none
  | steps + 1, items, c :: rest =>
      if c == '-' then
        match flags.skip rest with
        | [] => none
        | after => readClassStart flags steps (⟨.single '-', 0⟩ :: items) after
      else if c == ']' && items.isEmpty then
        match flags.skip rest with
        | [] => none
        | after => some ([⟨.single ']', 0⟩], after)
      else some (items, c :: rest)

/-- Read one plain or escaped item of a class. -/
def readClassAtom (flags : Flags) : List Char → Option (Atom × List Char)
  | [] => none
  | '\\' :: rest => readEscape flags rest
  | c :: rest => some (.literal c false, rest)

def readClassItem (flags : Flags) (text : List Char) : Option (ClassPart × List Char) := do
  let (first, rest) ← readClassAtom flags text
  let rest := flags.skip rest
  let next ← rest.head?
  if next != '-' || flags.peek rest == some ']' || flags.peek rest == some '-' then
    match first with
    | .named name negated =>
        let members ← flags.namedClass? name negated
        return (⟨members, 0⟩, rest)
    | atom =>
        let code ← flags.member? atom
        return (⟨.span code code, 0⟩, rest)
  else
    let (second, rest) ← readClassAtom flags (flags.skip (rest.drop 1))
    let low ← flags.member? first
    let high ← flags.member? second
    if low ≤ high then return (⟨.span low high, 0⟩, rest) else none

/-- Read a bracketed class, from behind its first bracket. -/
def readClass (flags : Flags) : Nat → List Char → Option (ClassPart × List Char)
  | 0, _ => none
  | steps + 1, text => do
      let text := flags.skip text
      let negated := text.head? == some '^'
      let text := if negated then flags.skip (text.drop 1) else text
      let (items, text) ← readClassStart flags (text.length + 1) [] text
      let (inner, rest) ← readClassBody flags steps none items text
      let members ← flags.negate? negated (flags.fold inner.members)
      return (⟨members, inner.depth + 1⟩, rest)
where
  /-- Read the items of a class up to its closing bracket. -/
  readClassBody (flags : Flags) : Nat → Option (SetOperation × ClassPart) → ClassItems →
      List Char → Option (ClassPart × List Char)
    | 0, _, _, _ => none
    | steps + 1, pending, items, text =>
        let operate (operation : SetOperation) (rest : List Char) :=
          readClassBody flags steps (some (operation, combine flags pending (unite items))) [] rest
        match flags.skip text with
        | [] => none
        | '[' :: rest =>
            match readAsciiClass flags rest with
            | some (some members, rest) =>
                readClassBody flags steps pending (⟨members, 0⟩ :: items) rest
            | some (none, _) => none
            | none => do
                let (inner, rest) ← readClass flags steps rest
                readClassBody flags steps pending (inner :: items) rest
        | ']' :: rest => some (combine flags pending (unite items), rest)
        | '&' :: '&' :: rest => operate .intersection rest
        | '-' :: '-' :: rest => operate .difference rest
        | '~' :: '~' :: rest => operate .symmetricDifference rest
        | other => do
            let (item, rest) ← readClassItem flags other
            readClassBody flags steps pending (item :: items) rest

/-! ## Expressions -/

/-- An item of a concatenation: a pattern with its nesting depth, or flags, which cannot be
repeated. -/
inductive Piece where
  | directive
  | item (pattern : Pattern) (depth : Nat)

/-- The concatenation being read and the alternatives before it, each list last one first. -/
structure Level where
  pieces : List Piece := []
  branches : List (Pattern × Nat) := []

/-- A group that is still open: what surrounds it, its number if it captures, and the flags that
hold again behind it. -/
structure OpenGroup where
  level : Level
  number : Option Nat
  flags : Flags

/-- The state of reading an expression.  The named groups so far are listed from the last one on. -/
structure Progress where
  flags : Flags := {}
  level : Level := {}
  openGroups : List OpenGroup := []
  groups : Nat := 0
  names : List (String × Nat) := []

def Piece.pattern? : Piece → Option Pattern
  | directive => none
  | item pattern _ => some pattern

def Piece.depth : Piece → Nat
  | directive => 0
  | item _ depth => depth

/-- The concatenation of the pieces read so far. -/
def Level.concatenation (level : Level) : Pattern × Nat :=
  (Pattern.sequenceAll (level.pieces.reverse.filterMap Piece.pattern?),
    match level.pieces with
    | [] => 0
    | [only] => only.depth
    | pieces => (pieces.map Piece.depth).foldl max 0 + 1)

/-- Begin another alternative. -/
def Level.divide (level : Level) : Level :=
  ⟨[], level.concatenation :: level.branches⟩

/-- The pattern of all alternatives. -/
def Level.finish (level : Level) : Pattern × Nat :=
  match level.branches with
  | [] => level.concatenation
  | branches =>
      let all := (level.concatenation :: branches).reverse
      (Pattern.choiceAll (all.map Prod.fst), (all.map Prod.snd).foldl max 0 + 1)

def Progress.push (progress : Progress) (pattern : Pattern) (depth : Nat := 0) : Progress :=
  { progress with
    level := { progress.level with pieces := .item pattern depth :: progress.level.pieces } }

def Progress.repeatLast (progress : Progress) (least : Nat) (most : Option Nat) (lazy : Bool) :
    Option Progress :=
  match progress.level.pieces with
  | .item pattern depth :: before =>
      let greedy := progress.flags.swapGreed == lazy
      some { progress with
        level := { progress.level with
          pieces := .item (pattern.repeated least most greedy) (depth + 1) :: before } }
  | _ => none

/-- The pattern of an item under the flags. -/
def Flags.pattern? (flags : Flags) : Atom → Option Pattern
  | .literal c byte =>
      if byte && !flags.unicode && 0x80 ≤ c.toNat then none
      else some (.ofClass flags.unicode (flags.variants c))
  | .named name negated => (flags.namedClass? name negated).map (.ofClass flags.unicode)
  | .check assertion => some (.check assertion)

/-- The pattern of a dot; without Unicode it would match bytes that are no characters. -/
def Flags.dot? (flags : Flags) : Option Pattern :=
  if !flags.unicode then none
  else if flags.dotAll then some (.oneOf .all true)
  else if flags.crlf then
    some (.oneOf (CharClass.union (.single '\r') (.single '\n')).complement true)
  else some (.oneOf (CharClass.single '\n').complement true)

/-- The assertion of `^`. -/
def Flags.caret (flags : Flags) : Assertion :=
  if !flags.multiLine then .textStart else if flags.crlf then .lineStartCrlf else .lineStart

/-- The assertion of `$`. -/
def Flags.dollar (flags : Flags) : Assertion :=
  if !flags.multiLine then .textEnd else if flags.crlf then .lineEndCrlf else .lineEnd

/-- The flags with one of them set or cleared. -/
def Flags.set? (flags : Flags) (letter : Char) (on : Bool) : Option Flags :=
  match letter with
  | 'i' => some { flags with ignoreCase := on }
  | 'm' => some { flags with multiLine := on }
  | 's' => some { flags with dotAll := on }
  | 'U' => some { flags with swapGreed := on }
  | 'u' => some { flags with unicode := on }
  | 'R' => some { flags with crlf := on }
  | 'x' => some { flags with spaced := on }
  | _ => none

/-- Read the letters of a flag group up to `:` or `)`.  No letter may come twice, and a hyphen,
which clears the flags behind it, must have some behind it.  Answers the flags, whether any letter
came, and the rest from the closing character on. -/
def readFlags (flags : Flags) (seen : List Char) : List Char → Option (Flags × Bool × List Char)
  | [] => none
  | c :: rest =>
      if c == ':' || c == ')' then
        if seen.head? == some '-' then none else some (flags, !seen.isEmpty, c :: rest)
      else if seen.contains c then none
      else if c == '-' then readFlags flags (c :: seen) rest
      else
        match flags.set? c (!seen.contains '-') with
        | some changed => readFlags changed (c :: seen) rest
        | none => none

/-- Whether a text may name a group. -/
def isGroupName : List Char → Bool
  | [] => false
  | first :: rest =>
      (first == '_' || Text.isLetter first) &&
        rest.all fun c => c == '_' || c == '.' || c == '[' || c == ']' || Text.isAlphanumeric c

def Progress.enter (progress : Progress) (number : Option Nat) (flags : Flags) : Progress :=
  { progress with
    flags := flags
    level := {}
    openGroups := ⟨progress.level, number, progress.flags⟩ :: progress.openGroups }

def Progress.enterCapture (progress : Progress) : Progress :=
  { progress.enter (some (progress.groups + 1)) progress.flags with
    groups := progress.groups + 1 }

/-- Enter a named group, from the start of its name. -/
def Progress.enterNamed (progress : Progress) (text : List Char) :
    Option (Progress × List Char) :=
  let name := text.takeWhile (· != '>')
  let written := String.ofList name
  match text.dropWhile (· != '>') with
  | _ :: rest =>
      if isGroupName name && !(progress.names.any fun entry => entry.1 == written) then
        some ({ progress.enterCapture with
          names := (written, progress.groups + 1) :: progress.names }, rest)
      else none
  | [] => none

/-- Enter a group or set flags, from behind the opening parenthesis. -/
def Progress.readGroup (progress : Progress) (text : List Char) : Option (Progress × List Char) :=
  match progress.flags.skip text with
  | '?' :: '=' :: _ => none
  | '?' :: '!' :: _ => none
  | '?' :: '<' :: '=' :: _ => none
  | '?' :: '<' :: '!' :: _ => none
  | '?' :: 'P' :: '<' :: rest => progress.enterNamed rest
  | '?' :: '<' :: rest => progress.enterNamed rest
  | '?' :: rest => do
      let (flags, any, rest) ← readFlags progress.flags [] rest
      if rest.head? == some ':' then
        return (progress.enter none flags, rest.drop 1)
      else if any then
        return ({ progress with
          flags := flags
          level := { progress.level with pieces := .directive :: progress.level.pieces } },
          rest.drop 1)
      else none
  | rest => some (progress.enterCapture, rest)

/-- Leave the innermost group. -/
def Progress.leave (progress : Progress) : Option Progress :=
  match progress.openGroups with
  | [] => none
  | group :: outer =>
      let (inner, depth) := progress.level.finish
      let pattern := match group.number with
        | some number => .capture number inner
        | none => inner
      some ({ progress with
        flags := group.flags, level := group.level, openGroups := outer }.push pattern (depth + 1))

/-- Read decimal digits with layout between them. -/
def readDigits (flags : Flags) : Nat → Option Nat → List Char → Option Nat × List Char
  | steps + 1, value, c :: rest =>
      if c.isDigit then
        readDigits flags steps (some (value.getD 0 * 10 + (c.toNat - '0'.toNat))) (flags.skip rest)
      else (value, c :: rest)
  | _, value, rest => (value, rest)

/-- Skip white space, and layout behind each piece of it. -/
def skipBlanks (flags : Flags) : Nat → List Char → List Char
  | steps + 1, c :: rest =>
      if Text.isBlank c then skipBlanks flags steps (flags.skip rest) else c :: rest
  | _, rest => rest

/-- Read a bound of a counted repetition: `none` inside if there are no digits. -/
def readCount (flags : Flags) (text : List Char) : Option (Option Nat × List Char) :=
  let (value, rest) := readDigits flags text.length none (text.dropWhile Text.isBlank)
  let rest := skipBlanks flags rest.length rest
  match value with
  | some count => if count < 0x100000000 then some (some count, rest) else none
  | none => some (none, rest)

/-- Read a counted repetition, from behind its opening brace. -/
def Progress.readCounted (progress : Progress) (text : List Char) :
    Option (Progress × List Char) := do
  let flags := progress.flags
  let (least, rest) ← readCount flags (flags.skip text)
  let least ← least
  let (most, rest) ←
    match rest with
    | ',' :: rest =>
        match flags.skip rest with
        | '\x7d' :: after => some (none, '\x7d' :: after)
        | rest =>
            match readCount flags rest with
            | some (some most, rest) => some (some most, rest)
            | _ => none
    | rest => some (some least, rest)
  match rest with
  | '\x7d' :: rest =>
      let rest := flags.skip rest
      let lazy := rest.head? == some '?'
      let rest := if lazy then rest.drop 1 else rest
      if least ≤ most.getD least then
        let repeated ← progress.repeatLast least most lazy
        return (repeated, rest)
      else none
  | _ => none

/-- Read one item of an expression, from a text that is not empty and begins with no layout. -/
def Progress.readPiece (progress : Progress) : List Char → Option (Progress × List Char)
  | [] => none
  | c :: rest =>
      let uncounted (least : Nat) (most : Option Nat) : Option (Progress × List Char) :=
        let lazy := rest.head? == some '?'
        (progress.repeatLast least most lazy).map fun repeated =>
          (repeated, if lazy then rest.drop 1 else rest)
      match c with
      | '(' => progress.readGroup rest
      | ')' => progress.leave.map fun left => (left, rest)
      | '|' => some ({ progress with level := progress.level.divide }, rest)
      | '[' => do
          let (part, rest) ← readClass progress.flags (2 * rest.length + 2) rest
          return (progress.push (.ofClass progress.flags.unicode part.members) part.depth, rest)
      | '?' => uncounted 0 (some 1)
      | '*' => uncounted 0 none
      | '+' => uncounted 1 none
      | '\x7b' => progress.readCounted rest
      | '\\' => do
          let (atom, rest) ← readEscape progress.flags rest
          let pattern ← progress.flags.pattern? atom
          return (progress.push pattern, rest)
      | '.' => progress.flags.dot?.map fun pattern => (progress.push pattern, rest)
      | '^' => some (progress.push (.check progress.flags.caret), rest)
      | '$' => some (progress.push (.check progress.flags.dollar), rest)
      | c =>
          (progress.flags.pattern? (.literal c false)).map fun pattern =>
            (progress.push pattern, rest)

/-- Read the items of an expression to its end. -/
def Progress.readAll : Nat → Progress → List Char → Option Progress
  | 0, _, _ => none
  | steps + 1, progress, text =>
      match progress.flags.skip text with
      | [] => if progress.openGroups.isEmpty then some progress else none
      | text => do
          let (progress, rest) ← progress.readPiece text
          progress.readAll steps rest

/-- What a written expression means: its pattern, the number of its groups and their names. -/
structure Reading where
  pattern : Pattern
  groups : Nat
  names : List (String × Nat)

/-- A pattern as it is searched for, if it is not too large.  A list of words is never too large. -/
def Pattern.searchable? (pattern : Pattern) : Option Pattern :=
  if pattern.fits || pattern.isLongList then some pattern
  else pattern.words?.map fun words => .fork (words.map .literal)

/-- Read an expression, if it is well formed and neither nested too deep nor too large. -/
def read? (text : String) : Option Reading := do
  let characters := text.toList
  let progress ← Progress.readAll (characters.length + 1) {} characters
  let (pattern, depth) := progress.level.finish
  guard (depth ≤ nestingLimit)
  let pattern ← pattern.searchable?
  return ⟨pattern, progress.groups, progress.names.reverse⟩

end ScreenSight.Regex
