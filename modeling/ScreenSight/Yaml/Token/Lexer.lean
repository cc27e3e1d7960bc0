import ScreenSight.Yaml.Token
import ScreenSight.Yaml.Token.Scalar

/-!
# Reading YAML tokens

Tokens are read from left to right.  A key of a mapping is only recognised by the colon behind it,
so every token that may turn out to begin a key is remembered together with its place among the
tokens.  Keys that are recognised in this way stand on one line and are short.

Anchors, tags, directives and block scalars are refused.
-/

namespace ScreenSight.Yaml

/-- A token that begins a key if a colon follows, and where nothing else may stand if that is
required. Its position is the number of tokens before it. -/
structure PotentialKey where
  place : Place
  required : Bool
  position : Nat

/-- Greatest number of characters of a key before its colon. -/
def keyLimit : Nat := 1024

/-- The state of reading tokens, which are listed from the last one on.  The columns of the open
block collections and the potential keys of what surrounds the innermost flow collection are listed
from the innermost on. -/
structure Lexer where
  place : Place
  rest : List Char
  tokens : List Token
  indents : List Nat
  key : Option PotentialKey
  outerKeys : List (Option PotentialKey)
  keyAllowed : Bool

namespace Lexer

/-- The state before a text. -/
def start (text : List Char) : Lexer :=
  ⟨⟨0, 0, 0⟩, text, [], [], none, [], true⟩

/-- Whether the current place is in a flow collection. -/
def inFlow (lexer : Lexer) : Bool :=
  !lexer.outerKeys.isEmpty

/-- The least column of lines that continue a scalar. -/
def scalarIndent (lexer : Lexer) : Nat :=
  match lexer.indents with
  | [] => 0
  | indent :: _ => indent + 1

/-! ## Potential keys -/

/-- A key as it stands when reading has come to a place: forgotten if it is on an earlier line or
too long, which a required key must not be. -/
def refreshKey? (place : Place) : Option PotentialKey → Option (Option PotentialKey)
  | none => some none
  | some key =>
      if key.place.line < place.line ∨ key.place.index + keyLimit < place.index then
        if key.required then none else some none
      else some (some key)

/-- Forget the keys that the current place rules out. -/
def refreshKeys? (lexer : Lexer) : Option Lexer := do
  let key ← refreshKey? lexer.place lexer.key
  let outerKeys ← lexer.outerKeys.mapM (refreshKey? lexer.place)
  return { lexer with key := key, outerKeys := outerKeys }

/-- Forget the current key, which must not be required. -/
def dropKey? (lexer : Lexer) : Option Lexer :=
  if lexer.key.any (·.required) then none else some { lexer with key := none }

/-- Remember that a key may begin with the next token. -/
def saveKey? (lexer : Lexer) : Option Lexer :=
  if lexer.keyAllowed then do
    let required := !lexer.inFlow && lexer.indents.head? == some lexer.place.column
    let lexer ← lexer.dropKey?
    return { lexer with key := some ⟨lexer.place, required, lexer.tokens.length⟩ }
  else some lexer

/-! ## Tokens -/

/-- Append a token that is made of the next characters. -/
def emit (lexer : Lexer) (token : Token) (length : Nat) : Lexer :=
  { lexer with
    place := lexer.place.afterAll (lexer.rest.take length)
    rest := lexer.rest.drop length
    tokens := token :: lexer.tokens }

/-- Insert a token behind the first `position` tokens. -/
def insert (lexer : Lexer) (position : Nat) (token : Token) : Lexer :=
  { lexer with tokens := lexer.tokens.insertIdx (lexer.tokens.length - position) token }

/-- Open a block collection at a column, behind the first `position` tokens, unless one that is
indented as far is open. -/
def indent (lexer : Lexer) (column position : Nat) (opening : Token) : Lexer :=
  if lexer.inFlow || !(lexer.indents.head?.all (· < column)) then lexer
  else { lexer.insert position opening with indents := column :: lexer.indents }

/-- Close the block collections that are indented further than a column, or all of them. -/
def dedent (lexer : Lexer) (column : Option Nat) : Lexer :=
  if lexer.inFlow then lexer
  else
    let (closed, kept) := lexer.indents.span fun indent => column.all (· < indent)
    { lexer with
      tokens := closed.map (fun _ => Token.blockEnd) ++ lexer.tokens
      indents := kept }

/-- Skip separators, comments, line breaks, and byte order marks in front of lines, which count as
characters of their lines.  A key may begin on a new line outside of flow collections.  Where a key
may begin there, tabs are no separators. -/
def skipLayout (inFlow : Bool) (place : Place) (keyAllowed inComment : Bool) :
    List Char → Place × Bool × List Char
  | [] => (place, keyAllowed, [])
  | c :: rest =>
      if isBreak c then skipLayout inFlow (place.after c) (keyAllowed || !inFlow) false rest
      else if inComment || c == ' ' || (c == '\t' && (inFlow || !keyAllowed)) ||
          place.isMarkOfOrder c then
        skipLayout inFlow (place.after c) keyAllowed inComment rest
      else if c == '#' then skipLayout inFlow (place.after c) keyAllowed true rest
      else (place, keyAllowed, c :: rest)

/-- Go on to the next token. -/
def advance? (lexer : Lexer) : Option Lexer := do
  let (place, keyAllowed, rest) :=
    skipLayout lexer.inFlow lexer.place lexer.keyAllowed false lexer.rest
  let lexer ← { lexer with place := place, keyAllowed := keyAllowed, rest := rest }.refreshKeys?
  return lexer.dedent (some place.column)

/-- Append a scalar that has been read. -/
def pushScalar (lexer : Lexer) (plain : Bool) (reading : ScalarReading) : Lexer :=
  { lexer with
    place := reading.place
    rest := reading.rest
    tokens := .scalar reading.text plain :: lexer.tokens
    keyAllowed := reading.lineEnded }

/-- Read a mark between documents. -/
def readMark? (lexer : Lexer) (mark : Token) : Option Lexer := do
  let lexer ← (lexer.dedent none).dropKey?
  return { lexer with keyAllowed := false }.emit mark 3

def readOpening? (lexer : Lexer) (bracket : Token) : Option Lexer := do
  let lexer ← lexer.saveKey?
  return { lexer with
    key := none
    outerKeys := lexer.key :: lexer.outerKeys
    keyAllowed := true }.emit bracket 1

def readClosing? (lexer : Lexer) (bracket : Token) : Option Lexer := do
  let lexer ← lexer.dropKey?
  let lexer := match lexer.outerKeys with
    | [] => lexer
    | key :: outerKeys => { lexer with key := key, outerKeys := outerKeys }
  return { lexer with keyAllowed := false }.emit bracket 1

def readComma? (lexer : Lexer) : Option Lexer := do
  let lexer ← lexer.dropKey?
  return { lexer with keyAllowed := true }.emit .comma 1

/-- Read the dash before an item.  Outside of flow collections it stands where a key might. -/
def readEntry? (lexer : Lexer) : Option Lexer := do
  guard (lexer.inFlow || lexer.keyAllowed)
  let lexer ← (lexer.indent lexer.place.column lexer.tokens.length .sequenceStart).dropKey?
  return { lexer with keyAllowed := true }.emit .entry 1

/-- Read the question mark before a key. -/
def readKey? (lexer : Lexer) : Option Lexer := do
  guard (lexer.inFlow || lexer.keyAllowed)
  let lexer ← (lexer.indent lexer.place.column lexer.tokens.length .mappingStart).dropKey?
  return { lexer with keyAllowed := !lexer.inFlow }.emit .key 1

/-- Read the colon before a value.  If a key may have begun before, that is where it has begun. -/
def readValue? (lexer : Lexer) : Option Lexer :=
  match lexer.key with
  | some key =>
      let lexer := lexer.insert key.position .key
      let lexer := lexer.indent key.place.column key.position .mappingStart
      some ({ lexer with key := none, keyAllowed := false }.emit .value 1)
  | none => do
      guard (lexer.inFlow || lexer.keyAllowed)
      let lexer := lexer.indent lexer.place.column lexer.tokens.length .mappingStart
      return { lexer with keyAllowed := !lexer.inFlow }.emit .value 1

def readScalar? (lexer : Lexer) : Option Lexer := do
  let lexer ← lexer.saveKey?
  match lexer.rest with
  | '\'' :: rest =>
      (readQuoted? '\'' (lexer.place.after '\'') [] (.blanks []) rest).map (lexer.pushScalar false)
  | '"' :: rest =>
      (readQuoted? '"' (lexer.place.after '"') [] (.blanks []) rest).map (lexer.pushScalar false)
  | text =>
      if startsPlain lexer.inFlow text then
        (readPlain? lexer.inFlow lexer.scalarIndent lexer.place [] (.blanks []) text).map
          (lexer.pushScalar true)
      else none

def readToken? (lexer : Lexer) : Option Lexer :=
  if lexer.place.column = 0 ∧ startsMark lexer.rest then
    lexer.readMark? (if lexer.rest.head? == some '-' then .documentStart else .documentEnd)
  else
    match lexer.rest with
    | '[' :: _ => lexer.readOpening? .flowSequenceStart
    | '\x7b' :: _ => lexer.readOpening? .flowMappingStart
    | ']' :: _ => lexer.readClosing? .flowSequenceEnd
    | '\x7d' :: _ => lexer.readClosing? .flowMappingEnd
    | ',' :: _ => lexer.readComma?
    | '-' :: rest => if atLayout rest then lexer.readEntry? else lexer.readScalar?
    | '?' :: rest => if lexer.inFlow || atLayout rest then lexer.readKey? else lexer.readScalar?
    | ':' :: rest => if lexer.inFlow || atLayout rest then lexer.readValue? else lexer.readScalar?
    | _ => lexer.readScalar?

/-- Read the tokens up to the end of the text. -/
def readAll? (lexer : Lexer) : Option (List Token) :=
  match lexer.advance? with
  | none => none
  | some ready =>
      if ready.rest.isEmpty then (ready.dedent none).dropKey?.map fun ended => ended.tokens.reverse
      else
        match ready.readToken? with
        | none => none
        | some next => if next.rest.length < lexer.rest.length then next.readAll? else none
termination_by lexer.rest.length

end Lexer

def tokens? (text : List Char) : Option (List Token) :=
  (readable? text).bind fun text => (Lexer.start text).readAll?

end ScreenSight.Yaml
