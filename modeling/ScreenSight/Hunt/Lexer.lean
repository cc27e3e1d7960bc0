import ScreenSight.Hunt.Token

/-!
# Reading tokens

A source is cut into tokens from its beginning, each as long as its class allows.  No two classes
but keywords and identifiers begin with the same character, so the first character decides, and a
word is a keyword only as a whole.  White space and comments, which run to the end of their line,
separate tokens and are dropped.
-/

namespace ScreenSight.Hunt

/-- A token at the beginning of a text, with what follows it. -/
structure Lexeme (text : List Char) where
  kind : TokenKind
  characters : List Char
  rest : List Char
  characters_ne_nil : characters ≠ []
  characters_append_rest : characters ++ rest = text

namespace Lexeme

theorem length_rest_lt {text : List Char} (lexeme : Lexeme text) :
    lexeme.rest.length < text.length := by
  have size := congrArg List.length lexeme.characters_append_rest
  have positive := List.length_pos_iff.mpr lexeme.characters_ne_nil
  rw [List.length_append] at size
  omega

end Lexeme

/-- Whether a word can begin with a character. -/
def startsWord (c : Char) : Bool :=
  c.isAlpha || c == '_'

/-- Whether a word can go on with a character. -/
def continuesWord (c : Char) : Bool :=
  c.isAlphanum || c == '_' || c == '-' || c == '.'

/-- The word that begins with a character. -/
def wordLexeme (first : Char) (text : List Char) : Lexeme (first :: text) :=
  { kind := TokenKind.ofWord (String.ofList (first :: text.takeWhile continuesWord))
    characters := first :: text.takeWhile continuesWord
    rest := text.dropWhile continuesWord
    characters_ne_nil := List.cons_ne_nil _ _
    characters_append_rest := by
      rw [List.cons_append, List.takeWhile_append_dropWhile] }

/-- The length of the digits at the beginning of a text. -/
def digitCount (text : List Char) : Nat :=
  (text.takeWhile Char.isDigit).length

/-- The length of the fraction at the beginning of a text: a point and at least one digit. -/
def fractionCount : List Char → Nat
  | '.' :: rest => if digitCount rest = 0 then 0 else digitCount rest + 1
  | _ => 0

/-- The length of the number at the beginning of a text: an optional sign, digits, and an optional
fraction. -/
def numberCount (text : List Char) : Nat :=
  let sign := if text.head? = some '-' then 1 else 0
  let digits := digitCount (text.drop sign)
  if digits = 0 then 0
  else sign + digits + fractionCount (text.drop (sign + digits))

/-- The length of a quoted text behind its opening quote, with the closing one, if it is closed.  A
backslash takes the next character with it, which must not be a line feed. -/
def quotedCount? (quote : Char) : List Char → Option Nat
  | [] => none
  | '\\' :: rest =>
      match rest with
      | [] => none
      | c :: rest => if c = '\n' then none else (quotedCount? quote rest).map (· + 2)
  | c :: rest => if c = quote then some 1 else (quotedCount? quote rest).map (· + 1)

/-- The token of the first characters of a text, how many there are. -/
def firstLexeme? (kind : TokenKind) (count : Nat) (text : List Char) : Option (Lexeme text) :=
  if present : text.take count ≠ [] then
    some ⟨kind, text.take count, text.drop count, present, List.take_append_drop count text⟩
  else none

/-- The token at the beginning of a text. -/
def lexeme? : (text : List Char) → Option (Lexeme text)
  | [] => none
  | c :: rest =>
      match TokenKind.ofMark? c with
      | some kind => firstLexeme? kind 1 (c :: rest)
      | none =>
          if startsWord c then some (wordLexeme c rest)
          else if c = '"' ∨ c = '\'' then
            match quotedCount? c rest with
            | some count => firstLexeme? .quoted (count + 1) (c :: rest)
            | none => none
          else firstLexeme? .number (numberCount (c :: rest)) (c :: rest)

/-- Why a text does not consist of tokens: no token begins at the offset of a character, in bytes.
-/
structure StrayCharacter where
  offset : Nat
  character : Char
  deriving DecidableEq, Inhabited

/-- The text of the problem.  A quote that begins no token has no closing one. -/
def StrayCharacter.message (stray : StrayCharacter) : String :=
  if stray.character = '"' ∨ stray.character = '\'' then "unterminated string"
  else s!"unexpected character `{stray.character}`"

/-- Whether a character is dropped between tokens. -/
def isLayout (c : Char) : Bool :=
  c == ' ' || c == '\t' || c == '\r' || c == '\n' || c == '\x0c'

/-- The number of bytes that a text takes in UTF-8. -/
def byteSize : List Char → Nat
  | [] => 0
  | c :: rest => c.utf8Size + byteSize rest

/-- The length of the separator at the beginning of a text: white space or a comment. -/
def separatorCount : List Char → Nat
  | [] => 0
  | c :: rest =>
      if c == '#' then (rest.takeWhile (· != '\n')).length + 1
      else ((c :: rest).takeWhile isLayout).length

def tokensFrom (offset : Nat) (text : List Char) : Except StrayCharacter (List Token) :=
  match text with
  | [] => .ok []
  | first :: following =>
      if _separated : separatorCount (first :: following) ≠ 0 then
        let count := separatorCount (first :: following)
        tokensFrom (offset + byteSize ((first :: following).take count))
          ((first :: following).drop count)
      else
        match lexeme? (first :: following) with
        | none => .error ⟨offset, first⟩
        | some lexeme =>
            have _shorter := lexeme.length_rest_lt
            match tokensFrom (offset + byteSize lexeme.characters) lexeme.rest with
            | .ok tokens =>
                .ok (⟨lexeme.kind, String.ofList lexeme.characters, offset⟩ :: tokens)
            | .error stray => .error stray
termination_by text.length
decreasing_by
  · rw [List.length_drop, List.length_cons]
    omega
  · exact _shorter

def tokens (source : String) : Except StrayCharacter (List Token) :=
  tokensFrom 0 source.toList

end ScreenSight.Hunt
