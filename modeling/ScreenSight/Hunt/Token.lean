/-!
# Tokens of hunt sources

A hunt source consists of punctuation marks, keywords, quoted texts, identifiers and numbers.  Each
token knows the text it was read from and where that begins, counted in bytes of UTF-8.
-/

namespace ScreenSight.Hunt

/-- The kinds of tokens. -/
inductive TokenKind where
  | less
  | greater
  | leftBracket
  | rightBracket
  | leftBrace
  | rightBrace
  | leftParenthesis
  | rightParenthesis
  | colon
  | equals
  | comma
  | star
  | hunt
  | init
  | gather
  | exec
  | param
  | val
  /-- A text in double or single quotes. -/
  | quoted
  | identifier
  | number
  deriving DecidableEq, Inhabited

namespace TokenKind

/-- How messages name a kind. -/
def describe : TokenKind → String
  | less => "`<`"
  | greater => "`>`"
  | leftBracket => "`[`"
  | rightBracket => "`]`"
  | leftBrace => "`\x7b`"
  | rightBrace => "`\x7d`"
  | leftParenthesis => "`(`"
  | rightParenthesis => "`)`"
  | colon => "`:`"
  | equals => "`=`"
  | comma => "`,`"
  | star => "`*`"
  | hunt => "`hunt`"
  | init => "`INIT`"
  | gather => "`GATHER`"
  | exec => "`EXEC`"
  | param => "`param`"
  | val => "`val`"
  | quoted => "string"
  | identifier => "identifier"
  | number => "number"

/-- The punctuation mark that a character is. -/
def ofMark? : Char → Option TokenKind
  | '<' => some less
  | '>' => some greater
  | '[' => some leftBracket
  | ']' => some rightBracket
  | '{' => some leftBrace
  | '}' => some rightBrace
  | '(' => some leftParenthesis
  | ')' => some rightParenthesis
  | ':' => some colon
  | '=' => some equals
  | ',' => some comma
  | '*' => some star
  | _ => none

/-- The kind of a word: a keyword, or else an identifier. -/
def ofWord : String → TokenKind
  | "hunt" => hunt
  | "INIT" => init
  | "GATHER" => gather
  | "EXEC" => exec
  | "param" => param
  | "val" => val
  | _ => identifier

end TokenKind

/-- A token of a source, with the offset of its first byte. -/
structure Token where
  kind : TokenKind
  text : String
  start : Nat
  deriving DecidableEq, Inhabited

/-- Replace the escapes of a quoted text.  A backslash before a quote or another backslash stands
for that character, `\n` and `\t` for a line feed and a tab; before any other character the
backslash stays, so regular expressions need not double theirs. -/
def resolveEscapes : List Char → List Char
  | '\\' :: c :: rest =>
      match c with
      | '"' | '\'' | '\\' => c :: resolveEscapes rest
      | 'n' => '\n' :: resolveEscapes rest
      | 't' => '\t' :: resolveEscapes rest
      | other => '\\' :: other :: resolveEscapes rest
  | c :: rest => c :: resolveEscapes rest
  | [] => []

/-- The content of a quoted text. -/
def unquote (text : String) : String :=
  String.ofList (resolveEscapes (text.toList.drop 1).dropLast)

namespace Token

/-- The offset behind the last byte of a token. -/
def stop (token : Token) : Nat :=
  token.start + token.text.utf8ByteSize

/-- The content of a token that can be a value. -/
def value? (token : Token) : Option String :=
  match token.kind with
  | .quoted => some (unquote token.text)
  | .identifier | .number | .star => some token.text
  | _ => none

end Token

end ScreenSight.Hunt
