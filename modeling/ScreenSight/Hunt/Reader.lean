import ScreenSight.Failure
import ScreenSight.Hunt.Block
import ScreenSight.Hunt.Lexer
import ScreenSight.Hunt.Position

/-!
# Reading hunt blocks

A source is written like this:

    <source> ::= <block>+
    <block>  ::= "<" "hunt" <name> ":" "[" "INIT" "GATHER" "=" <param>+ "]" ">" "<" "EXEC" ">"
    <param>  ::= "{" "param" <kind> ":" <target> "=" "(" "val" <value> ("," <value>)* ")" "}"

Nothing nests without bound, so the tokens are read one at a time by an automaton.  Its state says
which fixed tokens have to come next and what is wanted after them, and holds what has been read.  A
token that does not fit is a problem, whatever may follow it.
-/

namespace ScreenSight.Hunt

/-- What has to come next. -/
inductive Expectation where
  | token (kind : TokenKind)
  | value
  deriving DecidableEq, Inhabited

/-- How messages name an expectation. -/
def Expectation.describe : Expectation → String
  | token kind => kind.describe
  | value => "a value"

/-- Why a source cannot be read. -/
inductive SourceProblem where
  /-- It does not consist of tokens. -/
  | stray (character : StrayCharacter)
  /-- It has no tokens. -/
  | empty
  /-- A token, or the end of the source, does not fit. -/
  | unexpected (expected : Expectation) (found : Option Token)
  /-- A param has a kind that does not exist. -/
  | unknownKind (word : Token)
  deriving DecidableEq

namespace SourceProblem

def message : SourceProblem → String
  | stray character => character.message
  | empty => "empty HUNT source"
  | unexpected expected (some found) =>
      s!"expected {expected.describe}, found {found.kind.describe}"
  | unexpected expected none => s!"expected {expected.describe}, found end of input"
  | unknownKind word => s!"unknown param kind `{word.text}` (expected tag, pluck or link)"

def offset (source : String) : SourceProblem → Nat
  | stray character => character.offset
  | empty => 0
  | unexpected _ (some found) => found.start
  | unexpected _ none => source.utf8ByteSize
  | unknownKind word => word.start

end SourceProblem

/-- The failure of a source with a problem at an offset. -/
def malformedAt (source : String) (offset : Nat) (message : String) : Failure :=
  let position := positionAt source offset
  .malformedSource position.line position.column message

/-- What is wanted behind the fixed tokens, with what has been read of the current block. -/
inductive Wanted where
  /-- A block, or the end. -/
  | block
  /-- The name of the block. -/
  | name (start : Nat)
  /-- The first param. -/
  | param (block : Block)
  /-- The kind of a param. -/
  | kind (block : Block) (start : Nat)
  /-- The target of a param. -/
  | target (block : Block) (start : Nat) (kind : ParamKind)
  /-- A value. -/
  | value (block : Block) (param : Param)
  /-- Another value, or the end of the values. -/
  | moreValues (block : Block) (param : Param)
  /-- Another param, or the end of the params. -/
  | moreParams (block : Block)
  deriving Inhabited

/-- The token or value that messages name where something is wanted. -/
def Wanted.expected : Wanted → Expectation
  | block => .token .less
  | name _ => .token .identifier
  | param _ => .token .leftBrace
  | kind _ _ => .token .identifier
  | target _ _ _ => .token .identifier
  | value _ _ => .value
  | moreValues _ _ => .token .rightParenthesis
  | moreParams _ => .token .rightBracket

/-- The state of the automaton: the complete blocks, the fixed tokens that come next, and what is
wanted behind them. -/
structure Reading where
  blocks : List Block := []
  fixed : List TokenKind := []
  wanted : Wanted := .block
  deriving Inhabited

namespace Reading

/-- What has to come next. -/
def expected (reading : Reading) : Expectation :=
  match reading.fixed with
  | kind :: _ => .token kind
  | [] => reading.wanted.expected

/-- Whether the source may end. -/
def isComplete (reading : Reading) : Bool :=
  match reading.fixed, reading.wanted with
  | [], .block => true
  | _, _ => false

/-- Go on to something else that is wanted behind some fixed tokens. -/
def want (reading : Reading) (fixed : List TokenKind) (wanted : Wanted) : Reading :=
  { reading with fixed := fixed, wanted := wanted }

def beginParam (reading : Reading) (block : Block) (brace : Token) : Reading :=
  reading.want [.param] (.kind block brace.start)

def meet (reading : Reading) (token : Token) : Except SourceProblem Reading :=
  match reading.wanted, token.kind with
  | .block, .less => .ok (reading.want [.hunt] (.name token.start))
  | .name start, .identifier =>
      .ok (reading.want [.colon, .leftBracket, .init, .gather, .equals]
        (.param ⟨token.text, [], start⟩))
  | .param block, .leftBrace => .ok (reading.beginParam block token)
  | .kind block start, .identifier =>
      match ParamKind.ofName? token.text with
      | some kind => .ok (reading.want [.colon] (.target block start kind))
      | none => .error (.unknownKind token)
  | .target block start kind, .identifier =>
      .ok (reading.want [.equals, .leftParenthesis, .val]
        (.value block ⟨kind, token.text, [], start⟩))
  | .moreValues block param, .comma => .ok (reading.want [] (.value block param))
  | .moreValues block param, .rightParenthesis =>
      .ok (reading.want [.rightBrace]
        (.moreParams { block with params := block.params ++ [param] }))
  | .moreParams block, .leftBrace => .ok (reading.beginParam block token)
  | .moreParams block, .rightBracket =>
      .ok { blocks := reading.blocks ++ [block]
            fixed := [.greater, .less, .exec, .greater]
            wanted := .block }
  | .value block param, _ =>
      match token.value? with
      | some value =>
          .ok (reading.want []
            (.moreValues block { param with values := param.values ++ [value] }))
      | none => .error (.unexpected .value (some token))
  | wanted, _ => .error (.unexpected wanted.expected (some token))

def step (reading : Reading) (token : Token) : Except SourceProblem Reading :=
  match reading.fixed with
  | [] => reading.meet token
  | kind :: rest =>
      if token.kind = kind then .ok { reading with fixed := rest }
      else .error (.unexpected (.token kind) (some token))

/-- Read tokens up to the end of the source. -/
def run (reading : Reading) : List Token → Except SourceProblem (List Block)
  | [] =>
      if reading.isComplete then .ok reading.blocks
      else .error (.unexpected reading.expected none)
  | token :: rest =>
      match reading.step token with
      | .ok next => next.run rest
      | .error problem => .error problem

end Reading

def readBlocks (tokens : List Token) : Except SourceProblem (List Block) :=
  if tokens.isEmpty then .error .empty else Reading.run {} tokens

/-- The blocks of a source, or else its first problem. -/
def blocksOf (source : String) : Except SourceProblem (List Block) :=
  match tokens source with
  | .ok tokens => readBlocks tokens
  | .error character => .error (.stray character)

/-- Read a source; a problem is reported with its position. -/
def readSource (source : String) : Except Failure (List Block) :=
  match blocksOf source with
  | .ok blocks => .ok blocks
  | .error problem => .error (malformedAt source (problem.offset source) problem.message)

end ScreenSight.Hunt
