import Mathlib.Data.List.TakeWhile
import ScreenSight.Hunt.Lexer
import ScreenSight.Proofs.Failure

/-!
# Typeset tokens

A text is typeset from pieces, which are tokens without their places, by putting
white space and comments between them.  Reading such a text gives the pieces back,
whatever stands between them, as long as something stands between two words.
-/

namespace ScreenSight.Hunt

/-! ## Separators -/

theorem byteSize_append (first second : List Char) :
    byteSize (first ++ second) = byteSize first + byteSize second := by
  induction first with
  | nil => exact (Nat.zero_add _).symm
  | cons c first induction =>
      rw [List.cons_append, byteSize, byteSize, induction, Nat.add_assoc]

theorem byteSize_pos {text : List Char} (present : text ≠ []) : 0 < byteSize text := by
  cases text with
  | nil => exact absurd rfl present
  | cons c text => exact Nat.add_pos_left c.utf8Size_pos _

theorem utf8ByteSize_ofList (text : List Char) :
    (String.ofList text).utf8ByteSize = byteSize text := by
  induction text with
  | nil => rfl
  | cons c text induction => simp [byteSize, ← induction]

theorem byteSize_toList (text : String) : byteSize text.toList = text.utf8ByteSize := by
  rw [← utf8ByteSize_ofList, String.ofList_toList]

theorem isLayout_cases {c : Char} (layout : isLayout c = true) :
    c = ' ' ∨ c = '\t' ∨ c = '\r' ∨ c = '\n' ∨ c = '\x0c' := by
  simpa [isLayout, or_assoc] using layout

theorem separatorCount_of_layout {c : Char} (layout : isLayout c = true)
    (rest : List Char) :
    separatorCount (c :: rest) = (rest.takeWhile isLayout).length + 1 := by
  have noMark : ¬ (c == '#') = true := by
    intro mark
    rw [eq_of_beq mark] at layout
    cases layout
  rw [separatorCount, if_neg noMark, List.takeWhile_cons_of_pos layout, List.length_cons]

theorem separatorCount_eq_zero_iff {c : Char} {rest : List Char} :
    separatorCount (c :: rest) = 0 ↔ isLayout c = false ∧ c ≠ '#' := by
  cases layout : isLayout c with
  | true => simp [separatorCount_of_layout layout rest]
  | false =>
      rw [separatorCount, List.takeWhile_cons_of_neg (by simp [layout])]
      simp

theorem tokensFrom_separated {text : List Char} (separated : separatorCount text ≠ 0)
    (offset : Nat) :
    tokensFrom offset text =
      tokensFrom (offset + byteSize (text.take (separatorCount text)))
        (text.drop (separatorCount text)) := by
  cases text with
  | nil => exact absurd rfl separated
  | cons first following =>
      conv =>
        lhs
        rw [tokensFrom]
      exact dif_pos separated

theorem tokensFrom_layout {c : Char} (layout : isLayout c = true) (offset : Nat)
    (rest : List Char) :
    tokensFrom offset (c :: rest) = tokensFrom (offset + c.utf8Size) rest := by
  have counted := separatorCount_of_layout layout rest
  have skipped : tokensFrom offset (c :: rest) =
      tokensFrom (offset + c.utf8Size + byteSize (rest.take (rest.takeWhile isLayout).length))
        (rest.drop (rest.takeWhile isLayout).length) := by
    rw [tokensFrom_separated (by omega), counted, List.take_succ_cons, byteSize,
      ← Nat.add_assoc, List.drop_succ_cons]
  rw [skipped]
  -- white space is skipped as a whole, so the rest goes on with the same run of it
  cases rest with
  | nil => rfl
  | cons next rest =>
      cases nextLayout : isLayout next with
      | false =>
          rw [List.takeWhile_cons_of_neg (by simp [nextLayout])]
          rfl
      | true =>
          have same : separatorCount (next :: rest) =
              ((next :: rest).takeWhile isLayout).length := by
            rw [separatorCount_of_layout nextLayout, List.takeWhile_cons_of_pos nextLayout,
              List.length_cons]
          rw [← same]
          exact (tokensFrom_separated (by
            rw [separatorCount_of_layout nextLayout]
            exact Nat.succ_ne_zero _) _).symm

theorem tokensFrom_comment {text rest : List Char} (line : '\n' ∉ text)
    (ended : ∀ c, rest.head? = some c → c = '\n') (offset : Nat) :
    tokensFrom offset ('#' :: (text ++ rest)) =
      tokensFrom (offset + byteSize ('#' :: text)) rest := by
  have inside : ∀ c ∈ text, (c != '\n') = true := by
    intro c member
    apply bne_iff_ne.mpr
    rintro rfl
    exact line member
  have stopped : rest.takeWhile (· != '\n') = [] := by
    cases rest with
    | nil => rfl
    | cons c rest =>
        rw [ended c rfl]
        rfl
  have counted : separatorCount ('#' :: (text ++ rest)) = ('#' :: text).length := by
    rw [separatorCount, if_pos (beq_self_eq_true '#'), List.takeWhile_append_of_pos inside, stopped,
      List.append_nil, List.length_cons]
  rw [tokensFrom_separated (by rw [counted]; exact Nat.succ_ne_zero _), counted,
    ← List.cons_append, List.take_left, List.drop_left]

/-- What may stand between two tokens. -/
inductive Spacing : List Char → Prop where
  | nil : Spacing []
  | layout {c : Char} {rest : List Char} : isLayout c = true → Spacing rest →
      Spacing (c :: rest)
  | comment {text rest : List Char} : '\n' ∉ text → Spacing rest →
      Spacing ('#' :: (text ++ '\n' :: rest))

/-- What may stand behind the last token: its last comment may end with the text. -/
inductive Ending : List Char → Prop where
  | spacing {gap : List Char} : Spacing gap → Ending gap
  | comment {gap text : List Char} : Spacing gap → '\n' ∉ text →
      Ending (gap ++ '#' :: text)

theorem tokensFrom_spacing {gap : List Char} (spacing : Spacing gap) (offset : Nat)
    (rest : List Char) :
    tokensFrom offset (gap ++ rest) = tokensFrom (offset + byteSize gap) rest := by
  induction spacing generalizing offset with
  | nil => rfl
  | layout layout _ induction =>
      rw [List.cons_append, tokensFrom_layout layout, induction, byteSize, Nat.add_assoc]
  | @comment text gap line _ induction =>
      have ended : ∀ c, ('\n' :: (gap ++ rest)).head? = some c → c = '\n' := by
        intro c head
        exact (Option.some.inj head).symm
      calc tokensFrom offset ('#' :: (text ++ '\n' :: gap) ++ rest)
          = tokensFrom offset ('#' :: (text ++ '\n' :: (gap ++ rest))) := by
            rw [List.cons_append, List.append_assoc, List.cons_append]
        _ = tokensFrom (offset + byteSize ('#' :: text)) ('\n' :: (gap ++ rest)) :=
            tokensFrom_comment line ended offset
        _ = tokensFrom (offset + byteSize ('#' :: (text ++ '\n' :: gap))) rest := by
            rw [tokensFrom_layout rfl, induction, ← List.cons_append, byteSize_append,
              byteSize.eq_2 '\n', ← Nat.add_assoc, ← Nat.add_assoc]

theorem tokensFrom_ending {ending : List Char} (ends : Ending ending) (offset : Nat) :
    tokensFrom offset ending = .ok [] := by
  cases ends with
  | spacing spacing =>
      rw [← List.append_nil ending, tokensFrom_spacing spacing]
      exact tokensFrom.eq_1 _
  | @comment gap text spacing line =>
      have none : ∀ c, ([] : List Char).head? = some c → c = '\n' := by
        intro c head
        cases head
      rw [tokensFrom_spacing spacing, ← List.append_nil text, tokensFrom_comment line none]
      exact tokensFrom.eq_1 _

/-! ## Words -/

/-- Whether tokens of a kind consist of letters, which cling to further letters. -/
def TokenKind.isWord : TokenKind → Bool
  | hunt | init | gather | exec | param | val | identifier => true
  | _ => false

theorem TokenKind.isWord_ofWord (word : String) : (ofWord word).isWord = true := by
  unfold ofWord
  split <;> rfl

/-- A text begins with no character that a word can go on with. -/
def Apart (text : List Char) : Prop :=
  ∀ c, text.head? = some c → continuesWord c = false

theorem apart_nil : Apart [] := by
  intro c head
  cases head

theorem apart_cons {c : Char} (apart : continuesWord c = false) (rest : List Char) :
    Apart (c :: rest) := by
  intro head found
  rw [← Option.some.inj found]
  exact apart

theorem continuesWord_of_layout {c : Char} (layout : isLayout c = true) :
    continuesWord c = false := by
  rcases isLayout_cases layout with rfl | rfl | rfl | rfl | rfl <;> decide

theorem Spacing.apart {gap : List Char} (spacing : Spacing gap) (present : gap ≠ [])
    (rest : List Char) : Apart (gap ++ rest) := by
  cases spacing with
  | nil => exact absurd rfl present
  | layout layout => exact apart_cons (continuesWord_of_layout layout) _
  | comment => exact apart_cons (by decide) _

theorem Ending.apart {ending : List Char} (ends : Ending ending) : Apart ending := by
  cases ends with
  | spacing spacing =>
      by_cases present : ending = []
      · rw [present]
        exact apart_nil
      · rw [← List.append_nil ending]
        exact spacing.apart present []
  | @comment gap text spacing =>
      by_cases present : gap = []
      · rw [present]
        exact apart_cons (by decide) text
      · exact spacing.apart present _

/-! ## Quoted texts -/

/-- The characters of a value within quotes. -/
def escape : List Char → List Char
  | [] => []
  | c :: rest => if c = '"' ∨ c = '\\' then '\\' :: c :: escape rest else c :: escape rest

/-- A value in double quotes. -/
def quote (value : String) : String :=
  String.ofList ('"' :: (escape value.toList ++ ['"']))

theorem quotedCount?_cons {mark c : Char} (noBackslash : c ≠ '\\') (text : List Char) :
    quotedCount? mark (c :: text) =
      if c = mark then some 1 else (quotedCount? mark text).map (· + 1) := by
  rw [quotedCount?]
  exact noBackslash

theorem quotedCount?_escape (value rest : List Char) :
    quotedCount? '"' (escape value ++ '"' :: rest) = some ((escape value).length + 1) := by
  induction value with
  | nil => rfl
  | cons c value induction =>
      by_cases special : c = '"' ∨ c = '\\'
      · have noBreak : c ≠ '\n' := by
          rcases special with rfl | rfl <;> decide
        rw [escape, if_pos special, List.cons_append, List.cons_append, quotedCount?]
        rw [if_neg noBreak, induction]
        rfl
      · obtain ⟨noQuote, noBackslash⟩ := not_or.mp special
        rw [escape, if_neg special, List.cons_append, quotedCount?_cons noBackslash,
          if_neg noQuote, induction]
        rfl

theorem resolveEscapes_escape (value : List Char) : resolveEscapes (escape value) = value := by
  induction value with
  | nil => rfl
  | cons c value induction =>
      by_cases special : c = '"' ∨ c = '\\'
      · rw [escape, if_pos special]
        rcases special with rfl | rfl
        · exact congrArg (List.cons '"') induction
        · exact congrArg (List.cons '\\') induction
      · obtain ⟨_, noBackslash⟩ := not_or.mp special
        rw [escape, if_neg special, resolveEscapes]
        · rw [induction]
        · intro next rest backslash
          exact absurd backslash noBackslash

theorem unquote_quote (value : String) : unquote (quote value) = value := by
  have inside : ((quote value).toList.drop 1).dropLast = escape value.toList := by
    rw [quote, String.toList_ofList]
    exact List.dropLast_concat
  rw [unquote, inside, resolveEscapes_escape, String.ofList_toList]

/-! ## Spellings -/

/-- The characters that make up a token of a kind by themselves. -/
inductive Spells : TokenKind → List Char → Prop where
  | mark {kind : TokenKind} {c : Char} : TokenKind.ofMark? c = some kind → Spells kind [c]
  | word {first : Char} {rest : List Char} : startsWord first = true →
      (∀ c ∈ rest, continuesWord c = true) →
      Spells (TokenKind.ofWord (String.ofList (first :: rest))) (first :: rest)
  | quoted (value : List Char) : Spells .quoted ('"' :: (escape value ++ ['"']))

theorem mark_cases {c : Char} {kind : TokenKind} (mark : TokenKind.ofMark? c = some kind) :
    kind.isWord = false ∧ continuesWord c = false ∧ isLayout c = false ∧ c ≠ '#' := by
  unfold TokenKind.ofMark? at mark
  split at mark
  all_goals first
    | (cases mark; decide)
    | cases mark

theorem continuesWord_of_startsWord {c : Char} (starts : startsWord c = true) :
    continuesWord c = true := by
  rw [startsWord, Bool.or_eq_true] at starts
  rw [continuesWord, Char.isAlphanum]
  rcases starts with letter | score
  · rw [letter]
    rfl
  · rw [score, Bool.or_true]
    rfl

theorem ofMark?_of_startsWord {c : Char} (starts : startsWord c = true) :
    TokenKind.ofMark? c = none := by
  cases mark : TokenKind.ofMark? c with
  | none => rfl
  | some kind =>
      obtain ⟨_, stops, _, _⟩ := mark_cases mark
      rw [continuesWord_of_startsWord starts] at stops
      cases stops

theorem Spells.not_separated {kind : TokenKind} {text : List Char} (spells : Spells kind text)
    (rest : List Char) : separatorCount (text ++ rest) = 0 := by
  cases spells with
  | mark mark =>
      obtain ⟨_, _, noLayout, noComment⟩ := mark_cases mark
      exact separatorCount_eq_zero_iff.mpr ⟨noLayout, noComment⟩
  | @word first more starts _ =>
      have continues := continuesWord_of_startsWord starts
      apply separatorCount_eq_zero_iff.mpr
      constructor
      · apply Bool.eq_false_iff.mpr
        intro layout
        rw [continuesWord_of_layout layout] at continues
        cases continues
      · intro comment
        rw [comment] at continues
        cases continues
  | quoted value => exact separatorCount_eq_zero_iff.mpr ⟨by decide, by decide⟩

theorem Spells.apart {kind : TokenKind} {text : List Char} (spells : Spells kind text)
    (noWord : kind.isWord = false) (rest : List Char) : Apart (text ++ rest) := by
  cases spells with
  | mark mark => exact apart_cons (mark_cases mark).2.1 rest
  | word =>
      rw [TokenKind.isWord_ofWord] at noWord
      cases noWord
  | quoted value => exact apart_cons (by decide) _

theorem firstLexeme?_append {kind : TokenKind} {text rest : List Char} {count : Nat}
    (size : text.length = count) (present : text ≠ []) :
    ∃ lexeme, firstLexeme? kind count (text ++ rest) = some lexeme ∧ lexeme.kind = kind ∧
      lexeme.characters = text ∧ lexeme.rest = rest := by
  have taken : (text ++ rest).take count = text := by
    rw [← size, List.take_left]
  have left : (text ++ rest).drop count = rest := by
    rw [← size, List.drop_left]
  have positive : (text ++ rest).take count ≠ [] := by
    rw [taken]
    exact present
  exact ⟨_, dif_pos positive, rfl, taken, left⟩

theorem Spells.lexeme? {kind : TokenKind} {text rest : List Char} (spells : Spells kind text)
    (apart : kind.isWord = true → Apart rest) :
    ∃ lexeme, Hunt.lexeme? (text ++ rest) = some lexeme ∧ lexeme.kind = kind ∧
      lexeme.characters = text ∧ lexeme.rest = rest := by
  cases spells with
  | @mark _ c mark =>
      rw [List.cons_append, Hunt.lexeme?, mark]
      exact firstLexeme?_append rfl (List.cons_ne_nil _ _)
  | @word first more starts continues =>
      have ends := apart (TokenKind.isWord_ofWord _)
      have stopped : rest.takeWhile continuesWord = [] ∧ rest.dropWhile continuesWord = rest := by
        cases rest with
        | nil => exact ⟨rfl, rfl⟩
        | cons c rest =>
            have stops : ¬ continuesWord c = true := by
              rw [ends c rfl]
              exact Bool.false_ne_true
            exact ⟨List.takeWhile_cons_of_neg stops, List.dropWhile_cons_of_neg stops⟩
      have taken : (more ++ rest).takeWhile continuesWord = more := by
        rw [List.takeWhile_append_of_pos continues, stopped.1, List.append_nil]
      have left : (more ++ rest).dropWhile continuesWord = rest := by
        rw [List.dropWhile_append_of_pos continues, stopped.2]
      refine ⟨wordLexeme first (more ++ rest), ?_, ?_, ?_, left⟩
      · change Hunt.lexeme? (first :: (more ++ rest)) = _
        rw [Hunt.lexeme?, ofMark?_of_startsWord starts]
        exact if_pos starts
      · exact congrArg (fun characters =>
          TokenKind.ofWord (String.ofList (first :: characters))) taken
      · exact congrArg (List.cons first) taken
  | quoted value =>
      have closed : quotedCount? '"' (escape value ++ ['"'] ++ rest) =
          some ((escape value).length + 1) := by
        rw [List.append_assoc]
        exact quotedCount?_escape value rest
      have size : ('"' :: (escape value ++ ['"'])).length = (escape value).length + 1 + 1 := by
        rw [List.length_cons, List.length_append]
        rfl
      have noMark : TokenKind.ofMark? '"' = none := rfl
      have noWord : startsWord '"' = false := by decide
      have opens : '"' = '"' ∨ '"' = '\'' := .inl rfl
      rw [List.cons_append, Hunt.lexeme?, noMark, noWord, if_pos opens, closed]
      exact firstLexeme?_append size (List.cons_ne_nil _ _)

/-! ## Pieces -/

/-- A token without its place. -/
structure Piece where
  kind : TokenKind
  text : String

def Token.piece (token : Token) : Piece :=
  ⟨token.kind, token.text⟩

/-- Wherever a text stands, it is read as tokens that are given pieces. -/
def Reads (text : List Char) (pieces : List Piece) : Prop :=
  ∀ offset, ∃ tokens, tokensFrom offset text = .ok tokens ∧ tokens.map Token.piece = pieces

theorem tokensFrom_lexeme {text : List Char} {lexeme : Lexeme text}
    (together : separatorCount text = 0) (found : lexeme? text = some lexeme)
    (offset : Nat) :
    tokensFrom offset text =
      (tokensFrom (offset + byteSize lexeme.characters) lexeme.rest).map
        (⟨lexeme.kind, String.ofList lexeme.characters, offset⟩ :: ·) := by
  cases text with
  | nil => cases found
  | cons first following =>
      conv =>
        lhs
        rw [tokensFrom]
      rw [dif_neg (by simp [together])]
      simp only [found]
      cases tokensFrom (offset + byteSize lexeme.characters) lexeme.rest with
      | ok tokens => rfl
      | error stray => rfl

theorem Reads.piece {piece : Piece} {pieces : List Piece} {rest : List Char}
    (spells : Spells piece.kind piece.text.toList)
    (apart : piece.kind.isWord = true → Apart rest) (reads : Reads rest pieces) :
    Reads (piece.text.toList ++ rest) (piece :: pieces) := by
  intro offset
  obtain ⟨lexeme, found, kind, characters, left⟩ := spells.lexeme? apart
  obtain ⟨tokens, read, same⟩ := reads (offset + byteSize lexeme.characters)
  refine ⟨⟨lexeme.kind, String.ofList lexeme.characters, offset⟩ :: tokens, ?_, ?_⟩
  · rw [tokensFrom_lexeme (spells.not_separated rest) found, left, read]
    rfl
  · rw [List.map_cons, same, Token.piece, kind, characters, String.ofList_toList]

theorem Reads.spacing {gap rest : List Char} {pieces : List Piece} (spacing : Spacing gap)
    (reads : Reads rest pieces) : Reads (gap ++ rest) pieces := by
  intro offset
  rw [tokensFrom_spacing spacing]
  exact reads (offset + byteSize gap)

theorem Reads.ending {ending : List Char} (ends : Ending ending) : Reads ending [] := by
  intro offset
  exact ⟨[], tokensFrom_ending ends offset, rfl⟩

/-- A text that is made of pieces, one behind the other, with any spacing between them
but none at its beginning.  Between two words there has to be some. -/
inductive Typeset : List Piece → List Char → Prop where
  | last {piece : Piece} {ending : List Char} : Ending ending →
      Typeset [piece] (piece.text.toList ++ ending)
  | cons {piece next : Piece} {pieces : List Piece} {gap rest : List Char} :
      Spacing gap → (piece.kind.isWord = true → next.kind.isWord = true → gap ≠ []) →
      Typeset (next :: pieces) rest →
      Typeset (piece :: next :: pieces) (piece.text.toList ++ (gap ++ rest))

theorem Typeset.apart {piece : Piece} {pieces : List Piece} {text : List Char}
    (typeset : Typeset (piece :: pieces) text) (spells : Spells piece.kind piece.text.toList)
    (noWord : piece.kind.isWord = false) : Apart text := by
  cases typeset with
  | last => exact spells.apart noWord _
  | cons => exact spells.apart noWord _

theorem Typeset.reads {pieces : List Piece} {text : List Char}
    (typeset : Typeset pieces text)
    (spelled : ∀ piece ∈ pieces, Spells piece.kind piece.text.toList) :
    Reads text pieces := by
  induction typeset with
  | @last piece ending ends =>
      have spells := spelled piece List.mem_cons_self
      exact Reads.piece spells (fun _ => ends.apart) (.ending ends)
  | @cons piece next pieces gap rest spacing between typeset induction =>
      have spells := spelled piece List.mem_cons_self
      have others : ∀ other ∈ next :: pieces, Spells other.kind other.text.toList := by
        intro other member
        exact spelled other (List.mem_cons_of_mem _ member)
      have apart : piece.kind.isWord = true → Apart (gap ++ rest) := by
        intro word
        by_cases tight : gap = []
        · have noWord : next.kind.isWord = false := by
            apply Bool.eq_false_iff.mpr
            intro nextWord
            exact between word nextWord tight
          rw [tight]
          exact typeset.apart (others next List.mem_cons_self) noWord
        · exact spacing.apart tight rest
      exact Reads.piece spells apart (.spacing spacing (induction others))

/-! ## Cutting -/

/-- The tokens into which a text at an offset is cut: separators are dropped, and what
begins with none of them begins with a token. -/
inductive Lexed : Nat → List Char → List Token → Prop where
  | nil {offset : Nat} : Lexed offset [] []
  | layout {offset : Nat} {c : Char} {rest : List Char} {tokens : List Token} :
      isLayout c = true → Lexed (offset + c.utf8Size) rest tokens →
      Lexed offset (c :: rest) tokens
  | comment {offset : Nat} {line rest : List Char} {tokens : List Token} : '\n' ∉ line →
      (∀ c, rest.head? = some c → c = '\n') →
      Lexed (offset + byteSize ('#' :: line)) rest tokens →
      Lexed offset ('#' :: (line ++ rest)) tokens
  | lexeme {offset : Nat} {text : List Char} {lexeme : Lexeme text} {tokens : List Token} :
      separatorCount text = 0 → lexeme? text = some lexeme →
      Lexed (offset + byteSize lexeme.characters) lexeme.rest tokens →
      Lexed offset text (⟨lexeme.kind, String.ofList lexeme.characters, offset⟩ :: tokens)

theorem Lexed.tokensFrom {offset : Nat} {text : List Char} {read : List Token}
    (lexed : Lexed offset text read) : Hunt.tokensFrom offset text = .ok read := by
  induction lexed with
  | nil => exact Hunt.tokensFrom.eq_1 _
  | layout layout _ induction => rw [tokensFrom_layout layout, induction]
  | comment line ended _ induction => rw [tokensFrom_comment line ended, induction]
  | lexeme together found _ induction =>
      rw [tokensFrom_lexeme together found, induction]
      rfl

/-- The rest of the line at the beginning of a text. -/
theorem exists_line (text : List Char) :
    ∃ line rest, text = line ++ rest ∧ '\n' ∉ line ∧ ∀ c, rest.head? = some c → c = '\n' := by
  induction text with
  | nil => exact ⟨[], [], rfl, List.not_mem_nil, fun _ found => nomatch found⟩
  | cons c text induction =>
      by_cases ended : c = '\n'
      · refine ⟨[], c :: text, rfl, List.not_mem_nil, ?_⟩
        intro head found
        exact (Option.some.inj found).symm.trans ended
      · obtain ⟨line, rest, rfl, inside, behind⟩ := induction
        refine ⟨c :: line, rest, rfl, ?_, behind⟩
        intro member
        cases List.mem_cons.mp member with
        | inl same => exact ended same.symm
        | inr later => exact inside later

theorem lexed_of_tokensFrom {offset : Nat} {text : List Char} {read : List Token}
    (accepted : tokensFrom offset text = .ok read) : Lexed offset text read := by
  -- a separator or a token is taken off in every step
  induction size : text.length using Nat.strongRecOn generalizing offset text read with
  | ind _ induction =>
      cases text with
      | nil =>
          rw [tokensFrom.eq_1] at accepted
          cases accepted
          exact .nil
      | cons first following =>
          by_cases layout : isLayout first = true
          · rw [tokensFrom_layout layout] at accepted
            exact .layout layout (induction _ (size ▸ Nat.lt_add_one _) accepted rfl)
          by_cases comment : first = '#'
          · subst comment
            obtain ⟨line, rest, rfl, inside, ended⟩ := exists_line following
            rw [tokensFrom_comment inside ended] at accepted
            have shorter : rest.length < ('#' :: (line ++ rest)).length := by
              rw [List.length_cons, List.length_append]
              omega
            exact .comment inside ended (induction _ (size ▸ shorter) accepted rfl)
          have together : separatorCount (first :: following) = 0 :=
            separatorCount_eq_zero_iff.mpr ⟨Bool.eq_false_iff.mpr layout, comment⟩
          cases found : lexeme? (first :: following) with
          | none =>
              rw [tokensFrom, dif_neg (not_not.mpr together)] at accepted
              simp only [found] at accepted
              cases accepted
          | some lexeme =>
              rw [tokensFrom_lexeme together found] at accepted
              obtain ⟨others, behind, rfl⟩ := Failure.map_eq_ok_iff.mp accepted
              exact .lexeme together found
                (induction _ (size ▸ lexeme.length_rest_lt) behind rfl)

theorem tokensFrom_eq_ok_iff {offset : Nat} {text : List Char} {read : List Token} :
    tokensFrom offset text = .ok read ↔ Lexed offset text read :=
  ⟨lexed_of_tokensFrom, Lexed.tokensFrom⟩

/-- No token begins before the text. -/
theorem Lexed.le_start {offset : Nat} {text : List Char} {read : List Token}
    (lexed : Lexed offset text read) : ∀ token ∈ read, offset ≤ token.start := by
  induction lexed with
  | nil => exact fun _ member => absurd member List.not_mem_nil
  | layout _ _ induction =>
      exact fun token member => Nat.le_of_add_right_le (induction token member)
  | comment _ _ _ induction =>
      exact fun token member => Nat.le_of_add_right_le (induction token member)
  | lexeme _ _ _ induction =>
      intro token member
      cases List.mem_cons.mp member with
      | inl same => rw [same]
      | inr later => exact Nat.le_of_add_right_le (induction token later)

/-- Where the first token begins with the text, nothing was dropped before it. -/
theorem Lexed.exists_lexeme {offset : Nat} {text : List Char} {token : Token}
    {others : List Token} (lexed : Lexed offset text (token :: others))
    (atOnce : token.start = offset) :
    ∃ lexeme, lexeme? text = some lexeme ∧
      token = ⟨lexeme.kind, String.ofList lexeme.characters, offset⟩ := by
  have behind {size : Nat} (positive : 0 < size) {rest : List Char}
      (late : Lexed (offset + size) rest (token :: others)) : False := by
    have reached : offset + size ≤ token.start := late.le_start _ List.mem_cons_self
    omega
  cases lexed with
  | @layout _ c _ _ _ late => exact (behind c.utf8Size_pos late).elim
  | comment _ _ late => exact (behind (byteSize_pos (List.cons_ne_nil _ _)) late).elim
  | @lexeme _ _ lexeme _ _ found _ => exact ⟨lexeme, found, rfl⟩

/-! ## Identifiers -/

/-- A text that is read as one identifier. -/
def IsIdentifier (text : String) : Prop :=
  tokens text = .ok [⟨.identifier, text, 0⟩]

theorem firstLexeme?_kind {kind : TokenKind} {count : Nat} {text : List Char}
    {lexeme : Lexeme text} (found : firstLexeme? kind count text = some lexeme) :
    lexeme.kind = kind := by
  unfold firstLexeme? at found
  split at found
  · cases found
    rfl
  · cases found

theorem spells_of_identifier {text : List Char} {lexeme : Lexeme text}
    (found : lexeme? text = some lexeme) (kind : lexeme.kind = .identifier) :
    Spells .identifier lexeme.characters := by
  unfold lexeme? at found
  split at found
  · cases found
  · next c rest =>
      split at found
      · next mark =>
          -- no mark is an identifier
          rw [firstLexeme?_kind found] at kind
          rw [kind] at mark
          cases (mark_cases mark).1
      · split at found
        · next starts =>
            cases found
            rw [← kind]
            apply Spells.word starts
            intro c member
            exact List.mem_takeWhile_imp member
        · split at found
          · split at found
            · cases (firstLexeme?_kind found).symm.trans kind
            · cases found
          · cases (firstLexeme?_kind found).symm.trans kind

/-- The identifiers are the words but for the keywords. -/
theorem isIdentifier_iff {text : String} :
    IsIdentifier text ↔ Spells .identifier text.toList := by
  constructor
  · intro accepted
    obtain ⟨lexeme, found, same⟩ := (lexed_of_tokensFrom accepted).exists_lexeme rfl
    obtain ⟨kind, characters, _⟩ := Token.mk.inj same
    rw [characters, String.toList_ofList]
    exact spells_of_identifier found kind.symm
  · intro spells
    obtain ⟨lexeme, found, kind, characters, left⟩ := spells.lexeme? fun _ => apart_nil
    have read := tokensFrom_lexeme (spells.not_separated []) found 0
    rw [left, characters, kind, List.append_nil, String.ofList_toList, tokensFrom.eq_1] at read
    exact read

end ScreenSight.Hunt
