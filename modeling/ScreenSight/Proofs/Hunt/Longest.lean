import ScreenSight.Proofs.Hunt.Break

/-!
# The longest token

A kind of tokens is a class of texts.  Classes overlap: a keyword is a word like
any other, and every number begins with shorter ones.  What is read at the
beginning of a text is the longest text of any class that stands there, and the
keyword where a keyword is as long as the word.  The classes are stated here
without the reader, which never compares two of them.
-/

namespace ScreenSight.Hunt

/-! ## Classes -/

/-- The text of a kind that has only one. -/
def TokenKind.spelling? : TokenKind → Option String
  | less => some "<"
  | greater => some ">"
  | leftBracket => some "["
  | rightBracket => some "]"
  | leftBrace => some "\x7b"
  | rightBrace => some "\x7d"
  | leftParenthesis => some "("
  | rightParenthesis => some ")"
  | colon => some ":"
  | equals => some "="
  | comma => some ","
  | star => some "*"
  | hunt => some "hunt"
  | init => some "INIT"
  | gather => some "GATHER"
  | exec => some "EXEC"
  | param => some "param"
  | val => some "val"
  | quoted | identifier | number => none

/-- What may stand between two quotes: anything but the quote, and any character but a
line feed behind a backslash. -/
inductive Quotable (mark : Char) : List Char → Prop where
  | nil : Quotable mark []
  | plain {c : Char} {text : List Char} : c ≠ mark → c ≠ '\\' → Quotable mark text →
      Quotable mark (c :: text)
  | escaped {c : Char} {text : List Char} : c ≠ '\n' → Quotable mark text →
      Quotable mark ('\\' :: c :: text)

/-- At least one digit. -/
structure IsDigits (text : List Char) : Prop where
  present : text ≠ []
  digits : ∀ c ∈ text, c.isDigit = true

/-- A point and digits, or nothing. -/
inductive IsFraction : List Char → Prop where
  | none : IsFraction []
  | point {digits : List Char} : IsDigits digits → IsFraction ('.' :: digits)

/-- The texts of each kind. -/
inductive Matches : TokenKind → List Char → Prop where
  | fixed {kind : TokenKind} {text : String} : kind.spelling? = some text →
      Matches kind text.toList
  | quoted {mark : Char} {body : List Char} : mark = '"' ∨ mark = '\'' → Quotable mark body →
      Matches .quoted (mark :: (body ++ [mark]))
  | identifier {first : Char} {rest : List Char} : startsWord first = true →
      (∀ c ∈ rest, continuesWord c = true) → Matches .identifier (first :: rest)
  | number {sign whole fraction : List Char} : sign = [] ∨ sign = ['-'] → IsDigits whole →
      IsFraction fraction → Matches .number (sign ++ (whole ++ fraction))

/-- The longest text of any class at the beginning of a text, and its kind: where the
class of another kind has the same text too, that is the identifiers. -/
structure IsLongest (text : List Char) (kind : TokenKind) (read : List Char) : Prop where
  fits : Matches kind read
  begins : read <+: text
  longest : ∀ other shorter, Matches other shorter → shorter <+: text →
    shorter.length ≤ read.length
  preferred : ∀ other, Matches other read → other = kind ∨ other = .identifier

theorem IsLongest.unique {text read other : List Char} {kind otherKind : TokenKind}
    (longest : IsLongest text kind read) (otherLongest : IsLongest text otherKind other) :
    kind = otherKind ∧ read = other := by
  have sameLength : read.length = other.length :=
    Nat.le_antisymm (otherLongest.longest kind read longest.fits longest.begins)
      (longest.longest otherKind other otherLongest.fits otherLongest.begins)
  have same : read = other :=
    (List.prefix_of_prefix_length_le longest.begins otherLongest.begins
      (Nat.le_of_eq sameLength)).eq_of_length sameLength
  subst same
  refine ⟨?_, rfl⟩
  cases otherLongest.preferred kind longest.fits with
  | inl same => exact same
  | inr word =>
      cases longest.preferred otherKind otherLongest.fits with
      | inl same => exact same.symm
      | inr otherWord => exact word.trans otherWord.symm

/-! ## First characters -/

/-- The texts of a class that begin with a character. -/
inductive Follows (c : Char) : TokenKind → List Char → Prop where
  | mark {kind : TokenKind} : TokenKind.ofMark? c = some kind → Follows c kind []
  | word {kind : TokenKind} {rest : List Char} : startsWord c = true →
      (∀ d ∈ rest, continuesWord d = true) →
      kind = TokenKind.ofWord (String.ofList (c :: rest)) ∨ kind = .identifier →
      Follows c kind rest
  | quoted {body : List Char} : c = '"' ∨ c = '\'' → Quotable c body →
      Follows c .quoted (body ++ [c])
  | number {sign whole fraction rest : List Char} : sign = [] ∨ sign = ['-'] →
      IsDigits whole → IsFraction fraction → sign ++ (whole ++ fraction) = c :: rest →
      Follows c .number rest

theorem exists_follows {kind : TokenKind} {text : List Char} (fits : Matches kind text) :
    ∃ c rest, text = c :: rest ∧ Follows c kind rest := by
  cases fits with
  | @fixed _ text spelled =>
      cases kind with
      | quoted | identifier | number => cases spelled
      | hunt | init | gather | exec | param | val =>
          cases spelled
          refine ⟨_, _, rfl, ?_⟩
          exact .word (by decide) (List.all_eq_true.mp (by decide)) (by decide)
      | _ =>
          cases spelled
          exact ⟨_, _, rfl, .mark rfl⟩
  | quoted mark body => exact ⟨_, _, rfl, .quoted mark body⟩
  | identifier starts continues => exact ⟨_, _, rfl, .word starts continues (.inr rfl)⟩
  | @number sign whole fraction signed digits fractional =>
      have present : sign ++ (whole ++ fraction) ≠ [] := by
        simp [digits.present]
      obtain ⟨c, rest, same⟩ := List.exists_cons_of_ne_nil present
      exact ⟨c, rest, same, .number signed digits fractional same⟩

theorem Matches.ne_nil {kind : TokenKind} {text : List Char} (fits : Matches kind text) :
    text ≠ [] := by
  obtain ⟨c, rest, rfl, _⟩ := exists_follows fits
  exact List.cons_ne_nil c rest

theorem mark_excludes {c : Char} {kind : TokenKind} (mark : TokenKind.ofMark? c = some kind) :
    startsWord c = false ∧ ¬ (c = '"' ∨ c = '\'') ∧ c ≠ '-' ∧ c.isDigit = false := by
  unfold TokenKind.ofMark? at mark
  split at mark
  all_goals first
    | decide
    | cases mark

theorem isDigit_of_startsWord {c : Char} (starts : startsWord c = true) : c.isDigit = false := by
  by_contra digit
  have low : c.toNat ≤ 57 := (Char.isDigit_iff_toNat.mp (eq_true_of_ne_false digit)).2
  have word : (c.isUpper || c.isLower || c == '_') = true := starts
  simp only [Bool.or_eq_true, beq_iff_eq] at word
  rcases word with (upper | lower) | rfl
  · have high : 65 ≤ c.toNat := UInt32.le_iff_toNat_le.mp (of_decide_eq_true upper).1
    omega
  · have high : 97 ≤ c.toNat :=
      UInt32.le_iff_toNat_le.mp (of_decide_eq_true (Bool.and_eq_true_iff.mp lower).1)
    omega
  · exact digit rfl

theorem word_excludes {c : Char} (starts : startsWord c = true) :
    ¬ (c = '"' ∨ c = '\'') ∧ c ≠ '-' ∧ c.isDigit = false := by
  refine ⟨?_, ?_, isDigit_of_startsWord starts⟩
  · rintro (rfl | rfl) <;> cases starts
  · rintro rfl
    cases starts

theorem quote_excludes {c : Char} (opens : c = '"' ∨ c = '\'') : c ≠ '-' ∧ c.isDigit = false := by
  rcases opens with rfl | rfl <;> decide

theorem quote_ne_backslash {c : Char} (opens : c = '"' ∨ c = '\'') : c ≠ '\\' := by
  rcases opens with rfl | rfl <;> decide

theorem first_of_number {c : Char} {sign whole fraction rest : List Char}
    (signed : sign = [] ∨ sign = ['-']) (digits : IsDigits whole)
    (same : sign ++ (whole ++ fraction) = c :: rest) : c = '-' ∨ c.isDigit = true := by
  rcases signed with rfl | rfl
  · obtain ⟨digit, others, rfl⟩ := List.exists_cons_of_ne_nil digits.present
    rw [← (List.cons.inj same).1]
    exact .inr (digits.digits digit List.mem_cons_self)
  · exact .inl (List.cons.inj same).1.symm

section

variable {c : Char} {kind : TokenKind} {rest : List Char}

theorem Follows.of_mark {own : TokenKind} (follows : Follows c kind rest)
    (mark : TokenKind.ofMark? c = some own) : kind = own ∧ rest = [] := by
  obtain ⟨noWord, noQuote, noSign, noDigit⟩ := mark_excludes mark
  cases follows with
  | mark same => exact ⟨Option.some.inj (same.symm.trans mark), rfl⟩
  | word starts => simp [noWord] at starts
  | quoted opens => exact absurd opens noQuote
  | number signed digits _ same =>
      have first := first_of_number signed digits same
      simp [noSign, noDigit] at first

theorem Follows.of_word (follows : Follows c kind rest) (starts : startsWord c = true) :
    (∀ d ∈ rest, continuesWord d = true) ∧
      (kind = TokenKind.ofWord (String.ofList (c :: rest)) ∨ kind = .identifier) := by
  obtain ⟨noQuote, noSign, noDigit⟩ := word_excludes starts
  cases follows with
  | mark mark => simp [ofMark?_of_startsWord starts] at mark
  | word _ continues named => exact ⟨continues, named⟩
  | quoted opens => exact absurd opens noQuote
  | number signed digits _ same =>
      have first := first_of_number signed digits same
      simp [noSign, noDigit] at first

theorem Follows.of_quote (follows : Follows c kind rest) (opens : c = '"' ∨ c = '\'') :
    kind = .quoted ∧ ∃ body, Quotable c body ∧ rest = body ++ [c] := by
  obtain ⟨noSign, noDigit⟩ := quote_excludes opens
  cases follows with
  | mark mark => exact absurd opens (mark_excludes mark).2.1
  | word starts => exact absurd opens (word_excludes starts).1
  | quoted _ quotable => exact ⟨rfl, _, quotable, rfl⟩
  | number signed digits _ same =>
      have first := first_of_number signed digits same
      simp [noSign, noDigit] at first

theorem Follows.of_other (follows : Follows c kind rest) (noMark : TokenKind.ofMark? c = none)
    (noWord : ¬ startsWord c = true) (noQuote : ¬ (c = '"' ∨ c = '\'')) :
    kind = .number ∧ ∃ sign whole fraction, (sign = [] ∨ sign = ['-']) ∧ IsDigits whole ∧
      IsFraction fraction ∧ c :: rest = sign ++ (whole ++ fraction) := by
  cases follows with
  | mark mark => cases noMark.symm.trans mark
  | word starts => exact absurd starts noWord
  | quoted opens => exact absurd opens noQuote
  | number signed digits fractional same =>
      exact ⟨rfl, _, _, _, signed, digits, fractional, same.symm⟩

end

/-! ## Lengths -/

/-- A beginning of a text whose characters all pass a test is measured by the test. -/
theorem length_le_takeWhile {test : Char → Bool} {read text : List Char}
    (passed : ∀ c ∈ read, test c = true) (begins : read <+: text) :
    read.length ≤ (text.takeWhile test).length := by
  obtain ⟨rest, rfl⟩ := begins
  rw [List.takeWhile_append_of_pos passed, List.length_append]
  exact Nat.le_add_right _ _

theorem take_digitCount (text : List Char) :
    text.take (digitCount text) = text.takeWhile Char.isDigit :=
  (List.prefix_iff_eq_take.mp (List.takeWhile_prefix Char.isDigit)).symm

theorem isDigits_take {text : List Char} (present : digitCount text ≠ 0) :
    IsDigits (text.take (digitCount text)) := by
  rw [take_digitCount]
  exact ⟨fun none => present (congrArg List.length none), fun c => List.mem_takeWhile_imp⟩

theorem isFraction_take (text : List Char) : IsFraction (text.take (fractionCount text)) := by
  unfold fractionCount
  split
  · next rest =>
      split
      · exact .none
      · next present => exact .point (isDigits_take present)
  · exact .none

theorem take_signCount (text : List Char) :
    text.take (signCount text) = [] ∨ text.take (signCount text) = ['-'] := by
  cases text with
  | nil => exact .inl List.take_nil
  | cons c text =>
      rw [signCount, List.head?_cons]
      split
      · next minus =>
          cases minus
          exact .inr rfl
      · exact .inl rfl

theorem matches_take_numberCount {text : List Char} (present : numberCount text ≠ 0) :
    Matches .number (text.take (numberCount text)) := by
  rw [numberCount_eq] at present ⊢
  split at present
  · exact absurd rfl present
  · next digits =>
      rw [if_neg digits, wholeCount, List.take_add, List.take_add, List.append_assoc]
      exact .number (take_signCount text) (isDigits_take digits) (isFraction_take _)

theorem signCount_append {sign whole : List Char} (signed : sign = [] ∨ sign = ['-'])
    (digits : IsDigits whole) (rest : List Char) :
    signCount (sign ++ (whole ++ rest)) = sign.length := by
  rcases signed with rfl | rfl
  · obtain ⟨digit, others, rfl⟩ := List.exists_cons_of_ne_nil digits.present
    have noMinus : digit ≠ '-' := by
      rintro rfl
      cases digits.digits '-' List.mem_cons_self
    exact if_neg (by simpa using noMinus)
  · rfl

theorem length_le_digitCount {digits : List Char} (isDigits : IsDigits digits)
    (rest : List Char) : digits.length ≤ digitCount (digits ++ rest) :=
  length_le_takeWhile isDigits.digits (List.prefix_append digits rest)

/-- A point ends the digits before it. -/
theorem digitCount_point {digits : List Char} (isDigits : IsDigits digits) (rest : List Char) :
    digitCount (digits ++ '.' :: rest) = digits.length := by
  rw [digitCount, takeWhile_append_stop (by decide),
    List.takeWhile_eq_self_iff.mpr isDigits.digits]

theorem fractionCount_point {digits : List Char} (isDigits : IsDigits digits)
    (rest : List Char) : digits.length + 1 ≤ fractionCount ('.' :: (digits ++ rest)) := by
  have fits := length_le_digitCount isDigits rest
  have positive := List.length_pos_iff.mpr isDigits.present
  rw [fractionCount, if_neg (by omega)]
  exact Nat.succ_le_succ fits

theorem length_le_numberCount {sign whole fraction text : List Char}
    (signed : sign = [] ∨ sign = ['-']) (digits : IsDigits whole) (fractional : IsFraction fraction)
    (begins : sign ++ (whole ++ fraction) <+: text) :
    (sign ++ (whole ++ fraction)).length ≤ numberCount text := by
  obtain ⟨rest, rfl⟩ := begins
  rw [List.append_assoc, List.append_assoc]
  have positive := List.length_pos_iff.mpr digits.present
  have fits := length_le_digitCount digits (fraction ++ rest)
  have signs := signCount_append signed digits (fraction ++ rest)
  rw [numberCount_eq, wholeCount, signs, List.drop_left, if_neg (by omega), List.length_append,
    List.length_append]
  cases fractional with
  | none =>
      rw [List.length_nil]
      omega
  | @point others fractionDigits =>
      have behind : (sign ++ (whole ++ '.' :: (others ++ rest))).drop (sign.length + whole.length) =
          '.' :: (others ++ rest) := by
        rw [← List.drop_drop, List.drop_left, List.drop_left]
      have longer := fractionCount_point fractionDigits rest
      rw [List.cons_append, digitCount_point digits, behind, List.length_cons]
      omega

/-- A quoted text is closed just if something quotable stands before another quote. -/
theorem quotedCount?_eq_some_iff {mark : Char} (noBackslash : mark ≠ '\\') {text : List Char}
    {count : Nat} :
    quotedCount? mark text = some count ↔
      ∃ body rest, Quotable mark body ∧ text = body ++ mark :: rest ∧ body.length + 1 = count := by
  constructor
  · intro closed
    induction text using quotedCount?.induct mark generalizing count with
    | case1 => cases closed
    | case2 => cases closed
    | case3 => cases closed
    | case4 c text noBreak induction =>
        rw [quotedCount?, if_neg noBreak] at closed
        obtain ⟨inner, behind, rfl⟩ := Option.map_eq_some_iff.mp closed
        obtain ⟨body, rest, quotable, rfl, rfl⟩ := induction behind
        exact ⟨'\\' :: c :: body, rest, .escaped noBreak quotable, rfl, rfl⟩
    | case5 text plain =>
        rw [quotedCount?_cons plain, if_pos rfl] at closed
        cases closed
        exact ⟨[], text, .nil, rfl, rfl⟩
    | case6 c text plain inside induction =>
        rw [quotedCount?_cons plain, if_neg inside] at closed
        obtain ⟨inner, behind, rfl⟩ := Option.map_eq_some_iff.mp closed
        obtain ⟨body, rest, quotable, rfl, rfl⟩ := induction behind
        exact ⟨c :: body, rest, .plain inside plain quotable, rfl, rfl⟩
  · rintro ⟨body, rest, quotable, rfl, rfl⟩
    induction quotable with
    | nil =>
        rw [List.nil_append, quotedCount?_cons noBackslash, if_pos rfl]
        rfl
    | plain inside plain _ induction =>
        rw [List.cons_append, quotedCount?_cons plain, if_neg inside, induction]
        rfl
    | escaped noBreak _ induction =>
        rw [List.cons_append, List.cons_append, quotedCount?, if_neg noBreak, induction]
        rfl

/-! ## Reading -/

theorem firstLexeme?_characters {kind : TokenKind} {count : Nat} {text : List Char}
    {lexeme : Lexeme text} (found : firstLexeme? kind count text = some lexeme) :
    lexeme.characters = text.take count := by
  unfold firstLexeme? at found
  split at found
  · cases found
    rfl
  · cases found

theorem firstLexeme?_eq_none_iff {kind : TokenKind} {count : Nat} {c : Char} {rest : List Char} :
    firstLexeme? kind count (c :: rest) = none ↔ count = 0 := by
  simp [firstLexeme?]

section

variable {c : Char} (rest : List Char)

/-- A character is a mark, begins a word or a quoted text, or can only begin a number. -/
theorem first_cases (c : Char) :
    (∃ kind, TokenKind.ofMark? c = some kind) ∨ startsWord c = true ∨ (c = '"' ∨ c = '\'') ∨
      (TokenKind.ofMark? c = none ∧ ¬ startsWord c = true ∧ ¬ (c = '"' ∨ c = '\'')) := by
  cases mark : TokenKind.ofMark? c with
  | some kind => exact .inl ⟨kind, rfl⟩
  | none =>
      by_cases starts : startsWord c = true
      · exact .inr (.inl starts)
      · by_cases opens : c = '"' ∨ c = '\''
        · exact .inr (.inr (.inl opens))
        · exact .inr (.inr (.inr ⟨rfl, starts, opens⟩))

theorem lexeme?_mark {kind : TokenKind} (mark : TokenKind.ofMark? c = some kind) :
    lexeme? (c :: rest) = firstLexeme? kind 1 (c :: rest) := by
  rw [lexeme?, mark]

theorem lexeme?_word (starts : startsWord c = true) :
    lexeme? (c :: rest) = some (wordLexeme c rest) := by
  rw [lexeme?, ofMark?_of_startsWord starts]
  exact if_pos starts

theorem lexeme?_quoted (opens : c = '"' ∨ c = '\'') :
    lexeme? (c :: rest) =
      (quotedCount? c rest).bind fun count => firstLexeme? .quoted (count + 1) (c :: rest) := by
  have noMark : TokenKind.ofMark? c = none := by
    rcases opens with rfl | rfl <;> rfl
  have noWord : ¬ startsWord c = true := fun starts => (word_excludes starts).1 opens
  rw [lexeme?, noMark]
  simp only [if_neg noWord, if_pos opens]
  cases quotedCount? c rest <;> rfl

theorem lexeme?_number (noMark : TokenKind.ofMark? c = none) (noWord : ¬ startsWord c = true)
    (noQuote : ¬ (c = '"' ∨ c = '\'')) :
    lexeme? (c :: rest) = firstLexeme? .number (numberCount (c :: rest)) (c :: rest) := by
  rw [lexeme?, noMark]
  simp only [if_neg noWord, if_neg noQuote]

end

theorem spelling?_ofMark? {c : Char} {kind : TokenKind} (mark : TokenKind.ofMark? c = some kind) :
    kind.spelling? = some (String.ofList [c]) := by
  unfold TokenKind.ofMark? at mark
  split at mark
  all_goals first
    | cases mark; rfl
    | cases mark

theorem spelling?_ofWord (word : String) :
    (TokenKind.ofWord word).spelling? = some word ∨ TokenKind.ofWord word = .identifier := by
  unfold TokenKind.ofWord
  split
  case h_7 => exact .inr rfl
  all_goals exact .inl rfl

theorem matches_ofWord {first : Char} {rest : List Char} (starts : startsWord first = true)
    (continues : ∀ c ∈ rest, continuesWord c = true) :
    Matches (TokenKind.ofWord (String.ofList (first :: rest))) (first :: rest) := by
  cases spelling?_ofWord (String.ofList (first :: rest)) with
  | inl spelled =>
      have fits := Matches.fixed spelled
      rwa [String.toList_ofList] at fits
  | inr word =>
      rw [word]
      exact .identifier starts continues

section

variable {c : Char} {rest : List Char}

/-- Only texts with the same first character compete. -/
theorem isLongest_cons {kind : TokenKind} {read : List Char} (fits : Matches kind (c :: read))
    (begins : read <+: rest)
    (longest : ∀ other more, Follows c other more → more <+: rest → more.length ≤ read.length)
    (preferred : ∀ other, Follows c other read → other = kind ∨ other = .identifier) :
    IsLongest (c :: rest) kind (c :: read) := by
  refine ⟨fits, (List.prefix_cons_inj c).mpr begins, ?_, ?_⟩
  · intro other shorter otherFits otherBegins
    obtain ⟨d, more, rfl, follows⟩ := exists_follows otherFits
    obtain ⟨rfl, within⟩ := List.cons_prefix_cons.mp otherBegins
    exact Nat.succ_le_succ (longest other more follows within)
  · intro other otherFits
    obtain ⟨d, more, same, follows⟩ := exists_follows otherFits
    obtain ⟨rfl, rfl⟩ := List.cons.inj same
    exact preferred other follows

theorem isLongest_mark {kind : TokenKind} (mark : TokenKind.ofMark? c = some kind) :
    IsLongest (c :: rest) kind [c] := by
  apply isLongest_cons
  · have fits := Matches.fixed (spelling?_ofMark? mark)
    rwa [String.toList_ofList] at fits
  · exact List.nil_prefix
  · intro other more follows _
    rw [(follows.of_mark mark).2]
  · intro other follows
    exact .inl (follows.of_mark mark).1

theorem isLongest_word (starts : startsWord c = true) :
    IsLongest (c :: rest) (wordLexeme c rest).kind (wordLexeme c rest).characters := by
  have continues : ∀ d ∈ rest.takeWhile continuesWord, continuesWord d = true :=
    fun d => List.mem_takeWhile_imp
  apply isLongest_cons
  · exact matches_ofWord starts continues
  · exact List.takeWhile_prefix continuesWord
  · intro other more follows begins
    exact length_le_takeWhile (follows.of_word starts).1 begins
  · intro other follows
    exact (follows.of_word starts).2

theorem isLongest_quoted (opens : c = '"' ∨ c = '\'') {count : Nat}
    (closed : quotedCount? c rest = some count) :
    IsLongest (c :: rest) .quoted (c :: rest.take count) := by
  have noBackslash := quote_ne_backslash opens
  obtain ⟨body, behind, quotable, rfl, rfl⟩ := (quotedCount?_eq_some_iff noBackslash).mp closed
  have taken : (body ++ c :: behind).take (body.length + 1) = body ++ [c] := by
    rw [List.take_length_add_append]
    rfl
  rw [taken]
  apply isLongest_cons
  · exact .quoted opens quotable
  · exact ⟨behind, by simp⟩
  · intro other more follows begins
    -- where the text is closed depends on the text only
    obtain ⟨_, otherBody, otherQuotable, rfl⟩ := follows.of_quote opens
    obtain ⟨otherBehind, same⟩ := begins
    rw [List.append_assoc] at same
    have again := (quotedCount?_eq_some_iff noBackslash).mpr
      ⟨otherBody, otherBehind, otherQuotable, same.symm, rfl⟩
    have sameCount := Option.some.inj (again.symm.trans closed)
    rw [List.length_append, List.length_append]
    exact Nat.le_of_eq sameCount
  · intro other follows
    exact .inl (follows.of_quote opens).1

theorem isLongest_number (noMark : TokenKind.ofMark? c = none) (noWord : ¬ startsWord c = true)
    (noQuote : ¬ (c = '"' ∨ c = '\'')) (present : numberCount (c :: rest) ≠ 0) :
    IsLongest (c :: rest) .number ((c :: rest).take (numberCount (c :: rest))) := by
  have fits := matches_take_numberCount present
  obtain ⟨count, counted⟩ := Nat.exists_eq_succ_of_ne_zero present
  rw [counted, List.take_succ_cons] at fits ⊢
  apply isLongest_cons fits (List.take_prefix count rest)
  · intro other more follows begins
    obtain ⟨_, sign, whole, fraction, signed, digits, fractional, same⟩ :=
      follows.of_other noMark noWord noQuote
    have shorter := begins.length_le
    have within := (List.prefix_cons_inj c).mpr begins
    rw [same] at within
    have bounded := length_le_numberCount signed digits fractional within
    rw [← same, counted, List.length_cons] at bounded
    rw [List.length_take]
    omega
  · intro other follows
    exact .inl (follows.of_other noMark noWord noQuote).1

end

/-- What is read at the beginning of a text is its longest token. -/
theorem isLongest_lexeme {text : List Char} {lexeme : Lexeme text}
    (found : lexeme? text = some lexeme) :
    IsLongest text lexeme.kind lexeme.characters := by
  cases text with
  | nil => cases found
  | cons c rest =>
      rcases first_cases c with ⟨kind, mark⟩ | starts | opens | ⟨noMark, noWord, noQuote⟩
      · rw [lexeme?_mark rest mark] at found
        rw [firstLexeme?_kind found, firstLexeme?_characters found]
        exact isLongest_mark mark
      · rw [lexeme?_word rest starts] at found
        cases found
        exact isLongest_word starts
      · rw [lexeme?_quoted rest opens] at found
        obtain ⟨count, closed, found⟩ := Option.bind_eq_some_iff.mp found
        rw [firstLexeme?_kind found, firstLexeme?_characters found]
        exact isLongest_quoted opens closed
      · rw [lexeme?_number rest noMark noWord noQuote] at found
        have present : numberCount (c :: rest) ≠ 0 := by
          intro none
          rw [firstLexeme?_eq_none_iff.mpr none] at found
          cases found
        rw [firstLexeme?_kind found, firstLexeme?_characters found]
        exact isLongest_number noMark noWord noQuote present

/-- Where no token is read, no class has a text. -/
theorem not_matches_of_lexeme?_eq_none {text : List Char} (missing : lexeme? text = none)
    {kind : TokenKind} {read : List Char} (fits : Matches kind read) : ¬ read <+: text := by
  intro begins
  obtain ⟨c, more, rfl, follows⟩ := exists_follows fits
  cases text with
  | nil => cases List.prefix_nil.mp begins
  | cons d rest =>
      obtain ⟨rfl, within⟩ := List.cons_prefix_cons.mp begins
      rcases first_cases c with ⟨own, mark⟩ | starts | opens | ⟨noMark, noWord, noQuote⟩
      · rw [lexeme?_mark rest mark] at missing
        cases firstLexeme?_eq_none_iff.mp missing
      · rw [lexeme?_word rest starts] at missing
        cases missing
      · obtain ⟨_, body, quotable, rfl⟩ := follows.of_quote opens
        obtain ⟨behind, rfl⟩ := within
        have closed := (quotedCount?_eq_some_iff (quote_ne_backslash opens)).mpr
          ⟨body, behind, quotable, List.append_assoc body [c] behind, rfl⟩
        rw [lexeme?_quoted _ opens, closed] at missing
        cases firstLexeme?_eq_none_iff.mp missing
      · obtain ⟨_, sign, whole, fraction, signed, digits, fractional, same⟩ :=
          follows.of_other noMark noWord noQuote
        rw [lexeme?_number rest noMark noWord noQuote] at missing
        rw [same] at begins
        have bounded := length_le_numberCount signed digits fractional begins
        rw [firstLexeme?_eq_none_iff.mp missing, ← same] at bounded
        cases bounded

theorem lexeme?_eq_none_iff {text : List Char} :
    lexeme? text = none ↔ ∀ kind read, Matches kind read → ¬ read <+: text := by
  constructor
  · intro missing kind read
    exact not_matches_of_lexeme?_eq_none missing
  · intro unmatched
    cases found : lexeme? text with
    | none => rfl
    | some lexeme =>
        have longest := isLongest_lexeme found
        exact absurd longest.begins (unmatched _ _ longest.fits)

theorem IsLongest.exists_lexeme {kind : TokenKind} {read rest : List Char}
    (longest : IsLongest (read ++ rest) kind read) :
    ∃ lexeme, lexeme? (read ++ rest) = some lexeme ∧ lexeme.kind = kind ∧
      lexeme.characters = read ∧ lexeme.rest = rest := by
  cases found : lexeme? (read ++ rest) with
  | none => exact absurd longest.begins (not_matches_of_lexeme?_eq_none found longest.fits)
  | some lexeme =>
      obtain ⟨kindEq, readEq⟩ := (isLongest_lexeme found).unique longest
      refine ⟨lexeme, rfl, kindEq, readEq, ?_⟩
      have whole := lexeme.characters_append_rest
      rw [readEq] at whole
      exact List.append_cancel_left whole

end ScreenSight.Hunt
