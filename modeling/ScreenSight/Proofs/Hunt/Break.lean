import ScreenSight.Proofs.Hunt.Lexer

/-!
# Line breaks between texts

No token and no comment goes on behind a text that is complete by itself and
followed by a line break.  A text with such a break in it is therefore cut into
the tokens before the break and those behind it, the latter as if they were cut
alone but for their places.
-/

namespace ScreenSight.Hunt

/-! ## Lengths -/

theorem takeWhile_append_stop {test : Char → Bool} {stop : Char}
    (stops : test stop = false) (text rest : List Char) :
    (text ++ stop :: rest).takeWhile test = text.takeWhile test := by
  induction text with
  | nil => exact List.takeWhile_cons_of_neg (by simp [stops])
  | cons c text induction =>
      rw [List.cons_append, List.takeWhile_cons, List.takeWhile_cons, induction]

theorem dropWhile_append_stop {test : Char → Bool} {stop : Char}
    (stops : test stop = false) (text rest : List Char) :
    (text ++ stop :: rest).dropWhile test = text.dropWhile test ++ stop :: rest := by
  induction text with
  | nil => exact List.dropWhile_cons_of_neg (by simp [stops])
  | cons c text induction =>
      rw [List.cons_append, List.dropWhile_cons, List.dropWhile_cons, induction]
      split <;> rfl

/-- A measure of the beginning of a text that never goes on behind a line break. -/
structure StopsAtBreak (count : List Char → Nat) : Prop where
  within : ∀ text, count text ≤ text.length
  same : ∀ text rest, count (text ++ '\n' :: rest) = count text

theorem stopsAtBreak_digitCount : StopsAtBreak digitCount where
  within text := (List.takeWhile_prefix Char.isDigit).length_le
  same text rest := congrArg List.length (takeWhile_append_stop (by decide) text rest)

theorem fractionCount_of_ne {c : Char} (noPoint : c ≠ '.') (text : List Char) :
    fractionCount (c :: text) = 0 := by
  rw [fractionCount]
  intro rest same
  exact noPoint (List.cons.inj same).1

theorem stopsAtBreak_fractionCount : StopsAtBreak fractionCount := by
  constructor
  · intro text
    unfold fractionCount
    split
    · next rest =>
        have within := stopsAtBreak_digitCount.within rest
        rw [List.length_cons]
        split <;> omega
    · exact Nat.zero_le _
  · intro text rest
    cases text with
    | nil => rfl
    | cons c text =>
        rw [List.cons_append]
        by_cases point : c = '.'
        · subst point
          rw [fractionCount, fractionCount, stopsAtBreak_digitCount.same]
        · rw [fractionCount_of_ne point, fractionCount_of_ne point]

/-- What is measured behind a part of a text stops where it stops behind the part. -/
theorem StopsAtBreak.drop {count : List Char → Nat} (stops : StopsAtBreak count)
    {text : List Char} {start : Nat} (inside : start ≤ text.length) (rest : List Char) :
    count ((text ++ '\n' :: rest).drop start) = count (text.drop start) := by
  rw [List.drop_append_of_le_length inside, stops.same]

/-- The length of the sign at the beginning of a text. -/
def signCount (text : List Char) : Nat :=
  if text.head? = some '-' then 1 else 0

/-- The length of a text to the end of the digits behind its sign. -/
def wholeCount (text : List Char) : Nat :=
  signCount text + digitCount (text.drop (signCount text))

theorem numberCount_eq (text : List Char) :
    numberCount text =
      if digitCount (text.drop (signCount text)) = 0 then 0
      else wholeCount text + fractionCount (text.drop (wholeCount text)) := rfl

theorem stopsAtBreak_signCount : StopsAtBreak signCount := by
  constructor
  · intro text
    cases text with
    | nil => decide
    | cons c text =>
        rw [signCount, List.length_cons]
        split <;> omega
  · intro text rest
    cases text with
    | nil => rfl
    | cons c text => rfl

theorem stopsAtBreak_wholeCount : StopsAtBreak wholeCount := by
  constructor
  · intro text
    have sign := stopsAtBreak_signCount.within text
    have digits := stopsAtBreak_digitCount.within (text.drop (signCount text))
    rw [List.length_drop] at digits
    rw [wholeCount]
    omega
  · intro text rest
    rw [wholeCount, wholeCount, stopsAtBreak_signCount.same,
      stopsAtBreak_digitCount.drop (stopsAtBreak_signCount.within text)]

theorem stopsAtBreak_numberCount : StopsAtBreak numberCount := by
  constructor
  · intro text
    have whole := stopsAtBreak_wholeCount.within text
    have fraction := stopsAtBreak_fractionCount.within (text.drop (wholeCount text))
    rw [List.length_drop] at fraction
    rw [numberCount_eq]
    split <;> omega
  · intro text rest
    rw [numberCount_eq, numberCount_eq, stopsAtBreak_signCount.same,
      stopsAtBreak_wholeCount.same,
      stopsAtBreak_digitCount.drop (stopsAtBreak_signCount.within text),
      stopsAtBreak_fractionCount.drop (stopsAtBreak_wholeCount.within text)]

/-- A quoted text that is closed does not depend on what follows. -/
theorem quotedCount?_append {mark : Char} {text : List Char} {count : Nat}
    (closed : quotedCount? mark text = some count) :
    count ≤ text.length ∧ ∀ rest, quotedCount? mark (text ++ rest) = some count := by
  induction text using quotedCount?.induct mark generalizing count with
  | case1 => cases closed
  | case2 => cases closed
  | case3 => cases closed
  | case4 c text noBreak induction =>
      rw [quotedCount?, if_neg noBreak] at closed
      obtain ⟨inner, behind, rfl⟩ := Option.map_eq_some_iff.mp closed
      obtain ⟨within, same⟩ := induction behind
      refine ⟨Nat.add_le_add_right within 2, ?_⟩
      intro rest
      rw [List.cons_append, List.cons_append, quotedCount?, if_neg noBreak, same]
      rfl
  | case5 text noBackslash =>
      rw [quotedCount?_cons noBackslash, if_pos rfl] at closed
      cases closed
      refine ⟨Nat.le_add_left 1 text.length, ?_⟩
      intro rest
      rw [List.cons_append, quotedCount?_cons noBackslash, if_pos rfl]
  | case6 c text noBackslash inside induction =>
      rw [quotedCount?_cons noBackslash, if_neg inside] at closed
      obtain ⟨inner, behind, rfl⟩ := Option.map_eq_some_iff.mp closed
      obtain ⟨within, same⟩ := induction behind
      refine ⟨Nat.add_le_add_right within 1, ?_⟩
      intro rest
      rw [List.cons_append, quotedCount?_cons noBackslash, if_neg inside, same]
      rfl

/-! ## Tokens -/

/-- The same token at the beginning of a longer text. -/
def Lexeme.extend {text : List Char} (lexeme : Lexeme text) (more : List Char) :
    Lexeme (text ++ more) where
  kind := lexeme.kind
  characters := lexeme.characters
  rest := lexeme.rest ++ more
  characters_ne_nil := lexeme.characters_ne_nil
  characters_append_rest := by
    rw [← List.append_assoc, lexeme.characters_append_rest]

theorem firstLexeme?_extend {kind : TokenKind} {count : Nat} {text : List Char}
    {lexeme : Lexeme text} (found : firstLexeme? kind count text = some lexeme)
    (within : count ≤ text.length) (more : List Char) :
    firstLexeme? kind count (text ++ more) = some (lexeme.extend more) := by
  unfold firstLexeme? at found
  split at found
  · next present =>
      cases found
      have taken : (text ++ more).take count = text.take count :=
        List.take_append_of_le_length within
      have left : (text ++ more).drop count = text.drop count ++ more :=
        List.drop_append_of_le_length within
      unfold firstLexeme?
      simp only [taken, left, present, Lexeme.extend, ne_eq, not_false_eq_true, dif_pos]
  · cases found

theorem wordLexeme_extend (c : Char) (text rest : List Char) :
    wordLexeme c (text ++ '\n' :: rest) = (wordLexeme c text).extend ('\n' :: rest) := by
  have stops : continuesWord '\n' = false := by decide
  simp only [wordLexeme, Lexeme.extend, takeWhile_append_stop stops, dropWhile_append_stop stops]

/-- A token does not go on behind a line break. -/
theorem lexeme?_extend {text : List Char} {lexeme : Lexeme text}
    (found : lexeme? text = some lexeme) (rest : List Char) :
    lexeme? (text ++ '\n' :: rest) = some (lexeme.extend ('\n' :: rest)) := by
  cases text with
  | nil => cases found
  | cons c text =>
      change lexeme? (c :: (text ++ '\n' :: rest)) = _
      rw [lexeme?]
      rw [lexeme?] at found
      split at found
      · exact firstLexeme?_extend found (Nat.le_add_left 1 text.length) _
      · split at found
        · next starts =>
            cases found
            rw [if_pos starts, wordLexeme_extend]
        · next noWord =>
            rw [if_neg noWord]
            split at found
            · next opens =>
                split at found
                · next count closed =>
                    obtain ⟨within, same⟩ := quotedCount?_append closed
                    rw [if_pos opens, same]
                    exact firstLexeme?_extend found (Nat.add_le_add_right within 1) _
                · cases found
            · next noQuote =>
                have within := stopsAtBreak_numberCount.within (c :: text)
                have same : numberCount (c :: (text ++ '\n' :: rest)) = numberCount (c :: text) :=
                  stopsAtBreak_numberCount.same (c :: text) rest
                rw [if_neg noQuote, same]
                exact firstLexeme?_extend found within _

/-! ## Texts -/

/-- The same token further on in a text. -/
def Token.shift (distance : Nat) (token : Token) : Token :=
  { token with start := token.start + distance }

/-- No token begins behind the text. -/
theorem Lexed.start_le {offset : Nat} {text : List Char} {read : List Token}
    (lexed : Lexed offset text read) :
    ∀ token ∈ read, token.start ≤ offset + byteSize text := by
  induction lexed with
  | nil => exact fun _ member => absurd member List.not_mem_nil
  | layout _ _ induction =>
      intro token member
      rw [byteSize, ← Nat.add_assoc]
      exact induction token member
  | comment _ _ _ induction =>
      intro token member
      rw [← List.cons_append, byteSize_append, ← Nat.add_assoc]
      exact induction token member
  | @lexeme offset text lexeme _ _ _ _ induction =>
      intro token member
      cases List.mem_cons.mp member with
      | inl same =>
          rw [same]
          exact Nat.le_add_right offset (byteSize text)
      | inr later =>
          rw [← lexeme.characters_append_rest, byteSize_append, ← Nat.add_assoc]
          exact induction token later

/-- A text is cut in the same way wherever it begins. -/
theorem Lexed.shift {offset : Nat} {text : List Char} {read : List Token}
    (lexed : Lexed offset text read) (distance : Nat) :
    Lexed (offset + distance) text (read.map (Token.shift distance)) := by
  induction lexed with
  | nil => exact .nil
  | layout layout _ induction =>
      rw [Nat.add_right_comm] at induction
      exact .layout layout induction
  | comment line ended _ induction =>
      rw [Nat.add_right_comm] at induction
      exact .comment line ended induction
  | lexeme together found _ induction =>
      rw [Nat.add_right_comm] at induction
      exact .lexeme together found induction

/-- Two texts with a line break between them are cut one after the other. -/
theorem Lexed.join {offset : Nat} {first second : List Char} {read others : List Token}
    (lexed : Lexed offset first read)
    (behind : Lexed (offset + (byteSize first + 1)) second others) :
    Lexed offset (first ++ '\n' :: second) (read ++ others) := by
  induction lexed with
  | nil => exact .layout rfl behind
  | layout layout _ induction =>
      apply Lexed.layout layout
      apply induction
      rw [byteSize, Nat.add_assoc, ← Nat.add_assoc] at behind
      exact behind
  | @comment offset line rest _ inside ended _ induction =>
      have goesOn : ∀ c, (rest ++ '\n' :: second).head? = some c → c = '\n' := by
        cases rest with
        | nil => exact fun c head => (Option.some.inj head).symm
        | cons c rest => exact ended
      rw [List.cons_append, List.append_assoc]
      apply Lexed.comment inside goesOn
      apply induction
      rw [← List.cons_append, byteSize_append, Nat.add_assoc, ← Nat.add_assoc] at behind
      exact behind
  | @lexeme offset text lexeme _ together found _ induction =>
      have still : separatorCount (text ++ '\n' :: second) = 0 := by
        cases text with
        | nil => cases found
        | cons c text =>
            have plain := separatorCount_eq_zero_iff.mp together
            exact separatorCount_eq_zero_iff.mpr plain
      apply Lexed.lexeme still (lexeme?_extend found second)
      apply induction
      rw [← lexeme.characters_append_rest, byteSize_append, Nat.add_assoc,
        ← Nat.add_assoc] at behind
      exact behind

end ScreenSight.Hunt
