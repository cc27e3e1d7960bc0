import ScreenSight.Hunt.Reader
import ScreenSight.Proofs.Hunt.LineTable
import ScreenSight.Proofs.Hunt.Longest

/-!
# Where a source is cut

A source is cut into its tokens from the beginning up to its end, or up to the first
place at which there is no token.  Each token is the longest one at its place, and
nothing is lost: what stands between tokens is white space or belongs to a comment.
A part of a source is cut as the source has it, with what follows the part in view,
since a token or a comment may not end where it could go on.
-/

namespace ScreenSight.Hunt

/-- The tokens into which a part of a source is cut in front of the rest of it. -/
inductive Cuts (rest : List Char) : Nat → List Char → List Token → Prop where
  | nil {offset : Nat} : Cuts rest offset [] []
  | layout {offset : Nat} {c : Char} {text : List Char} {tokens : List Token} :
      isLayout c = true → Cuts rest (offset + c.utf8Size) text tokens →
      Cuts rest offset (c :: text) tokens
  | comment {offset : Nat} {line text : List Char} {tokens : List Token} : '\n' ∉ line →
      (∀ c, (text ++ rest).head? = some c → c = '\n') →
      Cuts rest (offset + byteSize ('#' :: line)) text tokens →
      Cuts rest offset ('#' :: (line ++ text)) tokens
  | token {offset : Nat} {kind : TokenKind} {read text : List Char} {tokens : List Token} :
      IsLongest (read ++ (text ++ rest)) kind read →
      Cuts rest (offset + byteSize read) text tokens →
      Cuts rest offset (read ++ text) (⟨kind, String.ofList read, offset⟩ :: tokens)

/-- A text begins with a character that begins neither a separator nor a token. -/
structure IsStray (c : Char) (behind : List Char) : Prop where
  noLayout : isLayout c = false
  noComment : c ≠ '#'
  unmatched : ∀ kind read, Matches kind read → ¬ read <+: c :: behind

/-- How the tokens of a text are found: all of it is cut, or a part of it in front of a
stray character. -/
inductive Scans (offset : Nat) (text : List Char) : Except StrayCharacter (List Token) → Prop where
  | done {read : List Token} : Cuts [] offset text read → Scans offset text (.ok read)
  | stuck {part behind : List Char} {c : Char} {read : List Token} : text = part ++ c :: behind →
      Cuts (c :: behind) offset part read → IsStray c behind →
      Scans offset text (.error ⟨offset + byteSize part, c⟩)

/-! ## Scanning -/

section

variable {offset : Nat} {text : List Char} {result : Except StrayCharacter (List Token)}

theorem Scans.layout {c : Char} (layout : isLayout c = true)
    (scans : Scans (offset + c.utf8Size) text result) : Scans offset (c :: text) result := by
  cases scans with
  | done cuts => exact .done (.layout layout cuts)
  | @stuck part _ _ _ same cuts stray =>
      subst same
      have stuck := Scans.stuck rfl (Cuts.layout layout cuts) stray
      rwa [byteSize, ← Nat.add_assoc] at stuck

theorem Scans.comment {line : List Char} (inside : '\n' ∉ line)
    (ended : ∀ c, text.head? = some c → c = '\n')
    (scans : Scans (offset + byteSize ('#' :: line)) text result) :
    Scans offset ('#' :: (line ++ text)) result := by
  cases scans with
  | done cuts =>
      rw [← List.append_nil text] at ended
      exact .done (.comment inside ended cuts)
  | @stuck part _ _ _ same cuts stray =>
      subst same
      have stuck := Scans.stuck rfl (Cuts.comment inside ended cuts) stray
      rwa [← List.cons_append, byteSize_append, ← Nat.add_assoc, List.append_assoc,
        List.cons_append] at stuck

theorem Scans.token {kind : TokenKind} {read whole : List Char} (same : read ++ text = whole)
    (longest : IsLongest whole kind read) (scans : Scans (offset + byteSize read) text result) :
    Scans offset whole (result.map (⟨kind, String.ofList read, offset⟩ :: ·)) := by
  subst same
  cases scans with
  | done cuts =>
      rw [← List.append_nil text] at longest
      exact .done (.token longest cuts)
  | @stuck part _ _ _ same cuts stray =>
      subst same
      have stuck := Scans.stuck rfl (Cuts.token longest cuts) stray
      rwa [byteSize_append, ← Nat.add_assoc, List.append_assoc] at stuck

end

theorem scans_tokensFrom (offset : Nat) (text : List Char) :
    Scans offset text (tokensFrom offset text) := by
  -- a separator or a token is taken off in every step
  induction size : text.length using Nat.strongRecOn generalizing offset text with
  | ind _ induction =>
      cases text with
      | nil =>
          rw [tokensFrom.eq_1]
          exact .done .nil
      | cons first following =>
          by_cases layout : isLayout first = true
          · rw [tokensFrom_layout layout]
            exact .layout layout (induction _ (size ▸ Nat.lt_add_one _) _ _ rfl)
          by_cases comment : first = '#'
          · subst comment
            obtain ⟨line, rest, rfl, inside, ended⟩ := exists_line following
            rw [tokensFrom_comment inside ended]
            have shorter : rest.length < ('#' :: (line ++ rest)).length := by
              rw [List.length_cons, List.length_append]
              omega
            exact .comment inside ended (induction _ (size ▸ shorter) _ _ rfl)
          have plain : isLayout first = false := Bool.eq_false_iff.mpr layout
          have together : separatorCount (first :: following) = 0 :=
            separatorCount_eq_zero_iff.mpr ⟨plain, comment⟩
          cases found : lexeme? (first :: following) with
          | none =>
              rw [tokensFrom, dif_neg (not_not.mpr together)]
              simp only [found]
              exact .stuck (List.nil_append _).symm .nil
                ⟨plain, comment, lexeme?_eq_none_iff.mp found⟩
          | some lexeme =>
              rw [tokensFrom_lexeme together found]
              exact .token lexeme.characters_append_rest (isLongest_lexeme found)
                (induction _ (size ▸ lexeme.length_rest_lt) _ _ rfl)

/-! ## Tokens and what stands between them -/

section

variable {rest : List Char} {offset : Nat} {part : List Char} {tokens : List Token}

theorem Cuts.le_start (cuts : Cuts rest offset part tokens) :
    ∀ token ∈ tokens, offset ≤ token.start := by
  induction cuts with
  | nil => exact fun _ member => absurd member List.not_mem_nil
  | layout _ _ induction =>
      exact fun token member => Nat.le_of_add_right_le (induction token member)
  | comment _ _ _ induction =>
      exact fun token member => Nat.le_of_add_right_le (induction token member)
  | token _ _ induction =>
      intro token member
      cases List.mem_cons.mp member with
      | inl same => rw [same]
      | inr later => exact Nat.le_of_add_right_le (induction token later)

theorem Cuts.start_lt_stop (cuts : Cuts rest offset part tokens) :
    ∀ token ∈ tokens, token.start < token.stop := by
  induction cuts with
  | nil => exact fun _ member => absurd member List.not_mem_nil
  | layout _ _ induction => exact induction
  | comment _ _ _ induction => exact induction
  | token longest _ induction =>
      intro token member
      cases List.mem_cons.mp member with
      | inl same =>
          rw [same, Token.stop, utf8ByteSize_ofList]
          exact Nat.lt_add_of_pos_right (byteSize_pos longest.fits.ne_nil)
      | inr later => exact induction token later

/-- Tokens do not overlap. -/
theorem Cuts.apart (cuts : Cuts rest offset part tokens) :
    tokens.Pairwise fun left right => left.stop ≤ right.start := by
  induction cuts with
  | nil => exact .nil
  | layout _ _ induction => exact induction
  | comment _ _ _ induction => exact induction
  | token _ cuts induction =>
      refine .cons ?_ induction
      intro later member
      rw [Token.stop, utf8ByteSize_ofList]
      exact cuts.le_start later member

/-- A token stands at its place and is the longest one there. -/
structure StandsIn (offset : Nat) (part rest : List Char) (token : Token) (before behind : List Char) :
    Prop where
  split : part = before ++ (token.text.toList ++ behind)
  place : offset + byteSize before = token.start
  longest : IsLongest (token.text.toList ++ (behind ++ rest)) token.kind token.text.toList

theorem StandsIn.shift {before behind : List Char} {token : Token} (skipped : List Char)
    (stands : StandsIn (offset + byteSize skipped) part rest token before behind) :
    StandsIn offset (skipped ++ part) rest token (skipped ++ before) behind where
  split := by rw [stands.split, List.append_assoc]
  place := by rw [byteSize_append, ← Nat.add_assoc, stands.place]
  longest := stands.longest

theorem Cuts.standsIn (cuts : Cuts rest offset part tokens) :
    ∀ token ∈ tokens, ∃ before behind, StandsIn offset part rest token before behind := by
  induction cuts with
  | nil => exact fun _ member => absurd member List.not_mem_nil
  | @layout _ c _ _ _ _ induction =>
      intro token member
      obtain ⟨before, behind, stands⟩ := induction token member
      exact ⟨c :: before, behind, stands.shift [c]⟩
  | @comment _ line _ _ _ _ _ induction =>
      intro token member
      obtain ⟨before, behind, stands⟩ := induction token member
      exact ⟨_, behind, stands.shift ('#' :: line)⟩
  | @token _ _ read text _ longest _ induction =>
      intro token member
      cases List.mem_cons.mp member with
      | inl same =>
          subst same
          refine ⟨[], text, ?_, rfl, ?_⟩
          · rw [String.toList_ofList, List.nil_append]
          · rwa [String.toList_ofList]
      | inr later =>
          obtain ⟨before, behind, stands⟩ := induction token later
          exact ⟨_, behind, stands.shift read⟩

/-- A comment begins outside of the tokens and goes on to the end of its line. -/
structure IsComment (offset : Nat) (part rest : List Char) (tokens : List Token)
    (before line behind : List Char) : Prop where
  split : part = before ++ '#' :: (line ++ behind)
  inside : '\n' ∉ line
  ended : ∀ c, (behind ++ rest).head? = some c → c = '\n'
  outside : ∀ token ∈ tokens, token.stop ≤ offset + byteSize before ∨
    offset + byteSize (before ++ '#' :: line) ≤ token.start

theorem IsComment.shift {before line behind : List Char} {others : List Token}
    (skipped : List Char)
    (comment : IsComment (offset + byteSize skipped) part rest tokens before line behind)
    (more : ∀ token ∈ others, token ∈ tokens ∨ token.stop ≤ offset + byteSize skipped) :
    IsComment offset (skipped ++ part) rest others (skipped ++ before) line behind where
  split := by rw [comment.split, List.append_assoc]
  inside := comment.inside
  ended := comment.ended
  outside := by
    intro token member
    rw [List.append_assoc, byteSize_append, byteSize_append, ← Nat.add_assoc, ← Nat.add_assoc]
    cases more token member with
    | inl old => exact comment.outside token old
    | inr early => exact .inl (Nat.le_add_right_of_le early)

/-- A character between the tokens is white space or stands in a comment. -/
def IsDropped (offset : Nat) (part rest : List Char) (tokens : List Token)
    (earlier : List Char) (c : Char) : Prop :=
  isLayout c = true ∨ ∃ before line behind,
    IsComment offset part rest tokens before line behind ∧
      before.length ≤ earlier.length ∧ earlier.length < (before ++ '#' :: line).length

theorem IsDropped.shift {earlier : List Char} {c : Char} {others : List Token}
    (skipped : List Char)
    (dropped : IsDropped (offset + byteSize skipped) part rest tokens earlier c)
    (more : ∀ token ∈ others, token ∈ tokens ∨ token.stop ≤ offset + byteSize skipped) :
    IsDropped offset (skipped ++ part) rest others (skipped ++ earlier) c := by
  rcases dropped with layout | ⟨before, line, behind, comment, behindIt, withinIt⟩
  · exact .inl layout
  · refine .inr ⟨_, line, behind, comment.shift skipped more, ?_, ?_⟩
    · rw [List.length_append, List.length_append]
      exact Nat.add_le_add_left behindIt _
    · rw [List.append_assoc, List.length_append, List.length_append]
      exact Nat.add_lt_add_left withinIt _

/-- A character of two texts in a row stands in the second one or in the first one. -/
theorem append_eq_append_cons_cases {first second earlier later : List Char} {c : Char}
    (same : first ++ second = earlier ++ c :: later) :
    (∃ middle, earlier = first ++ middle ∧ second = middle ++ c :: later) ∨
      ∃ middle, first = earlier ++ c :: middle := by
  rcases List.append_eq_append_iff.mp same with ⟨middle, rfl, rfl⟩ | ⟨middle, rfl, split⟩
  · exact .inl ⟨middle, rfl, rfl⟩
  · cases middle with
    | nil => exact .inl ⟨[], by simp, split.symm⟩
    | cons d middle =>
        obtain ⟨rfl, _⟩ := List.cons.inj split
        exact .inr ⟨middle, rfl⟩

theorem Cuts.isDropped (cuts : Cuts rest offset part tokens) {earlier later : List Char}
    {c : Char} (split : part = earlier ++ c :: later)
    (outside : ∀ token ∈ tokens,
      offset + byteSize earlier < token.start ∨ token.stop ≤ offset + byteSize earlier) :
    IsDropped offset part rest tokens earlier c := by
  induction cuts generalizing earlier with
  | nil => cases List.append_ne_nil_of_right_ne_nil earlier (List.cons_ne_nil c later) split.symm
  | @layout offset d text _ layout _ induction =>
      cases earlier with
      | nil =>
          obtain ⟨rfl, _⟩ := List.cons.inj split
          exact .inl layout
      | cons e earlier =>
          obtain ⟨rfl, behind⟩ := List.cons.inj split
          rw [byteSize, ← Nat.add_assoc] at outside
          exact (induction behind outside).shift [d] fun _ member => .inl member
  | @comment offset line text _ noBreak ended cuts induction =>
      rw [← List.cons_append] at split
      rcases append_eq_append_cons_cases split with ⟨middle, rfl, behind⟩ | ⟨middle, inside⟩
      · rw [byteSize_append, ← Nat.add_assoc] at outside
        exact (induction behind outside).shift ('#' :: line) fun _ member => .inl member
      · refine .inr ⟨[], line, text, ⟨rfl, noBreak, ended, ?_⟩, Nat.zero_le _, ?_⟩
        · exact fun token member => .inr (cuts.le_start token member)
        · rw [List.nil_append, inside, List.length_append, List.length_cons]
          omega
  | @token offset _ read text _ longest cuts induction =>
      obtain ⟨first, others⟩ := List.forall_mem_cons.mp outside
      rw [Token.stop, utf8ByteSize_ofList] at first
      change offset + byteSize earlier < offset ∨
        offset + byteSize read ≤ offset + byteSize earlier at first
      rcases append_eq_append_cons_cases split with ⟨middle, rfl, behind⟩ | ⟨middle, inside⟩
      · rw [byteSize_append, ← Nat.add_assoc] at others
        refine (induction behind others).shift read ?_
        intro token member
        cases List.mem_cons.mp member with
        | inl same =>
            rw [same, Token.stop, utf8ByteSize_ofList]
            exact .inr (Nat.le_refl _)
        | inr later => exact .inl later
      · -- a character of the token is not outside of it
        have positive := c.utf8Size_pos
        rw [inside, byteSize_append, byteSize] at first
        omega

/-- Tokens account for a part of a source: they stand in it one behind the other, and
what stands between them is dropped. -/
structure AccountsFor (tokens : List Token) (offset : Nat) (part rest : List Char) : Prop where
  present : ∀ token ∈ tokens, token.start < token.stop
  apart : tokens.Pairwise fun left right => left.stop ≤ right.start
  stands : ∀ token ∈ tokens, ∃ before behind, StandsIn offset part rest token before behind
  dropped : ∀ earlier c later, part = earlier ++ c :: later →
    (∀ token ∈ tokens,
      offset + byteSize earlier < token.start ∨ token.stop ≤ offset + byteSize earlier) →
    IsDropped offset part rest tokens earlier c

theorem Cuts.accountsFor (cuts : Cuts rest offset part tokens) :
    AccountsFor tokens offset part rest where
  present := cuts.start_lt_stop
  apart := cuts.apart
  stands := cuts.standsIn
  dropped _ _ _ := cuts.isDropped

end

/-! ## Sources -/

/-- The tokens of a source account for all of it, or those before a stray character for
what stands before it, and the character is reported where it stands. -/
theorem tokens_accountFor (source : String) :
    match tokens source with
    | .ok read => AccountsFor read 0 source.toList []
    | .error stray =>
        ∃ part behind read, source.toList = part ++ stray.character :: behind ∧
          AccountsFor read 0 part (stray.character :: behind) ∧
          IsStray stray.character behind ∧
          readSource source = .error (.malformedSource
            (Position.after ⟨1, 1⟩ part).line (Position.after ⟨1, 1⟩ part).column
            stray.message) := by
  have scans := scans_tokensFrom 0 source.toList
  have reported (stray : StrayCharacter) (failed : tokens source = .error stray) :
      readSource source = .error (malformedAt source stray.offset stray.message) := by
    rw [readSource, blocksOf, failed]
    rfl
  change Scans 0 source.toList (tokens source) at scans
  generalize tokens source = result at scans reported
  cases scans with
  | done cuts => exact cuts.accountsFor
  | @stuck part behind c read split cuts stray =>
      refine ⟨part, behind, read, split, cuts.accountsFor, stray, ?_⟩
      rw [reported _ rfl, malformedAt, Nat.zero_add, positionAt_append split]

end ScreenSight.Hunt
