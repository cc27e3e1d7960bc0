import ScreenSight.Proofs.Hunt.Joining
import ScreenSight.Proofs.Hunt.Longest

/-!
# The place of a problem

Tokens are viable if some source that is accepted begins with them.  The automaton
that reads blocks refuses a token as soon as the tokens up to it are not viable, and
never before: from every state there is a way to the end, and what a state refuses
depends neither on the places of tokens nor on what was read, beyond what is wanted
next.  The problem of a source is therefore reported at the first token that makes
it hopeless, or else at its end.
-/

namespace ScreenSight.Hunt

/-- Tokens with which a source that is accepted begins, but for their places. -/
def IsViable (pieces : List Piece) : Prop :=
  ∃ source read blocks, tokens source = .ok read ∧ pieces <+: read.map Token.piece ∧
    readSource source = .ok blocks

/-- Some tokens are viable, and with one more they are not. -/
structure Misfits (before : List Token) (token : Token) : Prop where
  viable : IsViable (before.map Token.piece)
  stuck : ¬ IsViable ((before ++ [token]).map Token.piece)

/-! ## Ways to the end -/

def behindParam : List TokenKind :=
  [.rightBracket, .greater, .less, .exec, .greater]

def behindValue : List TokenKind :=
  .rightParenthesis :: .rightBrace :: behindParam

def behindTarget : List TokenKind :=
  .equals :: .leftParenthesis :: .val :: .identifier :: behindValue

def behindKind : List TokenKind :=
  .colon :: .identifier :: behindTarget

def behindBrace : List TokenKind :=
  .param :: .identifier :: behindKind

def behindName : List TokenKind :=
  [.colon, .leftBracket, .init, .gather, .equals, .leftBrace] ++ behindBrace

/-- The kinds of the tokens with which a source can be finished: every list that was
begun gets the entry that it needs and no other one. -/
def Wanted.remainder : Wanted → List TokenKind
  | block => []
  | name _ => .identifier :: behindName
  | param _ => .leftBrace :: behindBrace
  | kind _ _ => .identifier :: behindKind
  | target _ _ _ => .identifier :: behindTarget
  | value _ _ => .identifier :: behindValue
  | moreValues _ _ => behindValue
  | moreParams _ => behindParam

def Reading.remainder (reading : Reading) : List TokenKind :=
  reading.fixed ++ reading.wanted.remainder

/-- A token of each kind.  The identifier is the name of a kind of params too. -/
def TokenKind.sample (kind : TokenKind) : Piece :=
  match kind, kind.spelling? with
  | kind, some text => ⟨kind, text⟩
  | .number, none => ⟨.number, "0"⟩
  | .quoted, none => ⟨.quoted, "\"\""⟩
  | _, none => ⟨.identifier, ParamKind.tag.name⟩

theorem TokenKind.kind_sample (kind : TokenKind) : kind.sample.kind = kind := by
  cases kind <;> rfl

theorem lexed_sample (kind : TokenKind) (offset : Nat) :
    ∃ token, Lexed offset kind.sample.text.toList [token] ∧ token.piece = kind.sample := by
  have lexed : Lexed 0 kind.sample.text.toList [⟨kind, kind.sample.text, 0⟩] := by
    apply lexed_of_tokensFrom
    cases kind <;> decide +kernel
  have shifted := lexed.shift offset
  rw [Nat.zero_add] at shifted
  exact ⟨_, shifted, by cases kind <;> rfl⟩

/-- Behind any text that is complete by itself one token of each kind can be written. -/
theorem Lexed.exists_append {offset : Nat} {text : List Char} {read : List Token}
    (lexed : Lexed offset text read) (kinds : List TokenKind) :
    ∃ more others, Lexed offset (text ++ more) (read ++ others) ∧
      others.map Token.piece = kinds.map TokenKind.sample := by
  induction kinds generalizing text read with
  | nil => exact ⟨[], [], by rwa [List.append_nil, List.append_nil], rfl⟩
  | cons kind kinds induction =>
      obtain ⟨token, written, piece⟩ := lexed_sample kind (offset + (byteSize text + 1))
      obtain ⟨more, others, longer, pieces⟩ := induction (lexed.join written)
      refine ⟨'\n' :: kind.sample.text.toList ++ more, token :: others, ?_, ?_⟩
      · rwa [← List.append_assoc, List.append_cons read]
      · rw [List.map_cons, List.map_cons, piece, pieces]

namespace Reading

/-- What remains to be read can be read. -/
theorem exists_step {reading : Reading} {kind : TokenKind} {rest : List TokenKind}
    (remains : reading.remainder = kind :: rest) {token : Token}
    (piece : token.piece = kind.sample) :
    ∃ next, reading.step token = .ok next ∧ next.remainder = rest := by
  have fits : token.kind = kind := (congrArg Piece.kind piece).trans kind.kind_sample
  have spelled : token.text = kind.sample.text := congrArg Piece.text piece
  obtain ⟨blocks, fixed, wanted⟩ := reading
  cases fixed with
  | cons first fixed =>
      obtain ⟨rfl, rfl⟩ := List.cons.inj remains
      exact ⟨_, if_pos fits, rfl⟩
  | nil =>
      cases wanted with
      | block => cases remains
      | name =>
          obtain ⟨rfl, rfl⟩ := List.cons.inj remains
          exact ⟨_, meet_eq_ok_iff.mpr (.name fits), rfl⟩
      | param =>
          obtain ⟨rfl, rfl⟩ := List.cons.inj remains
          exact ⟨_, meet_eq_ok_iff.mpr (.param fits), rfl⟩
      | kind =>
          obtain ⟨rfl, rfl⟩ := List.cons.inj remains
          have named : token.text = ParamKind.tag.name := spelled
          exact ⟨_, meet_eq_ok_iff.mpr (.kind fits named), rfl⟩
      | target =>
          obtain ⟨rfl, rfl⟩ := List.cons.inj remains
          exact ⟨_, meet_eq_ok_iff.mpr (.target fits), rfl⟩
      | value =>
          obtain ⟨rfl, rfl⟩ := List.cons.inj remains
          exact ⟨_, meet_eq_ok_iff.mpr (.value (.word fits)), rfl⟩
      | moreValues =>
          obtain ⟨rfl, rfl⟩ := List.cons.inj remains
          exact ⟨_, meet_eq_ok_iff.mpr (.endValues fits), rfl⟩
      | moreParams =>
          obtain ⟨rfl, rfl⟩ := List.cons.inj remains
          exact ⟨_, meet_eq_ok_iff.mpr (.endParams fits), rfl⟩

theorem isComplete_of_remainder {reading : Reading} (finished : reading.remainder = []) :
    reading.isComplete = true := by
  obtain ⟨blocks, fixed, wanted⟩ := reading
  obtain ⟨rfl, done⟩ := List.append_eq_nil_iff.mp finished
  cases wanted with
  | block => rfl
  | _ => cases done

/-- From every state there is a way to the end. -/
theorem exists_run_of_remainder {reading : Reading} {tokens : List Token}
    (remains : tokens.map Token.piece = reading.remainder.map TokenKind.sample) :
    ∃ blocks, reading.run tokens = .ok blocks := by
  induction tokens generalizing reading with
  | nil =>
      have finished := List.map_eq_nil_iff.mp remains.symm
      exact ⟨reading.blocks, if_pos (isComplete_of_remainder finished)⟩
  | cons token tokens induction =>
      obtain ⟨kind, rest, remainder, piece, others⟩ := List.map_eq_cons_iff.mp remains.symm
      obtain ⟨next, stepped, left⟩ := exists_step remainder piece.symm
      rw [run, stepped]
      apply induction
      rw [left, others]

/-! ## What a state depends on -/

/-- States that differ in places and in what has been read only. -/
structure Alike (first second : Reading) : Prop where
  fixed : first.fixed = second.fixed
  wanted : first.wanted.remainder = second.wanted.remainder

theorem Alike.symm {first second : Reading} (alike : Alike first second) :
    Alike second first :=
  ⟨alike.fixed.symm, alike.wanted.symm⟩

theorem ValueForm.exists_of_kind {first second : Token} {value : String}
    (form : ValueForm first value) (same : first.kind = second.kind) :
    ∃ other, ValueForm second other := by
  cases form with
  | quoted kind => exact ⟨_, .quoted (same.symm.trans kind)⟩
  | word kind => exact ⟨_, .word (same.symm.trans kind)⟩
  | number kind => exact ⟨_, .number (same.symm.trans kind)⟩
  | star kind => exact ⟨_, .star (same.symm.trans kind)⟩

/-- What is wanted next and the token decide whether it is refused. -/
theorem LeadsTo.exists_alike {blocks others : List Block} {wanted again : Wanted}
    {token other : Token} {next : Reading} (leads : LeadsTo blocks wanted token next)
    (sameWanted : wanted.remainder = again.remainder) (kind : token.kind = other.kind)
    (text : token.text = other.text) :
    ∃ last, LeadsTo others again other last ∧ Alike next last := by
  cases leads with
  | begin fits =>
      cases again with
      | block => exact ⟨_, .begin (kind ▸ fits), rfl, rfl⟩
      | _ => cases sameWanted
  | name fits =>
      cases again with
      | name => exact ⟨_, .name (kind ▸ fits), rfl, rfl⟩
      | _ => cases sameWanted
  | param fits =>
      cases again with
      | param => exact ⟨_, .param (kind ▸ fits), rfl, rfl⟩
      | _ => cases sameWanted
  | kind fits spelled =>
      cases again with
      | kind => exact ⟨_, .kind (kind ▸ fits) (text ▸ spelled), rfl, rfl⟩
      | _ => cases sameWanted
  | target fits =>
      cases again with
      | target => exact ⟨_, .target (kind ▸ fits), rfl, rfl⟩
      | _ => cases sameWanted
  | value form =>
      cases again with
      | value =>
          obtain ⟨_, otherForm⟩ := ValueForm.exists_of_kind form kind
          exact ⟨_, .value otherForm, rfl, rfl⟩
      | _ => cases sameWanted
  | nextValue fits =>
      cases again with
      | moreValues => exact ⟨_, .nextValue (kind ▸ fits), rfl, rfl⟩
      | _ => cases sameWanted
  | endValues fits =>
      cases again with
      | moreValues => exact ⟨_, .endValues (kind ▸ fits), rfl, rfl⟩
      | _ => cases sameWanted
  | nextParam fits =>
      cases again with
      | moreParams => exact ⟨_, .nextParam (kind ▸ fits), rfl, rfl⟩
      | _ => cases sameWanted
  | endParams fits =>
      cases again with
      | moreParams => exact ⟨_, .endParams (kind ▸ fits), rfl, rfl⟩
      | _ => cases sameWanted

theorem Alike.exists_step {first second next : Reading} {token other : Token}
    (alike : Alike first second) (piece : token.piece = other.piece)
    (stepped : first.step token = .ok next) :
    ∃ last, second.step other = .ok last ∧ Alike next last := by
  obtain ⟨kind, text⟩ := Piece.mk.inj piece
  obtain ⟨blocks, fixed, wanted⟩ := first
  obtain ⟨others, fixedToo, again⟩ := second
  obtain ⟨rfl, sameWanted⟩ := alike
  cases fixed with
  | nil =>
      obtain ⟨last, leads, alikeToo⟩ :=
        (meet_eq_ok_iff.mp stepped).exists_alike sameWanted kind text
      exact ⟨last, meet_eq_ok_iff.mpr leads, alikeToo⟩
  | cons expected fixed =>
      by_cases fits : token.kind = expected
      · simp only [step, fits, if_true] at stepped
        cases stepped
        exact ⟨_, if_pos (kind ▸ fits), rfl, sameWanted⟩
      · simp only [step, fits, if_false] at stepped
        cases stepped

theorem Alike.exists_foldlM {first second last : Reading} {read others : List Token}
    (alike : Alike first second) (pieces : read.map Token.piece = others.map Token.piece)
    (accepted : read.foldlM step first = .ok last) :
    ∃ lastToo, others.foldlM step second = .ok lastToo ∧ Alike last lastToo := by
  induction read generalizing first second others with
  | nil =>
      cases List.map_eq_nil_iff.mp pieces.symm
      cases accepted
      exact ⟨second, rfl, alike⟩
  | cons token read induction =>
      obtain ⟨other, more, rfl, piece, pieces⟩ := List.map_eq_cons_iff.mp pieces.symm
      rw [List.foldlM_cons] at accepted
      obtain ⟨next, stepped, accepted⟩ := Failure.bind_eq_ok_iff.mp accepted
      obtain ⟨nextToo, steppedToo, alikeToo⟩ := alike.exists_step piece.symm stepped
      obtain ⟨lastToo, acceptedToo, lastAlike⟩ := induction alikeToo pieces.symm accepted
      refine ⟨lastToo, ?_, lastAlike⟩
      rw [List.foldlM_cons, steppedToo]
      exact acceptedToo

theorem run_append {reading last : Reading} {before : List Token}
    (reached : before.foldlM step reading = .ok last) (rest : List Token) :
    reading.run (before ++ rest) = last.run rest := by
  induction before generalizing reading with
  | nil =>
      cases reached
      rfl
  | cons token before induction =>
      rw [List.foldlM_cons] at reached
      obtain ⟨next, stepped, reached⟩ := Failure.bind_eq_ok_iff.mp reached
      rw [List.cons_append, run, stepped]
      exact induction reached

/-! ## Problems -/

theorem offset_of_step_eq_error {reading : Reading} {token : Token} {problem : SourceProblem}
    (refused : reading.step token = .error problem) (source : String) :
    problem.offset source = token.start := by
  rw [step] at refused
  split at refused
  · unfold meet at refused
    split at refused
    case h_4 =>
      split at refused
      · cases refused
      · cases refused
        rfl
    case h_10 =>
      split at refused
      · cases refused
      · cases refused
        rfl
    all_goals cases refused
    rfl
  · split at refused
    · cases refused
    · cases refused
      rfl

/-- A run fails at the first token that is refused, or else at the end. -/
theorem run_eq_error {reading : Reading} {tokens : List Token} {problem : SourceProblem}
    (failed : reading.run tokens = .error problem) :
    (∃ before token behind last, tokens = before ++ token :: behind ∧
      before.foldlM step reading = .ok last ∧ last.step token = .error problem) ∨
    ∃ last, tokens.foldlM step reading = .ok last ∧
      problem = .unexpected last.expected none := by
  induction tokens generalizing reading with
  | nil =>
      rw [run] at failed
      split at failed
      · cases failed
      · cases failed
        exact .inr ⟨reading, rfl, rfl⟩
  | cons token tokens induction =>
      rw [run] at failed
      cases stepped : reading.step token with
      | error other =>
          rw [stepped] at failed
          cases failed
          exact .inl ⟨[], token, tokens, reading, rfl, rfl, stepped⟩
      | ok next =>
          rw [stepped] at failed
          rcases induction failed with
            ⟨before, other, behind, last, rfl, reached, refused⟩ | ⟨last, reached, same⟩
          · refine .inl ⟨token :: before, other, behind, last, rfl, ?_, refused⟩
            rw [List.foldlM_cons, stepped]
            exact reached
          · refine .inr ⟨last, ?_, same⟩
            rw [List.foldlM_cons, stepped]
            exact reached

end Reading

/-! ## Viable tokens -/

theorem IsLongest.shorten {text shorter read : List Char} {kind : TokenKind}
    (longest : IsLongest text kind read) (within : shorter <+: text) (begins : read <+: shorter) :
    IsLongest shorter kind read where
  fits := longest.fits
  begins := begins
  longest other candidate fits stands :=
    longest.longest other candidate fits (stands.trans within)
  preferred := longest.preferred

/-- The text of a source up to the end of a token is cut into the tokens up to it. -/
theorem Lexed.exists_front {offset : Nat} {text : List Char} {before others : List Token}
    (lexed : Lexed offset text (before ++ others)) :
    ∃ first second, text = first ++ second ∧ Lexed offset first before := by
  generalize whole : before ++ others = read at lexed
  induction lexed generalizing before with
  | nil =>
      obtain ⟨rfl, _⟩ := List.append_eq_nil_iff.mp whole
      exact ⟨[], [], rfl, .nil⟩
  | @layout _ c _ _ layout _ induction =>
      obtain ⟨first, second, rfl, lexed⟩ := induction whole
      exact ⟨c :: first, second, rfl, .layout layout lexed⟩
  | @comment _ line _ _ inside ended _ induction =>
      obtain ⟨first, second, rfl, lexed⟩ := induction whole
      refine ⟨'#' :: (line ++ first), second, ?_, .comment inside ?_ lexed⟩
      · rw [List.cons_append, List.append_assoc]
      · cases first with
        | nil => exact fun _ found => nomatch found
        | cons c first => exact ended
  | @lexeme offset text lexeme _ together found _ induction =>
      cases before with
      | nil => exact ⟨[], text, rfl, .nil⟩
      | cons token before =>
          obtain ⟨rfl, behind⟩ := List.cons.inj whole
          obtain ⟨first, second, split, lexed⟩ := induction behind
          have same : text = (lexeme.characters ++ first) ++ second := by
            rw [List.append_assoc, ← split, lexeme.characters_append_rest]
          have longest : IsLongest (lexeme.characters ++ first) lexeme.kind lexeme.characters :=
            (isLongest_lexeme found).shorten ⟨second, same.symm⟩ (List.prefix_append _ _)
          obtain ⟨shorter, foundToo, kind, characters, rest⟩ := longest.exists_lexeme
          refine ⟨lexeme.characters ++ first, second, same, ?_⟩
          have still : separatorCount (lexeme.characters ++ first) = 0 := by
            obtain ⟨c, more, begins⟩ := List.exists_cons_of_ne_nil lexeme.characters_ne_nil
            rw [same, begins] at together
            rw [begins]
            exact separatorCount_eq_zero_iff.mpr (separatorCount_eq_zero_iff.mp together)
          have goesOn : Lexed (offset + byteSize shorter.characters) shorter.rest before := by
            rwa [characters, rest]
          have shortened := Lexed.lexeme still foundToo goesOn
          rwa [kind, characters] at shortened

theorem readSource_eq_ok_iff_run {source : String} {blocks : List Block} :
    readSource source = .ok blocks ↔
      ∃ read, tokens source = .ok read ∧ read ≠ [] ∧ Reading.run {} read = .ok blocks := by
  rw [readSource, blocksOf]
  cases tokens source with
  | error stray => simp
  | ok read =>
      cases read with
      | nil => simp [readBlocks]
      | cons token read =>
          have same : readBlocks (token :: read) = Reading.run {} (token :: read) := rfl
          cases running : Reading.run {} (token :: read) <;> simp [same, running]

/-- A source with as little as possible in it. -/
def smallest : String :=
  "<hunt a:[INIT GATHER=\x7bparam tag:a=(val a)\x7d]><EXEC>"

theorem isViable_nil : IsViable [] := by
  have accepted : (readSource smallest).isOk = true := by decide +kernel
  cases found : readSource smallest with
  | error failure =>
      rw [found] at accepted
      cases accepted
  | ok blocks =>
      obtain ⟨read, cut, _⟩ := readSource_eq_ok_iff_run.mp found
      exact ⟨smallest, read, blocks, cut, List.nil_prefix, found⟩

/-- What the automaton has read can be continued. -/
theorem isViable_of_foldlM {source : String} {before others : List Token} {last : Reading}
    (cut : tokens source = .ok (before ++ others))
    (reached : before.foldlM Reading.step {} = .ok last) : IsViable (before.map Token.piece) := by
  by_cases started : before = []
  · rw [started]
    exact isViable_nil
  obtain ⟨first, _, _, lexed⟩ := (lexed_of_tokensFrom cut).exists_front
  obtain ⟨more, others, longer, pieces⟩ := lexed.exists_append last.remainder
  obtain ⟨blocks, running⟩ := Reading.exists_run_of_remainder pieces
  have cutToo : tokens (String.ofList (first ++ more)) = .ok (before ++ others) := by
    rw [tokens, String.toList_ofList]
    exact longer.tokensFrom
  refine ⟨String.ofList (first ++ more), before ++ others, blocks, cutToo, ?_, ?_⟩
  · rw [List.map_append]
    exact List.prefix_append _ _
  · apply readSource_eq_ok_iff_run.mpr
    refine ⟨_, cutToo, List.append_ne_nil_of_left_ne_nil started others, ?_⟩
    rw [Reading.run_append reached, running]

/-- What the automaton refuses cannot be continued, however the tokens are placed. -/
theorem not_isViable_of_step {before : List Token} {token : Token} {last : Reading}
    {problem : SourceProblem} (reached : before.foldlM Reading.step {} = .ok last)
    (refused : last.step token = .error problem) :
    ¬ IsViable ((before ++ [token]).map Token.piece) := by
  rintro ⟨source, read, blocks, cut, ⟨rest, begins⟩, accepted⟩
  obtain ⟨_, cutToo, _, running⟩ := readSource_eq_ok_iff_run.mp accepted
  cases cut.symm.trans cutToo
  rw [List.map_append, List.append_assoc] at begins
  obtain ⟨beforeToo, others, rfl, pieces, behind⟩ := List.map_eq_append_iff.mp begins.symm
  obtain ⟨other, others, rfl, piece, _⟩ := List.map_eq_cons_iff.mp behind
  have start : Reading.Alike {} {} := ⟨rfl, rfl⟩
  obtain ⟨lastToo, reachedToo, alike⟩ := start.exists_foldlM pieces.symm reached
  rw [Reading.run_append reachedToo, Reading.run] at running
  cases stepped : lastToo.step other with
  | error otherProblem =>
      rw [stepped] at running
      cases running
  | ok next =>
      obtain ⟨_, passed, _⟩ := alike.symm.exists_step piece stepped
      rw [refused] at passed
      cases passed

theorem misfits_of_step {source : String} {before behind : List Token} {token : Token}
    {last : Reading} {problem : SourceProblem}
    (cut : tokens source = .ok (before ++ token :: behind))
    (reached : before.foldlM Reading.step {} = .ok last)
    (refused : last.step token = .error problem) : Misfits before token where
  viable := isViable_of_foldlM cut reached
  stuck := not_isViable_of_step reached refused

/-- As long as the automaton goes on, every token fits. -/
theorem not_misfits_of_foldlM {source : String} {before behind : List Token} {token : Token}
    {last : Reading} (cut : tokens source = .ok (before ++ token :: behind))
    (reached : (before ++ [token]).foldlM Reading.step {} = .ok last) :
    ¬ Misfits before token := by
  intro misfits
  rw [List.append_cons] at cut
  exact misfits.stuck (isViable_of_foldlM cut reached)

theorem exists_foldlM_front {reading last : Reading} {first second : List Token}
    (reached : (first ++ second).foldlM Reading.step reading = .ok last) :
    ∃ middle, first.foldlM Reading.step reading = .ok middle := by
  rw [List.foldlM_append] at reached
  obtain ⟨middle, firstReached, _⟩ := Failure.bind_eq_ok_iff.mp reached
  exact ⟨middle, firstReached⟩

/-- The problem of a source that is cut into tokens is reported at the first token that
cannot stand where it stands, whatever may follow, and at the end of the source if there
is no such token. -/
theorem readSource_misfit {source : String} {read : List Token} {failure : Failure}
    (cut : tokens source = .ok read) (present : read ≠ [])
    (refused : readSource source = .error failure) :
    ∃ offset message,
      failure = .malformedSource (positionAt source offset).line
        (positionAt source offset).column message ∧
      ((∃ before token behind, read = before ++ token :: behind ∧ Misfits before token ∧
          (∀ earlier other between, before = earlier ++ other :: between →
            ¬ Misfits earlier other) ∧
          offset = token.start) ∨
        ((∀ before token behind, read = before ++ token :: behind → ¬ Misfits before token) ∧
          offset = source.utf8ByteSize)) := by
  have blocks : blocksOf source = Reading.run {} read := by
    rw [blocksOf, cut]
    exact if_neg (by simpa using present)
  cases running : Reading.run {} read with
  | ok found =>
      rw [readSource, blocks, running] at refused
      cases refused
  | error problem =>
      rw [readSource, blocks, running] at refused
      refine ⟨problem.offset source, problem.message, (Except.error.inj refused).symm, ?_⟩
      rcases Reading.run_eq_error running with
        ⟨before, token, behind, last, rfl, reached, stuck⟩ | ⟨last, reached, rfl⟩
      · refine .inl ⟨before, token, behind, rfl, misfits_of_step cut reached stuck, ?_,
          Reading.offset_of_step_eq_error stuck source⟩
        rintro earlier other between rfl
        rw [List.append_cons] at reached
        obtain ⟨middle, reachedFirst⟩ := exists_foldlM_front reached
        rw [List.append_assoc] at cut
        exact not_misfits_of_foldlM cut reachedFirst
      · refine .inr ⟨?_, rfl⟩
        rintro before token behind rfl
        rw [List.append_cons] at reached
        obtain ⟨middle, reachedFirst⟩ := exists_foldlM_front reached
        exact not_misfits_of_foldlM cut reachedFirst

/-- A param without its closing brace, above the line with the bracket. -/
def unclosed : String :=
  "<hunt a:[INIT GATHER=\n  \x7bparam tag:list=(val v, 'w')\n]><EXEC>"

theorem readSource_misfit_unclosed :
    ∃ read, tokens unclosed = .ok read ∧ read ≠ [] ∧
      readSource unclosed = .error (.malformedSource 3 1 "expected `\x7d`, found `]`") ∧
      ∃ before token behind, read = before ++ token :: behind ∧ Misfits before token ∧
        (∀ earlier other between, before = earlier ++ other :: between →
          ¬ Misfits earlier other) ∧
        positionAt unclosed token.start = ⟨3, 1⟩ := by
  have refused : readSource unclosed =
      .error (.malformedSource 3 1 "expected `\x7d`, found `]`") := by
    decide +kernel
  have counted : (tokens unclosed).map List.length = .ok 25 := by decide +kernel
  have notAtEnd : positionAt unclosed unclosed.utf8ByteSize ≠ ⟨3, 1⟩ := by decide +kernel
  obtain ⟨read, cut, length⟩ := Failure.map_eq_ok_iff.mp counted
  have present : read ≠ [] := by
    rintro rfl
    cases length
  obtain ⟨offset, message, same, place⟩ := readSource_misfit cut present refused
  obtain ⟨line, column, _⟩ := Failure.malformedSource.inj same
  have position : positionAt unclosed offset = ⟨3, 1⟩ := by
    rw [line, column]
  refine ⟨read, cut, present, refused, ?_⟩
  rcases place with ⟨before, token, behind, split, misfits, first, rfl⟩ | ⟨_, rfl⟩
  · exact ⟨before, token, behind, split, misfits, first, position⟩
  · exact absurd position notAtEnd

end ScreenSight.Hunt
