import ScreenSight.Hunt.Reader

/-!
# The grammar of blocks

The forms below are the grammar of hunt sources, over tokens.  Every form says
which tokens it consists of and what it stands for.  The automaton that reads
blocks accepts exactly the tokens that have the form of a source, and what it
returns is what the form stands for.

The automaton runs through a form from its first token to its last one, so each
form gets a lemma on the runs that begin in front of it: such a run succeeds just
if the tokens begin with the form and the run behind it succeeds.
-/

namespace ScreenSight.Hunt

/-! ## Forms -/

/-- Any number of forms, one after the other. -/
inductive Many {α : Type} (form : List Token → α → Prop) : List Token → List α → Prop where
  | nil : Many form [] []
  | cons {first rest : List Token} {item : α} {items : List α} :
      form first item → Many form rest items → Many form (first ++ rest) (item :: items)

/-- A value. -/
inductive ValueForm : Token → String → Prop where
  | quoted {token : Token} : token.kind = .quoted → ValueForm token (unquote token.text)
  | word {token : Token} : token.kind = .identifier → ValueForm token token.text
  | number {token : Token} : token.kind = .number → ValueForm token token.text
  | star {token : Token} : token.kind = .star → ValueForm token token.text

/-- `"," <value>` -/
inductive NextValueForm : List Token → String → Prop where
  | mk {comma token : Token} {value : String} :
      comma.kind = .comma → ValueForm token value → NextValueForm [comma, token] value

/-- `<value> ("," <value>)*` -/
inductive ValuesForm : List Token → List String → Prop where
  | mk {token : Token} {rest : List Token} {value : String} {values : List String} :
      ValueForm token value → Many NextValueForm rest values →
      ValuesForm (token :: rest) (value :: values)

/-- `"{" "param" <kind> ":" <target> "=" "(" "val" <values> ")" "}"` -/
inductive ParamForm : List Token → Param → Prop where
  | mk {brace param word colon name equals parenthesis val close ending : Token}
      {items : List Token} {kind : ParamKind} {values : List String} :
      [brace, param, word, colon, name, equals, parenthesis, val].map Token.kind =
        [.leftBrace, .param, .identifier, .colon, .identifier, .equals, .leftParenthesis,
          .val] →
      word.text = kind.name → ValuesForm items values →
      [close, ending].map Token.kind = [.rightParenthesis, .rightBrace] →
      ParamForm
        (brace :: param :: word :: colon :: name :: equals :: parenthesis :: val ::
          (items ++ [close, ending]))
        ⟨kind, name.text, values, brace.start⟩

/-- `"<" "hunt" <name> ":" "[" "INIT" "GATHER" "=" <param>+ "]" ">" "<" "EXEC" ">"` -/
inductive BlockForm : List Token → Block → Prop where
  | mk {less hunt name colon bracket init gather equals close greater again exec
        ending : Token} {items : List Token} {params : List Param} :
      [less, hunt, name, colon, bracket, init, gather, equals].map Token.kind =
        [.less, .hunt, .identifier, .colon, .leftBracket, .init, .gather, .equals] →
      Many ParamForm items params → params ≠ [] →
      [close, greater, again, exec, ending].map Token.kind =
        [.rightBracket, .greater, .less, .exec, .greater] →
      BlockForm
        (less :: hunt :: name :: colon :: bracket :: init :: gather :: equals ::
          (items ++ [close, greater, again, exec, ending]))
        ⟨name.text, params, less.start⟩

/-- `<block>+` -/
structure SourceForm (tokens : List Token) (blocks : List Block) : Prop where
  many : Many BlockForm tokens blocks
  present : blocks ≠ []

theorem Many.eq_nil {α : Type} {form : List Token → α → Prop} {tokens : List Token}
    (many : Many form tokens []) : tokens = [] := by
  cases many
  rfl

theorem Many.ne_nil {α : Type} {form : List Token → α → Prop} {tokens : List Token}
    {items : List α} (consumes : ∀ {first item}, form first item → first ≠ [])
    (many : Many form tokens items) (present : items ≠ []) : tokens ≠ [] := by
  cases many with
  | nil => exact absurd rfl present
  | cons first _ => exact List.append_ne_nil_of_left_ne_nil (consumes first) _

theorem NextValueForm.ne_nil {tokens : List Token} {value : String}
    (form : NextValueForm tokens value) : tokens ≠ [] := by
  cases form
  exact List.cons_ne_nil _ _

theorem ParamForm.ne_nil {tokens : List Token} {param : Param}
    (form : ParamForm tokens param) : tokens ≠ [] := by
  cases form
  exact List.cons_ne_nil _ _

theorem ParamForm.opened {brace : Token} {tokens : List Token} {param : Param}
    (form : ParamForm (brace :: tokens) param) : brace.kind = .leftBrace := by
  cases form with
  | mk kinds => exact (List.cons.inj kinds).1

theorem BlockForm.ne_nil {tokens : List Token} {block : Block}
    (form : BlockForm tokens block) : tokens ≠ [] := by
  cases form
  exact List.cons_ne_nil _ _

theorem BlockForm.opened {less : Token} {tokens : List Token} {block : Block}
    (form : BlockForm (less :: tokens) block) : less.kind = .less := by
  cases form with
  | mk kinds => exact (List.cons.inj kinds).1

theorem SourceForm.ne_nil {tokens : List Token} {blocks : List Block}
    (form : SourceForm tokens blocks) : tokens ≠ [] :=
  form.many.ne_nil BlockForm.ne_nil form.present

theorem ParamKind.ofName?_eq_some_iff {word : String} {kind : ParamKind} :
    ofName? word = some kind ↔ word = kind.name := by
  constructor
  · intro found
    unfold ofName? at found
    split at found
    · cases found
      rfl
    · cases found
      rfl
    · cases found
      rfl
    · cases found
  · rintro rfl
    exact ofName?_name kind

theorem value?_eq_some_iff {token : Token} {value : String} :
    token.value? = some value ↔ ValueForm token value := by
  constructor
  · intro found
    rw [Token.value?] at found
    split at found
    · next quoted =>
        cases found
        exact .quoted quoted
    · next word =>
        cases found
        exact .word word
    · next number =>
        cases found
        exact .number number
    · next star =>
        cases found
        exact .star star
    · cases found
  · intro form
    cases form with
    | quoted kind => simp only [Token.value?, kind]
    | word kind => simp only [Token.value?, kind]
    | number kind => simp only [Token.value?, kind]
    | star kind => simp only [Token.value?, kind]

/-! ## Loops -/

/-- A loop that in each round either leaves or reads a form goes through any number
of forms before it leaves. -/
theorem loop_iff {α : Type} (form : List Token → α → Prop)
    (runs leaves : List α → List Token → Prop)
    (consumes : ∀ {first item}, form first item → first ≠ [])
    (round : ∀ items tokens, runs items tokens ↔
      leaves items tokens ∨ ∃ first rest item, tokens = first ++ rest ∧ form first item ∧
        runs (items ++ [item]) rest)
    (items : List α) (tokens : List Token) :
    runs items tokens ↔ ∃ read rest more, tokens = read ++ rest ∧ Many form read more ∧
      leaves (items ++ more) rest := by
  constructor
  · -- the rest of the tokens becomes shorter in every round
    induction size : tokens.length using Nat.strongRecOn generalizing items tokens with
    | ind _ induction =>
        intro running
        rcases (round items tokens).mp running with
          left | ⟨first, rest, item, rfl, read, running⟩
        · exact ⟨[], tokens, [], rfl, .nil, by rwa [List.append_nil]⟩
        · have shorter : rest.length < (first ++ rest).length := by
            have positive := List.length_pos_iff.mpr (consumes read)
            rw [List.length_append]
            omega
          obtain ⟨others, remaining, more, rfl, many, left⟩ :=
            induction rest.length (size ▸ shorter) (items ++ [item]) rest rfl running
          refine ⟨first ++ others, remaining, item :: more, ?_, .cons read many, ?_⟩
          · rw [List.append_assoc]
          · rw [List.append_assoc] at left
            exact left
  · rintro ⟨read, rest, more, rfl, many, left⟩
    induction many generalizing items with
    | nil =>
        rw [List.append_nil] at left
        exact (round items _).mpr (.inl left)
    | @cons first others item more read _ induction =>
        apply (round items _).mpr
        right
        refine ⟨first, others ++ rest, item, List.append_assoc .., read, ?_⟩
        apply induction
        rw [List.append_assoc]
        exact left

namespace Reading

/-! ## Steps -/

/-- The steps by which a token is read where something is wanted. -/
inductive LeadsTo (blocks : List Block) : Wanted → Token → Reading → Prop where
  | begin {token : Token} : token.kind = .less →
      LeadsTo blocks .block token ⟨blocks, [.hunt], .name token.start⟩
  | name {token : Token} {start : Nat} : token.kind = .identifier →
      LeadsTo blocks (.name start) token
        ⟨blocks, [.colon, .leftBracket, .init, .gather, .equals],
          .param ⟨token.text, [], start⟩⟩
  | param {token : Token} {block : Block} : token.kind = .leftBrace →
      LeadsTo blocks (.param block) token ⟨blocks, [.param], .kind block token.start⟩
  | kind {token : Token} {block : Block} {start : Nat} {kind : ParamKind} :
      token.kind = .identifier → token.text = kind.name →
      LeadsTo blocks (.kind block start) token
        ⟨blocks, [.colon], .target block start kind⟩
  | target {token : Token} {block : Block} {start : Nat} {kind : ParamKind} :
      token.kind = .identifier →
      LeadsTo blocks (.target block start kind) token
        ⟨blocks, [.equals, .leftParenthesis, .val],
          .value block ⟨kind, token.text, [], start⟩⟩
  | value {token : Token} {block : Block} {param : Param} {value : String} :
      ValueForm token value →
      LeadsTo blocks (.value block param) token
        ⟨blocks, [], .moreValues block { param with values := param.values ++ [value] }⟩
  | nextValue {token : Token} {block : Block} {param : Param} : token.kind = .comma →
      LeadsTo blocks (.moreValues block param) token ⟨blocks, [], .value block param⟩
  | endValues {token : Token} {block : Block} {param : Param} :
      token.kind = .rightParenthesis →
      LeadsTo blocks (.moreValues block param) token
        ⟨blocks, [.rightBrace],
          .moreParams { block with params := block.params ++ [param] }⟩
  | nextParam {token : Token} {block : Block} : token.kind = .leftBrace →
      LeadsTo blocks (.moreParams block) token ⟨blocks, [.param], .kind block token.start⟩
  | endParams {token : Token} {block : Block} : token.kind = .rightBracket →
      LeadsTo blocks (.moreParams block) token
        ⟨blocks ++ [block], [.greater, .less, .exec, .greater], .block⟩

theorem leadsTo_of_meet {blocks : List Block} {wanted : Wanted} {token : Token}
    {next : Reading} (met : (Reading.mk blocks [] wanted).meet token = .ok next) :
    LeadsTo blocks wanted token next := by
  unfold meet at met
  split at met
  · next wantsBlock kind =>
      cases wantsBlock
      cases met
      exact .begin kind
  · next wantsName kind =>
      cases wantsName
      cases met
      exact .name kind
  · next wantsParam kind =>
      cases wantsParam
      cases met
      exact .param kind
  · next wantsKind kind =>
      cases wantsKind
      split at met
      · next found =>
          cases met
          exact .kind kind (ParamKind.ofName?_eq_some_iff.mp found)
      · cases met
  · next wantsTarget kind =>
      cases wantsTarget
      cases met
      exact .target kind
  · next wantsMore kind =>
      cases wantsMore
      cases met
      exact .nextValue kind
  · next wantsMore kind =>
      cases wantsMore
      cases met
      exact .endValues kind
  · next wantsMore kind =>
      cases wantsMore
      cases met
      exact .nextParam kind
  · next wantsMore kind =>
      cases wantsMore
      cases met
      exact .endParams kind
  · next wantsValue =>
      cases wantsValue
      split at met
      · next found =>
          cases met
          exact .value (value?_eq_some_iff.mp found)
      · cases met
  · cases met

theorem meet_eq_ok_iff {blocks : List Block} {wanted : Wanted} {token : Token}
    {next : Reading} :
    (Reading.mk blocks [] wanted).meet token = .ok next ↔
      LeadsTo blocks wanted token next := by
  constructor
  · exact leadsTo_of_meet
  · intro leads
    cases leads with
    | kind kind spelled =>
        have found := ParamKind.ofName?_eq_some_iff.mpr spelled
        simp only [meet, kind, found]
        rfl
    | value form =>
        simp only [meet, value?_eq_some_iff.mpr form]
        rfl
    | begin kind => simp only [meet, kind, want]
    | name kind => simp only [meet, kind, want]
    | param kind => simp only [meet, kind, beginParam, want]
    | target kind => simp only [meet, kind, want]
    | nextValue kind => simp only [meet, kind, want]
    | endValues kind => simp only [meet, kind, want]
    | nextParam kind => simp only [meet, kind, beginParam, want]
    | endParams kind => simp only [meet, kind]

/-! ## Runs -/

section

variable {blocks result : List Block} {tokens : List Token}

theorem run_fixed_iff {fixed : List TokenKind} {wanted : Wanted} :
    (Reading.mk blocks fixed wanted).run tokens = .ok result ↔
      ∃ read rest, tokens = read ++ rest ∧ read.map Token.kind = fixed ∧
        (Reading.mk blocks [] wanted).run rest = .ok result := by
  induction fixed generalizing tokens with
  | nil =>
      constructor
      · intro running
        exact ⟨[], tokens, rfl, rfl, running⟩
      · rintro ⟨read, rest, rfl, none, running⟩
        rw [List.map_eq_nil_iff] at none
        subst none
        exact running
  | cons kind others induction =>
      constructor
      · intro running
        cases tokens with
        | nil => cases running
        | cons token rest =>
            rw [run, step] at running
            by_cases fits : token.kind = kind
            · simp only [fits, if_true] at running
              obtain ⟨read, remaining, rfl, kinds, running⟩ := induction.mp running
              refine ⟨token :: read, remaining, rfl, ?_, running⟩
              rw [List.map_cons, fits, kinds]
            · simp only [fits, if_false] at running
              cases running
      · rintro ⟨read, rest, rfl, kinds, running⟩
        obtain ⟨token, remaining, rfl, fits, kinds⟩ := List.map_eq_cons_iff.mp kinds
        rw [List.cons_append, run, step]
        simp only [fits, if_true]
        exact induction.mpr ⟨remaining, rest, rfl, kinds, running⟩

theorem run_of_leadsTo {wanted : Wanted} {token : Token} {next : Reading}
    (leads : LeadsTo blocks wanted token next) (running : next.run tokens = .ok result) :
    (Reading.mk blocks [] wanted).run (token :: tokens) = .ok result := by
  rw [run, step]
  simp only [meet_eq_ok_iff.mpr leads]
  exact running

theorem exists_leadsTo_of_run_cons {wanted : Wanted} {token : Token}
    (running : (Reading.mk blocks [] wanted).run (token :: tokens) = .ok result) :
    ∃ next, LeadsTo blocks wanted token next ∧ next.run tokens = .ok result := by
  rw [run, step] at running
  cases met : (Reading.mk blocks [] wanted).meet token with
  | error problem =>
      simp only [met] at running
      cases running
  | ok next =>
      simp only [met] at running
      exact ⟨next, meet_eq_ok_iff.mp met, running⟩

/-- Unless a block may begin, the source goes on. -/
theorem exists_leadsTo_of_run {wanted : Wanted} (unfinished : wanted ≠ .block)
    (running : (Reading.mk blocks [] wanted).run tokens = .ok result) :
    ∃ token rest next, tokens = token :: rest ∧ LeadsTo blocks wanted token next ∧
      next.run rest = .ok result := by
  cases tokens with
  | nil =>
      have incomplete : (Reading.mk blocks [] wanted).isComplete = false := by
        cases wanted with
        | block => exact absurd rfl unfinished
        | _ => rfl
      rw [run, incomplete] at running
      cases running
  | cons token rest =>
      obtain ⟨next, leads, running⟩ := exists_leadsTo_of_run_cons running
      exact ⟨token, rest, next, rfl, leads, running⟩

variable {block : Block} {param : Param}

theorem run_moreValues_iff (values : List String) (tokens : List Token) :
    (Reading.mk blocks [] (.moreValues block { param with values := values })).run tokens =
        .ok result ↔
      ∃ read rest more, tokens = read ++ rest ∧ Many NextValueForm read more ∧
        ∃ close others, rest = close :: others ∧ close.kind = .rightParenthesis ∧
          (Reading.mk blocks [.rightBrace] (.moreParams { block with
            params := block.params ++ [{ param with values := values ++ more }] })).run
              others = .ok result := by
  apply loop_iff NextValueForm
    (fun values tokens => (Reading.mk blocks []
      (.moreValues block { param with values := values })).run tokens = .ok result)
    (fun values tokens => ∃ close others, tokens = close :: others ∧
      close.kind = .rightParenthesis ∧
      (Reading.mk blocks [.rightBrace] (.moreParams { block with
        params := block.params ++ [{ param with values := values }] })).run others =
          .ok result)
    NextValueForm.ne_nil
  intro values tokens
  constructor
  · intro running
    obtain ⟨token, rest, next, rfl, leads, running⟩ :=
      exists_leadsTo_of_run (by simp) running
    cases leads with
    | endValues close => exact .inl ⟨token, rest, rfl, close, running⟩
    | nextValue comma =>
        obtain ⟨item, others, next, rfl, leads, running⟩ :=
          exists_leadsTo_of_run (by simp) running
        cases leads with
        | value form => exact .inr ⟨[token, item], others, _, rfl, .mk comma form, running⟩
  · rintro (⟨close, others, rfl, kind, running⟩ | ⟨_, rest, value, rfl, form, running⟩)
    · exact run_of_leadsTo (.endValues kind) running
    · cases form with
      | mk kind form =>
          exact run_of_leadsTo (.nextValue kind) (run_of_leadsTo (.value form) running)

theorem run_value_iff {kind : ParamKind} {target : String} {start : Nat} :
    (Reading.mk blocks [] (.value block ⟨kind, target, [], start⟩)).run tokens =
        .ok result ↔
      ∃ read close rest values, tokens = read ++ close :: rest ∧ ValuesForm read values ∧
        close.kind = .rightParenthesis ∧
        (Reading.mk blocks [.rightBrace] (.moreParams { block with
          params := block.params ++ [⟨kind, target, values, start⟩] })).run rest =
            .ok result := by
  constructor
  · intro running
    obtain ⟨token, rest, _, rfl, leads, running⟩ := exists_leadsTo_of_run (by simp) running
    cases leads with
    | value form =>
        obtain ⟨items, _, more, rfl, many, close, rest, rfl, closeKind, running⟩ :=
          (run_moreValues_iff _ _).mp running
        exact ⟨token :: items, close, rest, _, rfl, .mk form many, closeKind, running⟩
  · rintro ⟨_, close, rest, _, rfl, ⟨form, many⟩, closeKind, running⟩
    apply run_of_leadsTo (.value form)
    apply (run_moreValues_iff _ _).mpr
    exact ⟨_, close :: rest, _, rfl, many, close, rest, rfl, closeKind, running⟩

/-- A run behind the brace of a param begins with the rest of the param. -/
theorem run_kind_iff {brace : Token} (opened : brace.kind = .leftBrace) :
    (Reading.mk blocks [.param] (.kind block brace.start)).run tokens = .ok result ↔
      ∃ read rest param, tokens = read ++ rest ∧ ParamForm (brace :: read) param ∧
        (Reading.mk blocks [] (.moreParams { block with
          params := block.params ++ [param] })).run rest = .ok result := by
  constructor
  · intro running
    obtain ⟨before, rest, rfl, beforeKinds, running⟩ := run_fixed_iff.mp running
    obtain ⟨word, rest, _, rfl, leads, running⟩ := exists_leadsTo_of_run (by simp) running
    cases leads with
    | kind wordKind spelled =>
        obtain ⟨between, rest, rfl, betweenKinds, running⟩ := run_fixed_iff.mp running
        obtain ⟨name, rest, _, rfl, leads, running⟩ :=
          exists_leadsTo_of_run (by simp) running
        cases leads with
        | target nameKind =>
            obtain ⟨behind, rest, rfl, behindKinds, running⟩ := run_fixed_iff.mp running
            obtain ⟨items, close, rest, values, rfl, form, closeKind, running⟩ :=
              run_value_iff.mp running
            obtain ⟨last, rest, rfl, lastKinds, finishing⟩ := run_fixed_iff.mp running
            simp only [List.map_eq_cons_iff, List.map_eq_nil_iff]
              at beforeKinds betweenKinds behindKinds lastKinds
            obtain ⟨param, _, rfl, paramKind, rfl⟩ := beforeKinds
            obtain ⟨colon, _, rfl, colonKind, rfl⟩ := betweenKinds
            obtain ⟨equals, _, rfl, equalsKind, parenthesis, _, rfl, parenthesisKind,
              val, _, rfl, valKind, rfl⟩ := behindKinds
            obtain ⟨ending, _, rfl, endingKind, rfl⟩ := lastKinds
            refine ⟨param :: word :: colon :: name :: equals :: parenthesis :: val ::
              (items ++ [close, ending]), rest, _, by simp, ?_, finishing⟩
            apply ParamForm.mk _ spelled form
            · simp only [List.map_cons, List.map_nil, closeKind, endingKind]
            · simp only [List.map_cons, List.map_nil, opened, paramKind, wordKind,
                colonKind, nameKind, equalsKind, parenthesisKind, valKind]
  · rintro ⟨read, rest, param, rfl, form, running⟩
    cases form with
    | @mk _ param word colon name equals parenthesis val close ending items kind values
        kinds spelled form closing =>
        simp only [List.map_cons, List.map_nil, List.cons.injEq, and_true] at kinds closing
        obtain ⟨_, paramKind, wordKind, colonKind, nameKind, equalsKind, parenthesisKind,
          valKind⟩ := kinds
        obtain ⟨closeKind, endingKind⟩ := closing
        refine run_fixed_iff.mpr ⟨[param], _, rfl, by simp [paramKind], ?_⟩
        apply run_of_leadsTo (.kind wordKind spelled)
        refine run_fixed_iff.mpr ⟨[colon], _, rfl, by simp [colonKind], ?_⟩
        apply run_of_leadsTo (.target nameKind)
        refine run_fixed_iff.mpr ⟨[equals, parenthesis, val], _, rfl,
          by simp [equalsKind, parenthesisKind, valKind], ?_⟩
        refine run_value_iff.mpr ⟨items, close, ending :: rest, values, by simp, form,
          closeKind, ?_⟩
        exact run_fixed_iff.mpr ⟨[ending], rest, rfl, by simp [endingKind], running⟩

theorem run_moreParams_iff {name : String} {start : Nat} (params : List Param)
    (tokens : List Token) :
    (Reading.mk blocks [] (.moreParams ⟨name, params, start⟩)).run tokens = .ok result ↔
      ∃ read rest more, tokens = read ++ rest ∧ Many ParamForm read more ∧
        ∃ close others, rest = close :: others ∧ close.kind = .rightBracket ∧
          (Reading.mk (blocks ++ [Block.mk name (params ++ more) start])
            [.greater, .less, .exec, .greater] .block).run others = .ok result := by
  apply loop_iff ParamForm
    (fun params tokens =>
      (Reading.mk blocks [] (.moreParams ⟨name, params, start⟩)).run tokens = .ok result)
    (fun params tokens => ∃ close others, tokens = close :: others ∧
      close.kind = .rightBracket ∧
      (Reading.mk (blocks ++ [Block.mk name params start])
        [.greater, .less, .exec, .greater] .block).run others = .ok result)
    ParamForm.ne_nil
  intro params tokens
  constructor
  · intro running
    obtain ⟨token, rest, _, rfl, leads, running⟩ := exists_leadsTo_of_run (by simp) running
    cases leads with
    | endParams close => exact .inl ⟨token, rest, rfl, close, running⟩
    | nextParam opened =>
        obtain ⟨read, rest, param, rfl, form, running⟩ := (run_kind_iff opened).mp running
        exact .inr ⟨token :: read, rest, param, rfl, form, running⟩
  · rintro (⟨close, others, rfl, kind, running⟩ | ⟨first, rest, param, rfl, form, running⟩)
    · exact run_of_leadsTo (.endParams kind) running
    · obtain ⟨brace, read, rfl⟩ := List.exists_cons_of_ne_nil form.ne_nil
      have opened := form.opened
      apply run_of_leadsTo (.nextParam opened)
      exact (run_kind_iff opened).mpr ⟨read, rest, param, rfl, form, running⟩

theorem run_param_iff {name : String} {start : Nat} :
    (Reading.mk blocks [] (.param ⟨name, [], start⟩)).run tokens = .ok result ↔
      ∃ read close rest params, tokens = read ++ close :: rest ∧
        Many ParamForm read params ∧ params ≠ [] ∧ close.kind = .rightBracket ∧
        (Reading.mk (blocks ++ [Block.mk name params start])
          [.greater, .less, .exec, .greater] .block).run rest = .ok result := by
  constructor
  · intro running
    obtain ⟨brace, rest, _, rfl, leads, running⟩ := exists_leadsTo_of_run (by simp) running
    cases leads with
    | param opened =>
        obtain ⟨read, rest, param, rfl, form, running⟩ := (run_kind_iff opened).mp running
        obtain ⟨others, _, more, rfl, many, close, rest, rfl, closeKind, running⟩ :=
          (run_moreParams_iff _ _).mp running
        refine ⟨brace :: read ++ others, close, rest, param :: more, by simp,
          .cons form many, List.cons_ne_nil _ _, closeKind, running⟩
  · rintro ⟨read, close, rest, params, rfl, many, present, closeKind, running⟩
    cases many with
    | nil => exact absurd rfl present
    | @cons first others param more form many =>
        obtain ⟨brace, read, rfl⟩ := List.exists_cons_of_ne_nil form.ne_nil
        have opened := form.opened
        rw [List.cons_append, List.cons_append]
        apply run_of_leadsTo (.param opened)
        refine (run_kind_iff opened).mpr
          ⟨read, others ++ close :: rest, param, by simp, form, ?_⟩
        exact (run_moreParams_iff _ _).mpr
          ⟨others, close :: rest, more, rfl, many, close, rest, rfl, closeKind, running⟩

/-- A run behind the mark that opens a block begins with the rest of the block. -/
theorem run_name_iff {less : Token} (opened : less.kind = .less) :
    (Reading.mk blocks [.hunt] (.name less.start)).run tokens = .ok result ↔
      ∃ read rest block, tokens = read ++ rest ∧ BlockForm (less :: read) block ∧
        (Reading.mk (blocks ++ [block]) [] .block).run rest = .ok result := by
  constructor
  · intro running
    obtain ⟨before, rest, rfl, beforeKinds, running⟩ := run_fixed_iff.mp running
    obtain ⟨name, rest, _, rfl, leads, running⟩ := exists_leadsTo_of_run (by simp) running
    cases leads with
    | name nameKind =>
        obtain ⟨between, rest, rfl, betweenKinds, running⟩ := run_fixed_iff.mp running
        obtain ⟨items, close, rest, params, rfl, many, present, closeKind, running⟩ :=
          run_param_iff.mp running
        obtain ⟨last, rest, rfl, lastKinds, finishing⟩ := run_fixed_iff.mp running
        simp only [List.map_eq_cons_iff, List.map_eq_nil_iff]
          at beforeKinds betweenKinds lastKinds
        obtain ⟨hunt, _, rfl, huntKind, rfl⟩ := beforeKinds
        obtain ⟨colon, _, rfl, colonKind, bracket, _, rfl, bracketKind, init, _, rfl,
          initKind, gather, _, rfl, gatherKind, equals, _, rfl, equalsKind, rfl⟩ :=
            betweenKinds
        obtain ⟨greater, _, rfl, greaterKind, again, _, rfl, againKind, exec, _, rfl,
          execKind, ending, _, rfl, endingKind, rfl⟩ := lastKinds
        refine ⟨hunt :: name :: colon :: bracket :: init :: gather :: equals ::
          (items ++ [close, greater, again, exec, ending]), rest, _, by simp, ?_, finishing⟩
        apply BlockForm.mk _ many present
        · simp only [List.map_cons, List.map_nil, closeKind, greaterKind, againKind,
            execKind, endingKind]
        · simp only [List.map_cons, List.map_nil, opened, huntKind, nameKind, colonKind,
            bracketKind, initKind, gatherKind, equalsKind]
  · rintro ⟨read, rest, block, rfl, form, running⟩
    cases form with
    | @mk _ hunt name colon bracket init gather equals close greater again exec ending
        items params kinds many present closing =>
        simp only [List.map_cons, List.map_nil, List.cons.injEq, and_true] at kinds closing
        obtain ⟨_, huntKind, nameKind, colonKind, bracketKind, initKind, gatherKind,
          equalsKind⟩ := kinds
        obtain ⟨closeKind, greaterKind, againKind, execKind, endingKind⟩ := closing
        refine run_fixed_iff.mpr ⟨[hunt], _, rfl, by simp [huntKind], ?_⟩
        apply run_of_leadsTo (.name nameKind)
        refine run_fixed_iff.mpr ⟨[colon, bracket, init, gather, equals], _, rfl,
          by simp [colonKind, bracketKind, initKind, gatherKind, equalsKind], ?_⟩
        refine run_param_iff.mpr ⟨items, close, greater :: again :: exec :: ending :: rest,
          params, by simp, many, present, closeKind, ?_⟩
        exact run_fixed_iff.mpr ⟨[greater, again, exec, ending], rest, rfl,
          by simp [greaterKind, againKind, execKind, endingKind], running⟩

theorem run_block_iff (blocks : List Block) (tokens : List Token) :
    (Reading.mk blocks [] .block).run tokens = .ok result ↔
      ∃ read rest more, tokens = read ++ rest ∧ Many BlockForm read more ∧
        rest = [] ∧ blocks ++ more = result := by
  apply loop_iff BlockForm
    (fun blocks tokens => (Reading.mk blocks [] .block).run tokens = .ok result)
    (fun blocks tokens => tokens = [] ∧ blocks = result)
    BlockForm.ne_nil
  intro blocks tokens
  constructor
  · intro running
    cases tokens with
    | nil => exact .inl ⟨rfl, Except.ok.inj running⟩
    | cons token rest =>
        obtain ⟨_, leads, running⟩ := exists_leadsTo_of_run_cons running
        cases leads with
        | begin opened =>
            obtain ⟨read, rest, block, rfl, form, running⟩ :=
              (run_name_iff opened).mp running
            exact .inr ⟨token :: read, rest, block, rfl, form, running⟩
  · rintro (⟨rfl, rfl⟩ | ⟨first, rest, block, rfl, form, running⟩)
    · rfl
    · obtain ⟨less, read, rfl⟩ := List.exists_cons_of_ne_nil form.ne_nil
      have opened := form.opened
      apply run_of_leadsTo (.begin opened)
      exact (run_name_iff opened).mpr ⟨read, rest, block, rfl, form, running⟩

end

/-- A run takes one step for each token. -/
theorem run_eq_ok_iff {reading : Reading} {tokens : List Token} {result : List Block} :
    reading.run tokens = .ok result ↔
      ∃ last, tokens.foldlM step reading = .ok last ∧ last.isComplete = true ∧
        last.blocks = result := by
  induction tokens generalizing reading with
  | nil =>
      rw [run, List.foldlM_nil]
      by_cases complete : reading.isComplete = true
      · rw [if_pos complete]
        constructor
        · intro same
          exact ⟨reading, rfl, complete, Except.ok.inj same⟩
        · rintro ⟨last, same, _, rfl⟩
          cases same
          rfl
      · rw [if_neg complete]
        constructor
        · intro failed
          cases failed
        · rintro ⟨last, same, completeToo, _⟩
          cases same
          exact absurd completeToo complete
  | cons token rest induction =>
      rw [run, List.foldlM_cons]
      cases reading.step token with
      | error problem =>
          constructor
          · intro failed
            cases failed
          · rintro ⟨last, failed, _⟩
            cases failed
      | ok next => exact induction

end Reading

theorem readBlocks_iff_sourceForm {tokens : List Token} {blocks : List Block} :
    readBlocks tokens = .ok blocks ↔ SourceForm tokens blocks := by
  cases tokens with
  | nil =>
      constructor
      · intro failed
        cases failed
      · intro form
        exact absurd rfl form.ne_nil
  | cons token rest =>
      have running : readBlocks (token :: rest) = .ok blocks ↔ _ :=
        Reading.run_block_iff [] (token :: rest)
      constructor
      · intro accepted
        obtain ⟨read, _, more, same, many, rfl, rfl⟩ := running.mp accepted
        rw [List.append_nil] at same
        subst same
        refine ⟨many, ?_⟩
        rintro rfl
        exact List.cons_ne_nil _ _ many.eq_nil
      · intro form
        exact running.mpr ⟨token :: rest, [], blocks, by simp, form.many, rfl, rfl⟩

/-- Exactly the tokens that have the form of a source are accepted, and they yield the
blocks that the form stands for.  Each token is then read once, from the first one to
the last one, behind which the reading is complete. -/
theorem readBlocks_eq_ok_iff (tokens : List Token) (blocks : List Block) :
    (readBlocks tokens = .ok blocks ↔ SourceForm tokens blocks) ∧
      (readBlocks tokens = .ok blocks ↔
        tokens ≠ [] ∧ ∃ last, tokens.foldlM Reading.step {} = .ok last ∧
          last.isComplete = true ∧ last.blocks = blocks) := by
  refine ⟨readBlocks_iff_sourceForm, ?_⟩
  cases tokens with
  | nil =>
      constructor
      · intro failed
        cases failed
      · rintro ⟨present, _⟩
        exact absurd rfl present
  | cons token rest =>
      constructor
      · intro accepted
        exact ⟨List.cons_ne_nil _ _, Reading.run_eq_ok_iff.mp accepted⟩
      · rintro ⟨_, reached⟩
        exact Reading.run_eq_ok_iff.mpr reached

end ScreenSight.Hunt
