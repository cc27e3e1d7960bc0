import ScreenSight.Proofs.Hunt.Grammar
import ScreenSight.Proofs.Hunt.Lexer

/-!
# Writing blocks

Blocks are written as the pieces that the grammar demands, with every value in double
quotes, and typeset with any spacing.  What was written is what is read.  Only the
places of blocks and params depend on the spacing.
-/

namespace ScreenSight.Hunt

/-! ## The pieces of blocks -/

def nextValuePieces (value : String) : List Piece :=
  [⟨.comma, ","⟩, ⟨.quoted, quote value⟩]

def valuePieces : List String → List Piece
  | [] => []
  | value :: values => ⟨.quoted, quote value⟩ :: values.flatMap nextValuePieces

def Param.pieces (param : Param) : List Piece :=
  [⟨.leftBrace, "\x7b"⟩, ⟨.param, "param"⟩, ⟨.identifier, param.kind.name⟩, ⟨.colon, ":"⟩,
    ⟨.identifier, param.target⟩, ⟨.equals, "="⟩, ⟨.leftParenthesis, "("⟩, ⟨.val, "val"⟩] ++
    (valuePieces param.values ++ [⟨.rightParenthesis, ")"⟩, ⟨.rightBrace, "\x7d"⟩])

def Block.pieces (block : Block) : List Piece :=
  [⟨.less, "<"⟩, ⟨.hunt, "hunt"⟩, ⟨.identifier, block.name⟩, ⟨.colon, ":"⟩,
    ⟨.leftBracket, "["⟩, ⟨.init, "INIT"⟩, ⟨.gather, "GATHER"⟩, ⟨.equals, "="⟩] ++
    (block.params.flatMap Param.pieces ++
      [⟨.rightBracket, "]"⟩, ⟨.greater, ">"⟩, ⟨.less, "<"⟩, ⟨.exec, "EXEC"⟩, ⟨.greater, ">"⟩])

/-- A param that has a spelling. -/
structure Param.Writable (param : Param) : Prop where
  target : IsIdentifier param.target
  values : param.values ≠ []

/-- A block that has a spelling. -/
structure Block.Writable (block : Block) : Prop where
  name : IsIdentifier block.name
  params : block.params ≠ []
  writable : ∀ param ∈ block.params, param.Writable

/-- A source that some blocks are written as. -/
def Written (blocks : List Block) (source : String) : Prop :=
  ∃ gap text, Spacing gap ∧ Typeset (blocks.flatMap Block.pieces) text ∧
    source.toList = gap ++ text

/-- A param without its place. -/
def Param.unplaced (param : Param) : Param :=
  { param with start := 0 }

/-- A block without its place and those of its params. -/
def Block.unplaced (block : Block) : Block :=
  ⟨block.name, block.params.map Param.unplaced, 0⟩

/-! ## Spellings -/

theorem spells_word {kind : TokenKind} (text : String) (named : TokenKind.ofWord text = kind)
    (starts : text.toList.head?.any startsWord = true)
    (continues : text.toList.all continuesWord = true) : Spells kind text.toList := by
  rw [List.all_eq_true] at continues
  rw [← named, ← String.ofList_toList (s := text), String.toList_ofList]
  cases characters : text.toList with
  | nil =>
      rw [characters] at starts
      cases starts
  | cons first rest =>
      rw [characters] at starts continues
      apply Spells.word starts
      intro c member
      exact continues c (List.mem_cons_of_mem first member)

theorem spells_quote (value : String) : Spells .quoted (quote value).toList := by
  rw [quote, String.toList_ofList]
  exact .quoted value.toList

/-- Pieces that are tokens of their kinds. -/
def Spelled (pieces : List Piece) : Prop :=
  ∀ piece ∈ pieces, Spells piece.kind piece.text.toList

theorem spelled_nil : Spelled [] := by
  intro piece member
  cases member

theorem Spelled.cons {piece : Piece} {pieces : List Piece}
    (spells : Spells piece.kind piece.text.toList) (spelled : Spelled pieces) :
    Spelled (piece :: pieces) := by
  intro other member
  rcases List.mem_cons.mp member with rfl | later
  · exact spells
  · exact spelled other later

theorem Spelled.append {first second : List Piece} (early : Spelled first)
    (late : Spelled second) : Spelled (first ++ second) := by
  intro piece member
  rcases List.mem_append.mp member with member | member
  · exact early piece member
  · exact late piece member

theorem spelled_flatMap {α : Type} {pieces : α → List Piece} {items : List α}
    (each : ∀ item ∈ items, Spelled (pieces item)) : Spelled (items.flatMap pieces) := by
  intro piece member
  obtain ⟨item, present, member⟩ := List.mem_flatMap.mp member
  exact each item present piece member

theorem spelled_values (values : List String) : Spelled (valuePieces values) := by
  cases values with
  | nil => exact spelled_nil
  | cons value values =>
      apply Spelled.cons (spells_quote value)
      apply spelled_flatMap
      intro value _
      exact .cons (.mark rfl) (.cons (spells_quote value) spelled_nil)

theorem Param.Writable.spelled {param : Param} (writable : param.Writable) :
    Spelled param.pieces := by
  have word : Spells .param "param".toList :=
    spells_word "param" rfl (by decide) (by decide)
  have kind : Spells .identifier param.kind.name.toList := by
    cases param.kind with
    | tag => exact spells_word "tag" rfl (by decide) (by decide)
    | pluck => exact spells_word "pluck" rfl (by decide) (by decide)
    | link => exact spells_word "link" rfl (by decide) (by decide)
  have target := isIdentifier_iff.mp writable.target
  have val : Spells .val "val".toList := spells_word "val" rfl (by decide) (by decide)
  apply Spelled.append
  · exact .cons (.mark rfl) (.cons word (.cons kind (.cons (.mark rfl) (.cons target
      (.cons (.mark rfl) (.cons (.mark rfl) (.cons val spelled_nil)))))))
  · apply Spelled.append (spelled_values param.values)
    exact .cons (.mark rfl) (.cons (.mark rfl) spelled_nil)

theorem Block.Writable.spelled {block : Block} (writable : block.Writable) :
    Spelled block.pieces := by
  have hunt : Spells .hunt "hunt".toList := spells_word "hunt" rfl (by decide) (by decide)
  have name := isIdentifier_iff.mp writable.name
  have init : Spells .init "INIT".toList := spells_word "INIT" rfl (by decide) (by decide)
  have gather : Spells .gather "GATHER".toList :=
    spells_word "GATHER" rfl (by decide) (by decide)
  have exec : Spells .exec "EXEC".toList := spells_word "EXEC" rfl (by decide) (by decide)
  apply Spelled.append
  · exact .cons (.mark rfl) (.cons hunt (.cons name (.cons (.mark rfl) (.cons (.mark rfl)
      (.cons init (.cons gather (.cons (.mark rfl) spelled_nil)))))))
  · apply Spelled.append
    · apply spelled_flatMap
      intro param member
      exact (writable.writable param member).spelled
    · exact .cons (.mark rfl) (.cons (.mark rfl) (.cons (.mark rfl) (.cons exec
        (.cons (.mark rfl) spelled_nil))))

/-! ## Forms -/

theorem many_of_pieces {α : Type} {form : List Token → α → Prop} {pieces : α → List Piece}
    {erase : α → α} {items : List α}
    (each : ∀ item ∈ items, ∀ tokens : List Token, tokens.map Token.piece = pieces item →
      ∃ read, form tokens read ∧ erase read = erase item)
    {tokens : List Token} (spelled : tokens.map Token.piece = items.flatMap pieces) :
    ∃ reads, Many form tokens reads ∧ reads.map erase = items.map erase := by
  induction items generalizing tokens with
  | nil =>
      rw [List.flatMap_nil, List.map_eq_nil_iff] at spelled
      subst spelled
      exact ⟨[], .nil, rfl⟩
  | cons item items induction =>
      rw [List.flatMap_cons] at spelled
      obtain ⟨first, rest, rfl, firstSpelled, restSpelled⟩ := List.map_eq_append_iff.mp spelled
      obtain ⟨read, form, same⟩ := each item List.mem_cons_self first firstSpelled
      obtain ⟨reads, many, others⟩ := induction
        (fun other member => each other (List.mem_cons_of_mem item member)) restSpelled
      refine ⟨read :: reads, .cons form many, ?_⟩
      rw [List.map_cons, List.map_cons, same, others]

theorem valueForm_of_piece {token : Token} {value : String}
    (spelled : token.piece = ⟨.quoted, quote value⟩) : ValueForm token value := by
  obtain ⟨kind, text⟩ := Piece.mk.inj spelled
  have form := ValueForm.quoted kind
  rw [text, unquote_quote] at form
  exact form

theorem valuesForm_of_pieces {tokens : List Token} {values : List String}
    (present : values ≠ []) (spelled : tokens.map Token.piece = valuePieces values) :
    ValuesForm tokens values := by
  cases values with
  | nil => exact absurd rfl present
  | cons value values =>
      obtain ⟨token, rest, rfl, tokenSpelled, restSpelled⟩ := List.map_eq_cons_iff.mp spelled
      have next : ∀ value ∈ values, ∀ tokens : List Token,
          tokens.map Token.piece = nextValuePieces value →
          ∃ read, NextValueForm tokens read ∧ id read = id value := by
        intro value _ tokens spelled
        obtain ⟨comma, _, rfl, commaSpelled, spelled⟩ := List.map_eq_cons_iff.mp spelled
        obtain ⟨token, _, rfl, tokenSpelled, spelled⟩ := List.map_eq_cons_iff.mp spelled
        cases List.map_eq_nil_iff.mp spelled
        have kind := (Piece.mk.inj commaSpelled).1
        exact ⟨value, .mk kind (valueForm_of_piece tokenSpelled), rfl⟩
      obtain ⟨reads, many, same⟩ := many_of_pieces next restSpelled
      rw [List.map_id, List.map_id] at same
      rw [← same]
      exact .mk (valueForm_of_piece tokenSpelled) many

theorem kinds_of_pieces {tokens : List Token} {pieces : List Piece}
    (spelled : tokens.map Token.piece = pieces) :
    tokens.map Token.kind = pieces.map Piece.kind := by
  rw [← spelled, List.map_map]
  rfl

theorem paramForm_of_pieces {param : Param} (present : param.values ≠ [])
    {tokens : List Token} (spelled : tokens.map Token.piece = param.pieces) :
    ∃ read, ParamForm tokens read ∧ read.unplaced = param.unplaced := by
  obtain ⟨opening, others, rfl, openingSpelled, spelled⟩ := List.map_eq_append_iff.mp spelled
  obtain ⟨items, closing, rfl, itemsSpelled, closingSpelled⟩ :=
    List.map_eq_append_iff.mp spelled
  have openingKinds := kinds_of_pieces openingSpelled
  have closingKinds := kinds_of_pieces closingSpelled
  simp only [List.map_eq_cons_iff, List.map_eq_nil_iff] at openingSpelled closingSpelled
  obtain ⟨brace, _, rfl, _, word, _, rfl, _, kind, _, rfl, kindSpelled, colon, _, rfl, _,
    target, _, rfl, targetSpelled, equals, _, rfl, _, parenthesis, _, rfl, _, val, _, rfl, _,
    rfl⟩ := openingSpelled
  obtain ⟨close, _, rfl, _, ending, _, rfl, _, rfl⟩ := closingSpelled
  have form := valuesForm_of_pieces present itemsSpelled
  refine ⟨_, .mk openingKinds (Piece.mk.inj kindSpelled).2 form closingKinds, ?_⟩
  rw [Param.unplaced, (Piece.mk.inj targetSpelled).2, Param.unplaced]

theorem blockForm_of_pieces {block : Block} (writable : block.Writable)
    {tokens : List Token} (spelled : tokens.map Token.piece = block.pieces) :
    ∃ read, BlockForm tokens read ∧ read.unplaced = block.unplaced := by
  obtain ⟨opening, others, rfl, openingSpelled, spelled⟩ := List.map_eq_append_iff.mp spelled
  obtain ⟨items, closing, rfl, itemsSpelled, closingSpelled⟩ :=
    List.map_eq_append_iff.mp spelled
  have openingKinds := kinds_of_pieces openingSpelled
  have closingKinds := kinds_of_pieces closingSpelled
  simp only [List.map_eq_cons_iff, List.map_eq_nil_iff] at openingSpelled closingSpelled
  obtain ⟨less, _, rfl, _, hunt, _, rfl, _, name, _, rfl, nameSpelled, colon, _, rfl, _,
    bracket, _, rfl, _, init, _, rfl, _, gather, _, rfl, _, equals, _, rfl, _, rfl⟩ :=
      openingSpelled
  obtain ⟨close, _, rfl, _, greater, _, rfl, _, again, _, rfl, _, exec, _, rfl, _, ending, _,
    rfl, _, rfl⟩ := closingSpelled
  obtain ⟨params, many, same⟩ := many_of_pieces
    (fun param member _ spelled =>
      paramForm_of_pieces (writable.writable param member).values spelled) itemsSpelled
  have present : params ≠ [] := by
    rintro rfl
    exact writable.params (List.map_eq_nil_iff.mp same.symm)
  refine ⟨_, .mk openingKinds many present closingKinds, ?_⟩
  rw [Block.unplaced, (Piece.mk.inj nameSpelled).2, same, Block.unplaced]

theorem sourceForm_of_pieces {blocks : List Block} (present : blocks ≠ [])
    (writable : ∀ block ∈ blocks, block.Writable) {tokens : List Token}
    (spelled : tokens.map Token.piece = blocks.flatMap Block.pieces) :
    ∃ read, SourceForm tokens read ∧ read.map Block.unplaced = blocks.map Block.unplaced := by
  obtain ⟨read, many, same⟩ := many_of_pieces
    (fun block member _ spelled => blockForm_of_pieces (writable block member) spelled) spelled
  refine ⟨read, ⟨many, ?_⟩, same⟩
  rintro rfl
  exact present (List.map_eq_nil_iff.mp same.symm)

/-! ## Written sources -/

/-- Pieces with the same gap behind each of them. -/
def spaced (gap : List Char) : List Piece → List Char
  | [] => []
  | piece :: pieces => piece.text.toList ++ (gap ++ spaced gap pieces)

theorem typeset_spaced {gap : List Char} (spacing : Spacing gap) (present : gap ≠ [])
    (piece : Piece) (pieces : List Piece) :
    Typeset (piece :: pieces) (spaced gap (piece :: pieces)) := by
  induction pieces generalizing piece with
  | nil =>
      rw [spaced, spaced, List.append_nil]
      exact .last (.spacing spacing)
  | cons next pieces induction =>
      exact .cons spacing (fun _ _ => present) (induction next)

theorem exists_written {blocks : List Block} (present : blocks ≠ []) :
    ∃ source, Written blocks source := by
  have blank : Spacing [' '] := .layout rfl .nil
  obtain ⟨block, others, rfl⟩ := List.exists_cons_of_ne_nil present
  refine ⟨String.ofList (spaced [' '] ((block :: others).flatMap Block.pieces)), [], _, .nil,
    typeset_spaced blank (List.cons_ne_nil _ _) _ _, ?_⟩
  exact String.toList_ofList

/-- Whatever the spacing of a source, the blocks that it was written for are read. -/
theorem readSource_written {blocks : List Block} {source : String} (present : blocks ≠ [])
    (writable : ∀ block ∈ blocks, block.Writable) (written : Written blocks source) :
    ∃ read, readSource source = .ok read ∧
      read.map Block.unplaced = blocks.map Block.unplaced := by
  obtain ⟨gap, text, spacing, typeset, same⟩ := written
  have spelled : Spelled (blocks.flatMap Block.pieces) := by
    apply spelled_flatMap
    intro block member
    exact (writable block member).spelled
  have reads : Reads source.toList (blocks.flatMap Block.pieces) := by
    rw [same]
    exact .spacing spacing (typeset.reads spelled)
  obtain ⟨tokens, lexed, pieces⟩ := reads 0
  obtain ⟨read, form, matching⟩ := sourceForm_of_pieces present writable pieces
  refine ⟨read, ?_, matching⟩
  have accepted := readBlocks_iff_sourceForm.mpr form
  have blocksRead : blocksOf source = .ok read := by
    rw [blocksOf, Hunt.tokens, lexed]
    exact accepted
  rw [readSource, blocksRead]

/-- A block whose values hold the marks of the language. -/
def marked : Block :=
  ⟨"box", [⟨.tag, "panel", ["#", "\"[X]\"\\\n"], 0⟩, ⟨.link, "next-to", ["*"], 0⟩], 0⟩

/-- The block behind a comment. -/
def markedSource : String :=
  "# Boxes.\n< hunt box : [ INIT GATHER = " ++
    "\x7b param tag : panel = ( val \"#\" , \"\\\"[X]\\\"\\\\\n\" ) \x7d " ++
    "\x7b param link : next-to = ( val \"*\" ) \x7d ] > < EXEC > "

theorem marked_writable : marked.Writable := by
  have name : IsIdentifier marked.name :=
    isIdentifier_iff.mpr (spells_word "box" rfl (by decide) (by decide))
  have panel : IsIdentifier "panel" :=
    isIdentifier_iff.mpr (spells_word "panel" rfl (by decide) (by decide))
  have nextTo : IsIdentifier "next-to" :=
    isIdentifier_iff.mpr (spells_word "next-to" rfl (by decide) (by decide))
  refine ⟨name, List.cons_ne_nil _ _, ?_⟩
  intro param member
  rcases List.mem_cons.mp member with rfl | member
  · exact ⟨panel, List.cons_ne_nil _ _⟩
  · rw [List.mem_singleton.mp member]
    exact ⟨nextTo, List.cons_ne_nil _ _⟩

theorem written_marked : Written [marked] markedSource := by
  have line : '\n' ∉ " Boxes.".toList := by decide
  have comment : Spacing "# Boxes.\n".toList := .comment line .nil
  have blank : Spacing [' '] := .layout rfl .nil
  refine ⟨_, _, comment, typeset_spaced blank (List.cons_ne_nil _ _) _ _, ?_⟩
  decide +kernel

theorem readSource_written_marked :
    [marked] ≠ [] ∧ (∀ block ∈ [marked], block.Writable) ∧ Written [marked] markedSource ∧
      ∃ read, readSource markedSource = .ok read ∧
        read.map Block.unplaced = [marked].map Block.unplaced := by
  have present : [marked] ≠ [] := List.cons_ne_nil _ _
  have writable : ∀ block ∈ [marked], block.Writable := by
    intro block member
    rw [List.mem_singleton.mp member]
    exact marked_writable
  exact ⟨present, writable, written_marked,
    readSource_written present writable written_marked⟩

end ScreenSight.Hunt
