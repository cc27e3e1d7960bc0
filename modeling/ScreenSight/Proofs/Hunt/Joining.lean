import ScreenSight.Proofs.Hunt.Break
import ScreenSight.Proofs.Hunt.Grammar
import ScreenSight.Proofs.Hunt.Interpreter
import ScreenSight.Proofs.Hunt.LineTable
import ScreenSight.Proofs.Hunt.Lines

/-!
# Sources in one

Two sources with a line break between them make up one source.  It declares what
the two declare one after the other, and only the places in the second one are
further on: its tokens and blocks by bytes, and the lines of its patterns by lines.
-/

namespace ScreenSight.Hunt

theorem toList_joined (first second : String) :
    (first ++ "\n" ++ second).toList = first.toList ++ '\n' :: second.toList := by
  rw [String.toList_append, String.toList_append, List.append_assoc]
  rfl

/-! ## Forms -/

/-- The same param further on in a source. -/
def Param.shift (distance : Nat) (param : Param) : Param :=
  { param with start := param.start + distance }

/-- The same block further on in a source. -/
def Block.shift (distance : Nat) (block : Block) : Block :=
  { block with
    params := block.params.map (Param.shift distance)
    start := block.start + distance }

theorem Block.shift_zero (block : Block) : block.shift 0 = block := by
  have same : block.params.map (Param.shift 0) = block.params := List.map_id block.params
  rw [Block.shift, same]
  rfl

theorem Many.append {α : Type} {form : List Token → α → Prop} {first second : List Token}
    {items others : List α} (many : Many form first items) (more : Many form second others) :
    Many form (first ++ second) (items ++ others) := by
  induction many with
  | nil => exact more
  | cons read _ induction =>
      rw [List.append_assoc]
      exact .cons read induction

theorem Many.map {α : Type} {form : List Token → α → Prop} {tokens : List Token}
    {items : List α} (many : Many form tokens items) {move : Token → Token} (change : α → α)
    (each : ∀ {tokens item}, form tokens item → form (tokens.map move) (change item)) :
    Many form (tokens.map move) (items.map change) := by
  induction many with
  | nil => exact .nil
  | cons read _ induction =>
      rw [List.map_append]
      exact .cons (each read) induction

theorem Many.exists_of_mem {α : Type} {form : List Token → α → Prop} {tokens : List Token}
    {items : List α} (many : Many form tokens items) {item : α} (member : item ∈ items) :
    ∃ part, part ⊆ tokens ∧ form part item := by
  induction many with
  | nil => cases member
  | @cons first rest _ _ read _ induction =>
      cases List.mem_cons.mp member with
      | inl same => exact ⟨first, List.subset_append_left first rest, same ▸ read⟩
      | inr later =>
          obtain ⟨part, inside, form⟩ := induction later
          exact ⟨part, List.subset_append_of_subset_right first inside, form⟩

section

variable (distance : Nat)

theorem ValueForm.shift {token : Token} {value : String} (form : ValueForm token value) :
    ValueForm (token.shift distance) value := by
  cases form with
  | quoted kind => exact .quoted kind
  | word kind => exact .word kind
  | number kind => exact .number kind
  | star kind => exact .star kind

theorem NextValueForm.shift {tokens : List Token} {value : String}
    (form : NextValueForm tokens value) :
    NextValueForm (tokens.map (Token.shift distance)) value := by
  cases form with
  | mk kind form => exact .mk kind (form.shift distance)

theorem ValuesForm.shift {tokens : List Token} {values : List String}
    (form : ValuesForm tokens values) :
    ValuesForm (tokens.map (Token.shift distance)) values := by
  cases form with
  | mk form many =>
      have shifted := many.map id (NextValueForm.shift distance)
      rw [List.map_id] at shifted
      exact .mk (form.shift distance) shifted

theorem ParamForm.shift {tokens : List Token} {param : Param} (form : ParamForm tokens param) :
    ParamForm (tokens.map (Token.shift distance)) (param.shift distance) := by
  cases form with
  | mk kinds spelled values closing =>
      simp only [List.map_cons, List.map_append, List.map_nil]
      exact .mk kinds spelled (values.shift distance) closing

theorem BlockForm.shift {tokens : List Token} {block : Block} (form : BlockForm tokens block) :
    BlockForm (tokens.map (Token.shift distance)) (block.shift distance) := by
  cases form with
  | mk kinds many present closing =>
      simp only [List.map_cons, List.map_append, List.map_nil]
      exact .mk kinds (many.map (Param.shift distance) (ParamForm.shift distance))
        (List.map_eq_nil_iff.not.mpr present) closing

theorem SourceForm.shift {tokens : List Token} {blocks : List Block}
    (form : SourceForm tokens blocks) :
    SourceForm (tokens.map (Token.shift distance)) (blocks.map (Block.shift distance)) where
  many := form.many.map (Block.shift distance) (BlockForm.shift distance)
  present := List.map_eq_nil_iff.not.mpr form.present

end

theorem SourceForm.append {first second : List Token} {blocks others : List Block}
    (form : SourceForm first blocks) (behind : SourceForm second others) :
    SourceForm (first ++ second) (blocks ++ others) where
  many := form.many.append behind.many
  present := List.append_ne_nil_of_left_ne_nil form.present others

theorem SourceForm.exists_start {tokens : List Token} {blocks : List Block}
    (form : SourceForm tokens blocks) {block : Block} (member : block ∈ blocks) :
    ∃ token ∈ tokens, token.start = block.start := by
  obtain ⟨part, inside, form⟩ := form.many.exists_of_mem member
  cases form with
  | mk => exact ⟨_, inside List.mem_cons_self, rfl⟩

/-! ## Blocks -/

theorem readSource_eq_ok_iff {source : String} {blocks : List Block} :
    readSource source = .ok blocks ↔
      ∃ read, Lexed 0 source.toList read ∧ SourceForm read blocks := by
  simp only [← tokensFrom_eq_ok_iff, ← readBlocks_iff_sourceForm]
  rw [readSource, blocksOf, tokens]
  cases tokensFrom 0 source.toList with
  | error stray => simp
  | ok read =>
      cases readSide : readBlocks read with
      | error problem => simp [readSide]
      | ok found => simp [readSide]

theorem start_le_of_readSource {source : String} {blocks : List Block}
    (accepted : readSource source = .ok blocks) {block : Block} (member : block ∈ blocks) :
    block.start ≤ byteSize source.toList := by
  obtain ⟨read, lexed, form⟩ := readSource_eq_ok_iff.mp accepted
  obtain ⟨token, present, same⟩ := form.exists_start member
  have within := lexed.start_le token present
  rw [same, Nat.zero_add] at within
  exact within

variable {first second : String}

theorem readSource_joined {blocks others : List Block}
    (firstRead : readSource first = .ok blocks) (secondRead : readSource second = .ok others) :
    readSource (first ++ "\n" ++ second) =
      .ok (blocks ++ others.map (Block.shift (byteSize first.toList + 1))) := by
  obtain ⟨read, lexed, form⟩ := readSource_eq_ok_iff.mp firstRead
  obtain ⟨more, lexedToo, formToo⟩ := readSource_eq_ok_iff.mp secondRead
  have joined := lexed.join (lexedToo.shift (byteSize first.toList + 1))
  rw [← toList_joined] at joined
  exact readSource_eq_ok_iff.mpr ⟨_, joined, form.append (formToo.shift _)⟩

/-! ## Lines -/

theorem positionAt_joined {offset : Nat} (within : offset ≤ byteSize first.toList)
    (second : String) :
    positionAt (first ++ "\n" ++ second) offset = positionAt first offset := by
  rw [positionAt_eq_advance, positionAt_eq_advance, toList_joined,
    Position.advance_append_left within]

theorem line_positionAt_joined (first second : String) (offset : Nat) :
    (positionAt (first ++ "\n" ++ second) (offset + (byteSize first.toList + 1))).line =
      (positionAt second offset).line + (first.toList.count '\n' + 1) := by
  have whole : (first ++ "\n" ++ second).toList = (first.toList ++ ['\n']) ++ second.toList := by
    rw [toList_joined, List.append_assoc]
    rfl
  have size : byteSize (first.toList ++ ['\n']) = byteSize first.toList + 1 :=
    byteSize_append first.toList ['\n']
  have below : (Position.after ⟨1, 1⟩ (first.toList ++ ['\n'])).line =
      1 + (first.toList.count '\n' + 1) := by
    rw [Position.line_after, List.count_append, List.count_singleton_self]
  rw [positionAt_eq_advance, positionAt_eq_advance, whole, ← size, Nat.add_comm offset,
    Position.advance_append_right]
  exact Position.line_advance below offset second.toList

/-! ## Patterns -/

theorem Rule.ofParam_shift {source : String} {param : Param} {rule : Rule}
    (declared : Rule.ofParam source param = .ok rule) (other : String) (distance : Nat) :
    Rule.ofParam other (param.shift distance) = .ok rule := by
  obtain ⟨kind, target, values, start⟩ := param
  cases kind with
  | tag => exact declared
  | pluck => exact declared
  | link =>
      simp only [Rule.ofParam, Param.shift] at declared ⊢
      cases ruled : LinkRule.ofValues target values with
      | ok link =>
          rw [ruled] at declared
          exact declared
      | error problem =>
          rw [ruled] at declared
          cases declared

namespace Interpreter

variable {interpreter : Interpreter}

/-- A block that stands some lines further down in some source. -/
theorem compile_shift {source other : String} {block : Block} {distance lines : Nat}
    {compiled : Definition × List Scent}
    (succeeded : interpreter.compile source block = .ok compiled)
    (below : (positionAt other (block.start + distance)).line =
      (positionAt source block.start).line + lines) :
    interpreter.compile other (block.shift distance) =
      .ok (compiled.1.moveDown lines, compiled.2) := by
  obtain ⟨rules, declared, result⟩ := Failure.bind_eq_ok_iff.mp succeeded
  cases result
  have again : (block.params.map (Param.shift distance)).mapM (Rule.ofParam other) =
      .ok (rules.map id) :=
    Failure.mapM_map_eq_ok declared fun param _ rule ruled =>
      Rule.ofParam_shift ruled other distance
  rw [List.map_id] at again
  rw [compile, Block.shift, again, below]
  rfl

theorem compileAll_joined {compiled others : List (Definition × List Scent)}
    (firstCompiled : interpreter.compileAll first = .ok compiled)
    (secondCompiled : interpreter.compileAll second = .ok others) :
    interpreter.compileAll (first ++ "\n" ++ second) =
      .ok (compiled ++ others.map fun made =>
        (made.1.moveDown (first.toList.count '\n' + 1), made.2)) := by
  obtain ⟨blocks, firstRead, firstMapped⟩ := Failure.bind_eq_ok_iff.mp firstCompiled
  obtain ⟨more, secondRead, secondMapped⟩ := Failure.bind_eq_ok_iff.mp secondCompiled
  have before : (blocks.map id).mapM (interpreter.compile (first ++ "\n" ++ second)) =
      .ok (compiled.map id) := by
    -- positions only stay the same within the first source, where its blocks begin
    apply Failure.mapM_map_eq_ok firstMapped
    intro block member made succeeded
    have within := start_le_of_readSource firstRead member
    have same : (positionAt (first ++ "\n" ++ second) (block.start + 0)).line =
        (positionAt first block.start).line + 0 :=
      congrArg Position.line (positionAt_joined within second)
    have moved := compile_shift succeeded same
    rw [Block.shift_zero] at moved
    exact moved
  have behind := Failure.mapM_map_eq_ok secondMapped fun block _ made succeeded =>
    compile_shift succeeded (line_positionAt_joined first second block.start)
  rw [List.map_id, List.map_id] at before
  rw [compileAll, readSource_joined firstRead secondRead]
  change (blocks ++ _).mapM _ = _
  rw [List.mapM_append, before, behind]
  rfl

theorem interpret_eq_ok_iff {source : String} {registry last : Registry}
    {found : Interpretation} :
    interpreter.interpret source registry = .ok (last, found) ↔
      ∃ compiled, interpreter.compileAll source = .ok compiled ∧
        registry.installAll (compiled.map Prod.fst) = last ∧
        ⟨(compiled.map Prod.fst).map Definition.name, compiled.flatMap Prod.snd⟩ = found := by
  rw [interpret, Failure.bind_eq_ok_iff]
  apply exists_congr
  intro compiled
  apply and_congr_right
  intro _
  change Except.ok (_, _) = Except.ok (_, _) ↔ _
  rw [Except.ok.injEq, Prod.mk.injEq]
  rfl

/-- Two sources that are interpreted one after the other register the same patterns
under the same names in the same order as one source made up of them, but for the
lines of the blocks of the second one. -/
theorem interpret_joined {registry middle last : Registry} {one two : Interpretation}
    (firstRead : interpreter.interpret first registry = .ok (middle, one))
    (secondRead : interpreter.interpret second middle = .ok (last, two)) :
    interpreter.interpret (first ++ "\n" ++ second) registry =
      .ok (last.moveDown two.registered (first.toList.count '\n' + 1),
        ⟨one.registered ++ two.registered, one.scents ++ two.scents⟩) := by
  obtain ⟨compiled, firstCompiled, rfl, rfl⟩ := interpret_eq_ok_iff.mp firstRead
  obtain ⟨others, secondCompiled, rfl, rfl⟩ := interpret_eq_ok_iff.mp secondRead
  refine interpret_eq_ok_iff.mpr ⟨_, compileAll_joined firstCompiled secondCompiled, ?_, ?_⟩
  · have moved := (registry.installAll (compiled.map Prod.fst)).installAll_moveDown []
      (others.map Prod.fst) (first.toList.count '\n' + 1)
    rw [Registry.moveDown_nil, List.nil_append] at moved
    rw [← moved, ← Registry.installAll_append, List.map_append, List.map_map, List.map_map]
    rfl
  · simp only [List.map_append, List.map_map, List.flatMap_append, List.flatMap_map]
    rfl

/-- A source that ends within a comment. -/
def commented : String :=
  "# Größe\n<hunt a:[INIT GATHER=\x7bparam tag:list=(val v)\x7d]><EXEC> # \"done"

/-- A source that declares a block of the other one again. -/
def redeclaring : String :=
  "<hunt b:[INIT GATHER=\x7bparam tag:sofa=(val v)\x7d]><EXEC>\n" ++
    "<hunt a:[INIT GATHER=\x7bparam pluck:title=(val \"[\")\x7d]><EXEC>"

/-- The names of the tracking patterns with their lines. -/
def linesOf (registry : Registry) : List (String × Nat) :=
  registry.tracking.entries.map fun entry => (entry.1, entry.2.line)

theorem interpret_joined_redeclaring :
    ∃ middle last one two,
      ({} : Interpreter).interpret commented Registry.empty = .ok (middle, one) ∧
      ({} : Interpreter).interpret redeclaring middle = .ok (last, two) ∧
      (linesOf middle, linesOf last, two.scents.length) = ([("a", 2)], [("a", 2), ("b", 1)], 2) ∧
      ({} : Interpreter).interpret (commented ++ "\n" ++ redeclaring) Registry.empty =
        .ok (last.moveDown two.registered (commented.toList.count '\n' + 1),
          ⟨one.registered ++ two.registered, one.scents ++ two.scents⟩) := by
  have evaluated :
      (({} : Interpreter).interpret commented Registry.empty >>= fun first =>
        (({} : Interpreter).interpret redeclaring first.1).map fun second =>
          (linesOf first.1, linesOf second.1, second.2.scents.length)) =
        .ok ([("a", 2)], [("a", 2), ("b", 1)], 2) := by
    decide +kernel
  obtain ⟨⟨middle, one⟩, firstRead, behind⟩ := Failure.bind_eq_ok_iff.mp evaluated
  obtain ⟨⟨last, two⟩, secondRead, lines⟩ := Failure.map_eq_ok_iff.mp behind
  exact ⟨middle, last, one, two, firstRead, secondRead, lines,
    interpret_joined firstRead secondRead⟩

end Interpreter

end ScreenSight.Hunt
