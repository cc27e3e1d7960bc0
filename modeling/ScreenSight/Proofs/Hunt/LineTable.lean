import Mathlib.Data.List.DropRight
import ScreenSight.Proofs.Hunt.Position

/-!
# Looking up lines

Looking an offset up in the table of the lines gives the position that counting from the
beginning of the source gives.  On boundaries of characters positions are in the order of
the offsets, so no two boundaries share one.
-/

namespace ScreenSight.Hunt

/-! ## Pieces of a text -/

theorem behind?_append (first second : List Char) :
    behind? (byteSize first) (first ++ second) = some second := by
  induction first with
  | nil =>
      cases second with
      | nil => rfl
      | cons c rest => exact if_pos rfl
  | cons c first induction =>
      have wide := c.utf8Size_pos
      rw [List.cons_append, byteSize, behind?, if_neg (by omega), if_neg (by omega),
        Nat.add_sub_cancel_left, induction]

/-! ## Beginnings of lines -/

/-- A text is made up of whole lines. -/
def EndsLine (text : List Char) : Prop :=
  text = [] ∨ ∃ lines, text = lines ++ ['\n']

theorem EndsLine.cons {text : List Char} (ends : EndsLine text) (present : text ≠ []) (c : Char) :
    EndsLine (c :: text) := by
  rcases ends with empty | ⟨lines, rfl⟩
  · exact absurd empty present
  · exact .inr ⟨c :: lines, rfl⟩

theorem EndsLine.column_after {text : List Char} (ends : EndsLine text) (line : Nat) :
    (Position.after ⟨line, 1⟩ text).column = 1 := by
  rcases ends with rfl | ⟨lines, rfl⟩
  · rfl
  · rw [Position.after, List.foldl_concat, Position.next, if_pos rfl]

theorem startsFrom_append (offset : Nat) (first second : List Char) :
    startsFrom offset (first ++ second) =
      startsFrom offset first ++ startsFrom (offset + byteSize first) second := by
  induction first generalizing offset with
  | nil => rfl
  | cons c first induction =>
      rw [List.cons_append, startsFrom, startsFrom, byteSize, ← Nat.add_assoc, induction]
      split <;> rfl

theorem length_startsFrom (offset : Nat) (text : List Char) :
    (startsFrom offset text).length = text.count '\n' := by
  induction text generalizing offset with
  | nil => rfl
  | cons c text induction =>
      rw [startsFrom, List.count_cons]
      split
      · next feed =>
          rw [List.length_cons, induction, feed]
          rfl
      · next other => rw [induction, if_neg (by simpa using other), Nat.add_zero]

/-- The line behind whole lines begins where they end. -/
theorem EndsLine.getElem?_starts {first : List Char} (ends : EndsLine first) (second : List Char) :
    (0 :: startsFrom 0 (first ++ second))[first.count '\n']? = some (byteSize first) := by
  rcases ends with rfl | ⟨lines, rfl⟩
  · rfl
  · rw [startsFrom_append, startsFrom_append, List.count_append, List.count_singleton_self,
      List.getElem?_cons_succ, List.append_assoc, ← length_startsFrom 0 lines,
      List.getElem?_append_right (Nat.le_refl _), Nat.sub_self, byteSize_append, Nat.zero_add]
    rfl

/-- An offset lies behind the whole lines in front of it, and no line begins between them and the
offset. -/
theorem exists_endsLine {base offset : Nat} (text : List Char) (behind : base ≤ offset) :
    ∃ first rest, text = first ++ rest ∧ EndsLine first ∧ base + byteSize first ≤ offset ∧
      ∀ start ∈ startsFrom (base + byteSize first) rest, offset < start := by
  induction text generalizing base with
  | nil => exact ⟨[], [], rfl, .inl rfl, behind, fun _ listed => nomatch listed⟩
  | cons c text induction =>
      by_cases inside : offset < base + c.utf8Size
      · -- the offset is reached within the first character
        refine ⟨[], c :: text, rfl, .inl rfl, behind, ?_⟩
        intro start listed
        rw [byteSize, Nat.add_zero, startsFrom] at listed
        split at listed
        · rcases List.mem_cons.mp listed with rfl | later
          · exact inside
          · exact Nat.lt_trans inside (lt_of_mem_startsFrom later)
        · exact Nat.lt_trans inside (lt_of_mem_startsFrom listed)
      · obtain ⟨first, rest, rfl, ends, reached, beyond⟩ := induction (Nat.not_lt.mp inside)
        by_cases empty : first = []
        · subst empty
          rw [byteSize, Nat.add_zero] at reached beyond
          by_cases feed : c = '\n'
          · subst feed
            refine ⟨['\n'], rest, rfl, .inr ⟨[], rfl⟩, reached, beyond⟩
          · refine ⟨[], c :: rest, rfl, .inl rfl, behind, ?_⟩
            intro start listed
            rw [byteSize, Nat.add_zero, startsFrom, if_neg feed] at listed
            exact beyond start listed
        · rw [Nat.add_assoc] at reached beyond
          exact ⟨c :: first, rest, rfl, ends.cons empty c, reached, beyond⟩

/-! ## Lookups -/

/-- A lookup finds the last line that does not begin behind the offset. -/
theorem LineTable.line?_eq {table : LineTable} {offset line start : Nat}
    (begins : table.starts[line]? = some start) (reached : start ≤ offset)
    (beyond : ∀ other later, table.starts[other]? = some later → line < other → offset < later) :
    table.line? offset = some line := by
  have landing := describes_bisect table.increasing offset
  rw [line?]
  cases search : bisect table.starts offset with
  | found place =>
      rw [search] at landing
      have notBehind : ¬line < place := fun before =>
        Nat.lt_irrefl offset (beyond place offset landing before)
      have notBefore : ¬place < line := by
        intro before
        have order := getElem?_lt_getElem? table.increasing landing begins before
        omega
      exact congrArg some (by omega)
  | missing next =>
      rw [search] at landing
      obtain ⟨within, sides⟩ := landing
      have passed : line < next := by
        apply Nat.lt_of_not_le
        intro behind
        have order := (sides line start begins).2 behind
        omega
      obtain ⟨place, rfl⟩ : ∃ place, next = place + 1 := ⟨next - 1, by omega⟩
      have last : ¬line < place := by
        intro before
        have present : place < table.starts.size := by omega
        have there := Array.getElem?_eq_getElem present
        have order := (sides place _ there).1 (Nat.lt_succ_self place)
        exact Nat.lt_asymm order (beyond place _ there before)
      exact congrArg some (by omega)

/-- Where no line begins up to an offset, the characters up to it make the column. -/
theorem advance_within_line {base offset : Nat} {text : List Char}
    (beyond : ∀ start ∈ startsFrom base text, base + offset < start) (position : Position) :
    position.advance offset text =
      match front? (min offset (byteSize text)) text with
      | some read => ⟨position.line, position.column + read.length⟩
      | none => ⟨position.line, 1⟩ := by
  induction text generalizing base offset position with
  | nil => simp [byteSize, front?, Position.advance]
  | cons c text induction =>
      have wide := c.utf8Size_pos
      by_cases inside : offset < c.utf8Size
      · have size : min offset (byteSize (c :: text)) = offset := by
          rw [byteSize]
          omega
        rw [Position.advance_cons_of_lt inside, size, front?]
        by_cases zero : offset = 0
        · simp [zero]
        · simp [zero, inside]
      · have reached := Nat.not_lt.mp inside
        have size : min offset (byteSize (c :: text)) - c.utf8Size =
            min (offset - c.utf8Size) (byteSize text) := by
          rw [byteSize]
          omega
        have positive : min offset (byteSize (c :: text)) ≠ 0 := by
          rw [byteSize]
          omega
        have large : ¬min offset (byteSize (c :: text)) < c.utf8Size := by
          rw [byteSize]
          omega
        have noFeed : c ≠ '\n' := by
          rintro rfl
          have order := beyond _ (by rw [startsFrom, if_pos rfl]; exact List.mem_cons_self)
          omega
        rw [startsFrom, if_neg noFeed] at beyond
        have left : base + c.utf8Size + (offset - c.utf8Size) = base + offset := by omega
        rw [← left] at beyond
        rw [Position.advance_cons_of_le reached, induction beyond, front?, if_neg positive,
          if_neg large, size, Position.next, if_neg noFeed]
        cases front? (min (offset - c.utf8Size) (byteSize text)) text with
        | none => rfl
        | some read => simp [Nat.add_assoc, Nat.add_comm 1]

/-- A lookup gives what counting from the beginning gives. -/
theorem position?_ofSource (source : String) (offset : Nat) :
    (LineTable.ofSource source).position? source offset =
      some (Position.advance ⟨1, 1⟩ offset source.toList) := by
  obtain ⟨first, rest, split, ends, reached, beyond⟩ :=
    exists_endsLine source.toList (Nat.zero_le offset)
  rw [Nat.zero_add] at reached beyond
  have starts (line : Nat) : (LineTable.ofSource source).starts[line]? =
      (0 :: startsFrom 0 (first ++ rest))[line]? := by
    rw [← split]
    exact List.getElem?_toArray
  have begins := ends.getElem?_starts rest
  have looked : (LineTable.ofSource source).line? offset = some (first.count '\n') := by
    refine LineTable.line?_eq ((starts _).trans begins) reached ?_
    intro other later placed behind
    obtain ⟨other, rfl⟩ : ∃ index, other = index + 1 := ⟨other - 1, by omega⟩
    rw [starts, List.getElem?_cons_succ, startsFrom_append, Nat.zero_add,
      List.getElem?_append_right (by rw [length_startsFrom]; omega)] at placed
    exact beyond later (List.mem_of_getElem? placed)
  have size : source.utf8ByteSize = byteSize first + byteSize rest := by
    rw [← byteSize_append, ← split, byteSize_toList]
  have within : byteSize first ≤ min offset source.utf8ByteSize := by omega
  have left : min offset source.utf8ByteSize - byteSize first =
      min (offset - byteSize first) (byteSize rest) := by omega
  have whole : offset = byteSize first + (offset - byteSize first) := by omega
  have line := Position.line_after ⟨1, 1⟩ first
  have column := ends.column_after 1
  rw [LineTable.position?_of_line? looked ((starts _).trans begins), piece?, if_pos within, split,
    behind?_append, Option.bind_some, left]
  conv_rhs => rw [whole]
  rw [Position.advance_append_right, advance_within_line (by rwa [← whole]), line, column]
  cases front? (min (offset - byteSize first) (byteSize rest)) rest with
  | none => simp [Nat.add_comm]
  | some read => simp [Nat.add_comm]

theorem positionAt_eq_advance (source : String) (offset : Nat) :
    positionAt source offset = Position.advance ⟨1, 1⟩ offset source.toList := by
  rw [positionAt, Option.get_of_eq_some _ (position?_ofSource source offset)]

theorem positionAt_append {source : String} {part rest : List Char}
    (split : source.toList = part ++ rest) :
    positionAt source (byteSize part) = Position.after ⟨1, 1⟩ part := by
  rw [positionAt_eq_advance, split, ← Nat.add_zero (byteSize part),
    Position.advance_append_right, Position.advance_zero]

/-! ## Boundaries of characters -/

namespace Position

/-- Positions are in the order of lines, and within a line in that of columns. -/
def Precedes (left right : Position) : Prop :=
  left.line < right.line ∨ left.line = right.line ∧ left.column < right.column

theorem Precedes.trans {first second third : Position} (left : first.Precedes second)
    (right : second.Precedes third) : first.Precedes third := by
  unfold Precedes at left right ⊢
  omega

theorem not_precedes_self (position : Position) : ¬position.Precedes position := by
  unfold Precedes
  omega

theorem precedes_next (position : Position) (c : Char) : position.Precedes (position.next c) := by
  rw [next]
  split
  · exact .inl (Nat.lt_succ_self _)
  · exact .inr ⟨rfl, Nat.lt_succ_self _⟩

/-- Characters lead to later positions. -/
theorem precedes_after (position : Position) {text : List Char} (present : text ≠ []) :
    position.Precedes (position.after text) := by
  induction text generalizing position with
  | nil => exact absurd rfl present
  | cons c rest induction =>
      by_cases last : rest = []
      · subst last
        exact precedes_next position c
      · exact (precedes_next position c).trans (induction (position.next c) last)

theorem after_append (position : Position) (first second : List Char) :
    position.after (first ++ second) = (position.after first).after second :=
  List.foldl_append

/-- The column behind a text counts the characters behind its last line feed. -/
theorem column_after (line : Nat) (text : List Char) :
    (Position.after ⟨line, 1⟩ text).column = 1 + (text.rtakeWhile (· != '\n')).length := by
  induction text using List.reverseRecOn with
  | nil => rfl
  | append_singleton text c induction =>
      rw [after_append]
      change (next _ c).column = _
      rw [next]
      split
      · next feed => simp [feed]
      · next other => simp [other, induction, Nat.add_assoc]

end Position

/-- A boundary has the position behind the text in front of it. -/
theorem positionAt_of_splits {source before after : String} {place : source.Pos}
    (splits : place.Splits before after) :
    positionAt source place.offset.byteIdx = Position.after ⟨1, 1⟩ before.toList := by
  have split : source.toList = before.toList ++ after.toList := by
    rw [splits.eq_append, String.toList_append]
  rw [splits.offset_eq_rawEndPos, ← positionAt_append split, byteSize_toList]
  rfl

/-- A later boundary has a later position. -/
theorem precedes_of_lt {source : String} {place other : source.Pos} (order : place < other) :
    (positionAt source place.offset.byteIdx).Precedes
      (positionAt source other.offset.byteIdx) := by
  have near : place.offset.byteIdx = byteSize (source.sliceTo place).copy.toList := by
    rw [byteSize_toList, place.splits.offset_eq_rawEndPos]
    rfl
  have far : other.offset.byteIdx = byteSize (source.sliceTo other).copy.toList := by
    rw [byteSize_toList, other.splits.offset_eq_rawEndPos]
    rfl
  have nearer : place.offset.byteIdx < other.offset.byteIdx := order
  have split := congrArg String.toList
    (place.splits.eq_append.symm.trans other.splits.eq_append)
  rw [String.toList_append, String.toList_append] at split
  rw [positionAt_of_splits place.splits, positionAt_of_splits other.splits]
  -- one of the texts in front of the boundaries begins with the other one
  rcases List.append_eq_append_iff.mp split with ⟨more, longer, _⟩ | ⟨more, shorter, _⟩
  · rw [longer, Position.after_append]
    apply Position.precedes_after
    rintro rfl
    rw [longer, List.append_nil] at far
    omega
  · rw [shorter, byteSize_append] at near
    omega

theorem precedes_iff_lt {source : String} {place other : source.Pos} :
    (positionAt source place.offset.byteIdx).Precedes
      (positionAt source other.offset.byteIdx) ↔ place < other := by
  refine ⟨?_, precedes_of_lt⟩
  intro before
  rcases Nat.lt_trichotomy place.offset.byteIdx other.offset.byteIdx with earlier | same | later
  · exact earlier
  · rw [same] at before
    exact absurd before (Position.not_precedes_self _)
  · have behind : other < place := later
    exact absurd (before.trans (precedes_of_lt behind)) (Position.not_precedes_self _)

theorem positionAt_injective (source : String) :
    Function.Injective fun place : source.Pos => positionAt source place.offset.byteIdx := by
  intro place other same
  have apart {earlier later : source.Pos} (order : earlier < later)
      (shared : positionAt source earlier.offset.byteIdx =
        positionAt source later.offset.byteIdx) : False := by
    have before := precedes_of_lt order
    rw [shared] at before
    exact Position.not_precedes_self _ before
  apply String.Pos.ext
  apply String.Pos.Raw.ext
  apply Nat.le_antisymm
  · exact Nat.not_lt.mp fun later => apart later same.symm
  · exact Nat.not_lt.mp fun earlier => apart earlier same

/-- A lookup never leaves the table. -/
theorem exists_start_of_positionAt (source : String) (offset : Nat) :
    ∃ line start, (LineTable.ofSource source).line? offset = some line ∧
      (LineTable.ofSource source).starts[line]? = some start ∧ start ≤ offset ∧
      (LineTable.ofSource source).position? source offset = some (positionAt source offset) ∧
      (positionAt source offset).line = line + 1 := by
  obtain ⟨line, start, looked, begins, reached⟩ :=
    (LineTable.ofSource source).exists_start_of_line? offset
  have found : (LineTable.ofSource source).position? source offset =
      some (positionAt source offset) := (Option.some_get _).symm
  refine ⟨line, start, looked, begins, reached, found, ?_⟩
  rw [LineTable.position?_of_line? looked begins] at found
  rw [← Option.some.inj found]

/-- The lookup of an offset finds the number of a line that begins at or before the offset, and
with it the position.  On a boundary of characters the position counts the line feeds in
front of the boundary, and the characters behind the last of them.  Positions of boundaries
are in the order of the boundaries, so no two boundaries share one. -/
theorem position_lookup (source : String) :
    (∀ offset, ∃ line start, (LineTable.ofSource source).line? offset = some line ∧
      (LineTable.ofSource source).starts[line]? = some start ∧ start ≤ offset ∧
      (LineTable.ofSource source).position? source offset = some (positionAt source offset) ∧
      (positionAt source offset).line = line + 1) ∧
    (∀ place : source.Pos, ∃ before after, place.Splits before after ∧
      positionAt source place.offset.byteIdx =
        ⟨1 + before.toList.count '\n',
          1 + (before.toList.rtakeWhile (· != '\n')).length⟩) ∧
    (∀ place other : source.Pos, (positionAt source place.offset.byteIdx).Precedes
      (positionAt source other.offset.byteIdx) ↔ place < other) ∧
    Function.Injective fun place : source.Pos => positionAt source place.offset.byteIdx := by
  refine ⟨exists_start_of_positionAt source, ?_, fun _ _ => precedes_iff_lt,
    positionAt_injective source⟩
  intro place
  refine ⟨_, _, place.splits, ?_⟩
  rw [positionAt_of_splits place.splits, ← Position.line_after ⟨1, 1⟩, ← Position.column_after 1]

/-- The question mark is the eighth character of the second line. -/
example : positionAt "<\n  hunt ?" 9 = ⟨2, 8⟩ := by decide +kernel

end ScreenSight.Hunt
