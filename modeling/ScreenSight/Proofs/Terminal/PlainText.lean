import ScreenSight.Proofs.Terminal.Decoder
import ScreenSight.Proofs.Terminal.Screen

/-!
# Plain text on a terminal

A text without control characters but tabs and line ends looks the same on a terminal
as in a grid made of its lines.  Tab stops move the cursor where the grid has blanks,
and what is missing at the ends of lines reads blank in both.
-/

namespace ScreenSight

/-- Whether a character is neither a control character of ASCII nor one of the upper
half of Latin-1. -/
def isPrintable (c : Char) : Bool :=
  0x20 ≤ c.toNat && !(0x7F ≤ c.toNat && c.toNat ≤ 0x9F)

/-- Printable characters, tabs and line ends, which may have a carriage return. -/
inductive PlainText : List Char → Prop
  | nil : PlainText []
  | printable {c : Char} {rest : List Char} :
      isPrintable c = true → PlainText rest → PlainText (c :: rest)
  | tab {rest : List Char} : PlainText rest → PlainText ('\t' :: rest)
  | lineFeed {rest : List Char} : PlainText rest → PlainText ('\n' :: rest)
  | lineEnd {rest : List Char} : PlainText rest → PlainText ('\r' :: '\n' :: rest)

namespace PlainText

theorem not_control {c : Char} (printable : isPrintable c = true) : 0x20 ≤ c.toNat := by
  simp only [isPrintable, Bool.and_eq_true, decide_eq_true_eq] at printable
  exact printable.1

theorem ne_of_control {c : Char} (printable : isPrintable c = true) (control : Char)
    (low : control.toNat < 0x20) : c ≠ control := by
  intro same
  have visible := not_control printable
  rw [same] at visible
  omega

theorem no_escape {text : List Char} (plain : PlainText text) : '\x1B' ∉ text := by
  induction plain with
  | nil => exact List.not_mem_nil
  | printable printable _ induction =>
      have notEscape := ne_of_control printable '\x1B' (by decide)
      simp [notEscape.symm, induction]
  | tab _ induction => simp [induction]
  | lineFeed _ induction => simp [induction]
  | lineEnd _ induction => simp [induction]

end PlainText

namespace Grid

variable {tabWidth : Nat}

/-! ## Lines -/

/-- The lines of a text behind a line that is begun already. -/
def typeset (tabWidth : Nat) (line : List Char) : List Char → List (List Char)
  | [] => [line]
  | c :: rest =>
      if c = '\n' then line :: typeset tabWidth [] rest
      else typeset tabWidth (line ++ expandTabs tabWidth line.length [c]) rest

theorem expandTabs_cons (tabWidth column : Nat) (c : Char) (rest : List Char) :
    expandTabs tabWidth column (c :: rest) =
      expandTabs tabWidth column [c] ++
        expandTabs tabWidth (column + (expandTabs tabWidth column [c]).length) rest := by
  have stop := Nat.add_sub_of_le (le_nextTabStop tabWidth column)
  simp only [expandTabs]
  split
  · simp [stop]
  · split <;> simp

theorem exists_splitLines (text : List Char) :
    ∃ first others, Text.splitLines text = first :: others :=
  List.exists_cons_of_ne_nil (List.splitOnP_ne_nil (· == '\n') text)

theorem splitLines_lineFeed (rest : List Char) :
    Text.splitLines ('\n' :: rest) = [] :: Text.splitLines rest := by
  simp [Text.splitLines, List.splitOnP_cons_eq_if_modifyHead]

theorem splitLines_cons {c : Char} (notFeed : c ≠ '\n') {rest first : List Char}
    {others : List (List Char)} (split : Text.splitLines rest = first :: others) :
    Text.splitLines (c :: rest) = (c :: first) :: others := by
  rw [Text.splitLines] at split
  simp [Text.splitLines, List.splitOnP_cons_eq_if_modifyHead, notFeed, split]

theorem typeset_of_splitLines {text first : List Char} {others : List (List Char)}
    (split : Text.splitLines text = first :: others) (line : List Char) :
    typeset tabWidth line text =
      (line ++ expandTabs tabWidth line.length first) :: others.map (expandTabs tabWidth 0) := by
  induction text generalizing line first others with
  | nil =>
      obtain ⟨rfl, rfl⟩ : [] = first ∧ [] = others := by simpa [Text.splitLines] using split
      simp [typeset, expandTabs]
  | cons c rest induction =>
      obtain ⟨head, tail, later⟩ := exists_splitLines rest
      by_cases feed : c = '\n'
      · subst c
        rw [splitLines_lineFeed] at split
        obtain ⟨rfl, rfl⟩ := List.cons_eq_cons.mp split
        rw [typeset, if_pos rfl, induction later, later]
        simp [expandTabs]
      · rw [splitLines_cons feed later] at split
        obtain ⟨rfl, rfl⟩ := List.cons_eq_cons.mp split
        rw [typeset, if_neg feed, induction later, expandTabs_cons tabWidth _ c head,
          List.length_append, List.append_assoc]

theorem typeset_nil (text : List Char) :
    typeset tabWidth [] text = (Text.splitLines text).map (expandTabs tabWidth 0) := by
  obtain ⟨first, others, split⟩ := exists_splitLines text
  rw [typeset_of_splitLines split, split]
  rfl

/-- What is typed behind a line makes it no shorter. -/
theorem length_le_of_typeset {line text : List Char} {width : Nat}
    (narrow : ∀ full ∈ typeset tabWidth line text, full.length ≤ width) :
    line.length ≤ width := by
  obtain ⟨first, others, split⟩ := exists_splitLines text
  rw [typeset_of_splitLines split] at narrow
  have bound := narrow _ List.mem_cons_self
  rw [List.length_append] at bound
  omega

theorem typeset_printable {c : Char} (printable : isPrintable c = true)
    (line rest : List Char) :
    typeset tabWidth line (c :: rest) = typeset tabWidth (line ++ [c]) rest := by
  have notTab := PlainText.ne_of_control printable '\t' (by decide)
  have notFeed := PlainText.ne_of_control printable '\n' (by decide)
  have notReturn := PlainText.ne_of_control printable '\r' (by decide)
  simp [typeset, expandTabs, notTab, notFeed, notReturn]

theorem typeset_tab (line rest : List Char) :
    typeset tabWidth line ('\t' :: rest) =
      typeset tabWidth
        (line ++ List.replicate (nextTabStop tabWidth line.length - line.length) blank) rest := by
  simp [typeset, expandTabs]

theorem typeset_lineFeed (line rest : List Char) :
    typeset tabWidth line ('\n' :: rest) = line :: typeset tabWidth [] rest := by
  simp [typeset]

theorem typeset_lineEnd (line rest : List Char) :
    typeset tabWidth line ('\r' :: '\n' :: rest) = line :: typeset tabWidth [] rest := by
  simp [typeset, expandTabs]

/-- A text reads the same without its last line if nothing stands there. -/
theorem charIn_linesOf (text : List Char) (column row : Nat) :
    charIn ((linesOf text).map (expandTabs tabWidth 0)) column row =
      charIn (typeset tabWidth [] text) column row := by
  rw [typeset_nil, linesOf]
  split
  · next last =>
      rw [beq_iff_eq] at last
      obtain ⟨others, split⟩ := List.getLast?_eq_some_iff.mp last
      rw [split, List.dropLast_concat, List.map_append, List.map_singleton]
      exact (charIn_concat_of_blank (fun _ => rfl) _ column row).symm
  · rfl

theorem mem_typeset_nil {text line : List Char} (member : line ∈ typeset tabWidth [] text) :
    line ∈ (linesOf text).map (expandTabs tabWidth 0) ∨ line = [] := by
  rw [typeset_nil] at member
  obtain ⟨raw, present, rfl⟩ := List.mem_map.mp member
  by_cases empty : raw = []
  · exact .inr (by rw [empty, expandTabs])
  · refine .inl (List.mem_map.mpr ⟨raw, ?_, rfl⟩)
    rw [linesOf]
    split
    · next last =>
        rw [beq_iff_eq] at last
        obtain ⟨others, split⟩ := List.getLast?_eq_some_iff.mp last
        rw [split] at present ⊢
        simpa [empty] using present
    · exact present

theorem length_linesOf_lineFeed (rest : List Char) :
    (linesOf ('\n' :: rest)).length = (linesOf rest).length + 1 := by
  obtain ⟨first, others, split⟩ := exists_splitLines rest
  rw [linesOf, linesOf, splitLines_lineFeed, split, List.getLast?_cons_cons]
  split <;> simp

/-- A character within a line needs one line and no more than that. -/
theorem length_linesOf_cons {c : Char} (notFeed : c ≠ '\n') (rest : List Char) :
    (linesOf (c :: rest)).length = max 1 (linesOf rest).length := by
  obtain ⟨first, others, split⟩ := exists_splitLines rest
  rw [linesOf, linesOf, splitLines_cons notFeed split, split]
  cases others with
  | nil => cases first <;> simp
  | cons second others =>
      rw [List.getLast?_cons_cons, List.getLast?_cons_cons]
      split <;> simp

end Grid

namespace Terminal

variable {limits : Limits} {screen : Screen} {done : List (List Char)} {line : List Char}

/-- A screen shows lines that have been typed, with the cursor at the end of the last
one. -/
structure Typed (screen : Screen) (done : List (List Char)) (line : List Char) : Prop where
  cursor : screen.cursor = ⟨line.length, done.length⟩
  plane : ∀ place, screen.plane place = charIn (done ++ [line]) place.column place.row

theorem typed_empty : Typed {} [] [] := by
  refine ⟨rfl, fun place => ?_⟩
  rw [charIn_concat_of_blank fun _ => rfl]
  rfl

/-- Where blanks are the only difference, lines read the same. -/
theorem charIn_concat_blanks (done : List (List Char)) (line : List Char)
    (count column row : Nat) :
    charIn (done ++ [line ++ List.replicate count blank]) column row =
      charIn (done ++ [line]) column row := by
  have padded : line ++ List.replicate count blank =
      line.rightpad (line.length + count) blank := by
    simp [List.rightpad]
  rw [charIn_concat, charIn_concat, padded, getD_rightpad]

theorem charIn_concat_char (done : List (List Char)) (line : List Char) (c : Char)
    (column row : Nat) :
    charIn (done ++ [line ++ [c]]) column row =
      if column = line.length ∧ row = done.length then c
      else charIn (done ++ [line]) column row := by
  rw [charIn_concat, charIn_concat]
  by_cases last : row = done.length
  · simp only [last, and_true, if_true, List.getD_eq_getElem?_getD]
    rcases Nat.lt_trichotomy column line.length with before | here | behind
    · rw [if_neg (Nat.ne_of_lt before), List.getElem?_append_left before]
    · rw [if_pos here, here, List.getElem?_concat_length, Option.getD_some]
    · have beyond : (line ++ [c]).length ≤ column := by
        rw [List.length_append]
        exact behind
      rw [if_neg (Nat.ne_of_gt behind), List.getElem?_eq_none beyond,
        List.getElem?_eq_none (Nat.le_of_lt behind)]
  · simp [last]

theorem Typed.print (typed : Typed screen done line) (c : Char)
    (narrow : line.length < limits.maxWidth) (low : done.length < limits.maxHeight) :
    Typed (screen.perform limits (.print c)) done (line ++ [c]) := by
  have held : limits.holds ⟨line.length, done.length⟩ = true :=
    Limits.holds_iff.mpr ⟨narrow, low⟩
  constructor
  case cursor => simp [Screen.perform, moveCursor, typed.cursor]
  case plane =>
    intro place
    obtain ⟨column, row⟩ := place
    simp only [Screen.perform, typed.cursor, held, true_and, Place.mk.injEq, typed.plane,
      charIn_concat_char]

theorem Typed.tab (typed : Typed screen done line)
    (narrow : nextTabStop limits.tabWidth line.length ≤ limits.maxWidth) :
    Typed (screen.perform limits .tab) done
      (line ++ List.replicate (nextTabStop limits.tabWidth line.length - line.length) blank) := by
  have stop := Nat.add_sub_of_le (le_nextTabStop limits.tabWidth line.length)
  constructor
  case cursor => simp [Screen.perform, moveCursor, typed.cursor, stop, narrow]
  case plane =>
    intro place
    rw [charIn_concat_blanks, ← typed.plane]
    rfl

theorem Typed.lineFeed (typed : Typed screen done line)
    (low : done.length + 1 ≤ limits.maxHeight) :
    Typed (screen.perform limits .lineFeed) (done ++ [line]) [] := by
  constructor
  case cursor => simp [Screen.perform, moveCursor, typed.cursor, low]
  case plane =>
    intro place
    exact (typed.plane place).trans (charIn_concat_of_blank (fun _ => rfl) _ _ _).symm

theorem ofChar?_of_printable {c : Char} (printable : isPrintable c = true) :
    Action.ofChar? c = some (.print c) := by
  have visible := PlainText.not_control printable
  rw [Action.ofChar?, if_neg (by simpa [isControl] using visible)]

/-- A plain text that the limits have room for puts its lines on the screen. -/
theorem plane_performAll {text : List Char} (plain : PlainText text)
    (typed : Typed screen done line)
    (narrow : ∀ full ∈ Grid.typeset limits.tabWidth line text, full.length ≤ limits.maxWidth)
    (low : done.length + (Grid.linesOf text).length ≤ limits.maxHeight) :
    CountsInWords limits screen.cursor (text.filterMap Action.ofChar?) ∧
      ∀ place, (screen.performAll limits (text.filterMap Action.ofChar?)).plane place =
        charIn (done ++ Grid.typeset limits.tabWidth line text) place.column place.row := by
  obtain ⟨columns, rows, _⟩ := limits.fits
  induction plain generalizing screen done line with
  | nil => exact ⟨trivial, typed.plane⟩
  | @printable c rest printable _ induction =>
      have notFeed := PlainText.ne_of_control printable '\n' (by decide)
      rw [Grid.length_linesOf_cons notFeed] at low
      rw [Grid.typeset_printable printable] at narrow ⊢
      rw [List.filterMap_cons_some (ofChar?_of_printable printable)]
      have room := Grid.length_le_of_typeset narrow
      rw [List.length_append, List.length_singleton] at room
      obtain ⟨counted, shown⟩ := induction (typed.print c room (by omega)) narrow (by omega)
      refine ⟨⟨?_, counted⟩, shown⟩
      rw [typed.cursor]
      exact Nat.lt_of_le_of_lt room columns
  | @tab rest _ induction =>
      have stop := Nat.add_sub_of_le (le_nextTabStop limits.tabWidth line.length)
      rw [Grid.length_linesOf_cons (by decide)] at low
      rw [Grid.typeset_tab] at narrow ⊢
      have room := Grid.length_le_of_typeset narrow
      rw [List.length_append, List.length_replicate, stop] at room
      obtain ⟨counted, shown⟩ := induction (typed.tab room) narrow (by omega)
      refine ⟨⟨?_, counted⟩, shown⟩
      rw [typed.cursor]
      exact Nat.lt_of_le_of_lt room columns
  | @lineFeed rest _ induction =>
      rw [Grid.length_linesOf_lineFeed] at low
      rw [Grid.typeset_lineFeed] at narrow ⊢
      rw [List.append_cons]
      have later := (List.forall_mem_cons.mp narrow).2
      have below : done.length + 1 ≤ limits.maxHeight := by omega
      have room : (done ++ [line]).length + (Grid.linesOf rest).length ≤ limits.maxHeight := by
        rw [List.length_append, List.length_singleton]
        omega
      obtain ⟨counted, shown⟩ := induction (typed.lineFeed below) later room
      refine ⟨⟨?_, counted⟩, shown⟩
      rw [typed.cursor]
      exact Nat.lt_of_le_of_lt below rows
  | @lineEnd rest _ induction =>
      -- the carriage return only moves the cursor, which the line feed does again
      rw [Grid.length_linesOf_cons (by decide), Grid.length_linesOf_lineFeed] at low
      rw [Grid.typeset_lineEnd] at narrow ⊢
      rw [List.append_cons]
      have later := (List.forall_mem_cons.mp narrow).2
      have below : done.length + 1 ≤ limits.maxHeight := by omega
      have room : (done ++ [line]).length + (Grid.linesOf rest).length ≤ limits.maxHeight := by
        rw [List.length_append, List.length_singleton]
        omega
      obtain ⟨counted, shown⟩ := induction (typed.lineFeed below) later room
      refine ⟨⟨(by decide : Word.Fits 0), ?_, counted⟩, shown⟩
      rw [typed.cursor]
      exact Nat.lt_of_le_of_lt below rows

/-- A plain text looks the same as a capture and as a block of text, if the limits
have room for its lines. -/
theorem load_plainText {text : String} {limits : Limits} (plain : PlainText text.toList)
    (fits : Canvas.Fits limits
      ((Grid.linesOf text.toList).map (Grid.expandTabs limits.tabWidth 0))) :
    (∀ column row, (load text.toUTF8.data.toList limits).charAt column row =
        (Grid.ofText text limits.tabWidth).charAt column row) ∧
      ∀ x y, ((load text.toUTF8.data.toList limits).get? x y).getD blank =
        ((Grid.ofText text limits.tabWidth).get? x y).getD blank := by
  have narrow : ∀ full ∈ Grid.typeset limits.tabWidth [] text.toList,
      full.length ≤ limits.maxWidth := by
    intro full member
    rcases Grid.mem_typeset_nil member with written | rfl
    · exact fits.length_le written
    · exact Nat.zero_le _
  have low : (Grid.linesOf text.toList).length ≤ limits.maxHeight := by
    simpa using fits.height
  have same (column row : Nat) : (load text.toUTF8.data.toList limits).charAt column row =
      (Grid.ofText text limits.tabWidth).charAt column row := by
    obtain ⟨counted, typed⟩ := plane_performAll plain typed_empty narrow (by simpa using low)
    have shown := Canvas.screen_applyAll { limits := limits } counted
    rw [load, Canvas.feed, bytes_eq, decode_text plain.no_escape,
      Canvas.charAt_freeze _ ⟨column, row⟩, Grid.ofText_eq, Grid.charAt_ofRows, Grid.charIn_linesOf]
    exact (congrFun (congrArg Screen.plane shown) _).trans (typed ⟨column, row⟩)
  exact ⟨same, Grid.getD_get?_congr same⟩

theorem load_plainText_two_lines :
    let text := "a\tb\r\nc"
    let limits : Limits := { maxWidth := 5, maxHeight := 2, tabWidth := 4 }
    PlainText text.toList ∧
      Canvas.Fits limits
        ((Grid.linesOf text.toList).map (Grid.expandTabs limits.tabWidth 0)) ∧
      (∀ x y, ((load text.toUTF8.data.toList limits).get? x y).getD blank =
        ((Grid.ofText text limits.tabWidth).get? x y).getD blank) ∧
      (load text.toUTF8.data.toList limits).charAt 4 0 = 'b' ∧
      (load text.toUTF8.data.toList limits).charAt 0 1 = 'c' := by
  intro text limits
  have characters : text.toList = ['a', '\t', 'b', '\r', '\n', 'c'] := by decide
  have plain : PlainText text.toList := by
    rw [characters]
    exact .printable rfl (.tab (.printable rfl (.lineEnd (.printable rfl .nil))))
  have lines : (Grid.linesOf text.toList).map (Grid.expandTabs limits.tabWidth 0) =
      [['a', ' ', ' ', ' ', 'b'], ['c']] := by
    rw [characters]
    decide
  have fits : Canvas.Fits limits
      ((Grid.linesOf text.toList).map (Grid.expandTabs limits.tabWidth 0)) := by
    rw [lines]
    refine ⟨by decide, fun row => ?_⟩
    match row with
    | 0 => decide
    | 1 => decide
    | row + 2 => exact Nat.zero_le _
  obtain ⟨same, read⟩ := load_plainText plain fits
  refine ⟨plain, fits, read, ?_, ?_⟩
  · rw [same, Grid.ofText_eq, lines, Grid.charAt_ofRows]
    rfl
  · rw [same, Grid.ofText_eq, lines, Grid.charAt_ofRows]
    rfl

end Terminal

end ScreenSight
