import ScreenSight.Proofs.Detection.Shapes

/-!
# Which spans a row has

The search for bracketed spans looks at nearest closing brackets only and jumps behind
what it finds.  It misses nothing: the brackets of a span have no bracket between them,
so no other span begins within one.
-/

namespace ScreenSight

/-! ## Pairs -/

namespace BracketPair

theorem opened?_opening : ∀ pair ∈ all, opened? pair.opening = some pair := by
  decide

theorem isBracket_opening : ∀ pair ∈ all, isBracket pair.opening = true := by
  decide

theorem isBracket_closing : ∀ pair ∈ all, isBracket pair.closing = true := by
  decide

theorem opening_ne_closing : ∀ pair ∈ all, ∀ other ∈ all, pair.opening ≠ other.closing := by
  decide

theorem opened?_eq_some_iff {pair : BracketPair} {c : Char} :
    opened? c = some pair ↔ pair ∈ all ∧ pair.opening = c := by
  constructor
  · intro opened
    exact ⟨List.mem_of_find?_eq_some opened, by simpa using List.find?_some opened⟩
  · intro opens
    obtain ⟨known, rfl⟩ := opens
    exact opened?_opening pair known

end BracketPair

namespace BracketSpan

variable {span first : BracketSpan} {row : List Char} {column : Nat}

/-! ## Spans at the beginning of a row -/

/-- A row begins with a span. -/
structure Begins (span : BracketSpan) (row : List Char) : Prop where
  known : span.pair ∈ BracketPair.all
  written : row = span.pair.opening :: (span.inside ++ span.pair.closing :: span.trailing)
  short : span.inside.length ≤ longest
  plain : ∀ c ∈ span.inside, ¬BracketPair.isBracket c = true

/-- The characters in a span do not close it. -/
theorem Begins.notClosing (begins : span.Begins row) {c : Char} (member : c ∈ span.inside) :
    (c != span.pair.closing) = true := by
  rw [bne_iff_ne]
  intro same
  subst same
  exact begins.plain _ member (BracketPair.isBracket_closing _ begins.known)

theorem begins_of_ofPair? {pair : BracketPair} (known : pair ∈ BracketPair.all)
    {behind : List Char} (found : ofPair? pair column behind = some span) :
    span.column = column ∧ span.Begins (pair.opening :: behind) := by
  have parts := List.takeWhile_append_dropWhile (p := (· != pair.closing)) (l := behind)
  have stop := List.head?_dropWhile_not (· != pair.closing) behind
  simp only [ofPair?] at found
  split at found
  · cases found
  · next closing trailing rest =>
      split at found
      · cases found
      · next fits =>
          obtain rfl : closing = pair.closing := by simpa [rest] using stop
          cases found
          rw [rest] at parts
          have short := Nat.le_of_not_lt fun long => fits (.inl long)
          have plain : ∀ c ∈ behind.takeWhile (· != pair.closing),
              ¬BracketPair.isBracket c = true := by
            intro c member bracket
            exact fits (.inr (List.any_eq_true.mpr ⟨c, member, bracket⟩))
          exact ⟨rfl, known, by rw [parts], short, plain⟩

theorem Begins.first? (begins : span.Begins row) : first? span.column row = some span := by
  have inside : (span.inside ++ span.pair.closing :: span.trailing).takeWhile
      (· != span.pair.closing) = span.inside := by
    rw [List.takeWhile_append_of_pos fun _ => begins.notClosing]
    simp
  have behind : (span.inside ++ span.pair.closing :: span.trailing).dropWhile
      (· != span.pair.closing) = span.pair.closing :: span.trailing := by
    rw [List.dropWhile_append_of_pos fun _ => begins.notClosing]
    simp
  have fits : ¬(longest < span.inside.length ∨
      span.inside.any BracketPair.isBracket = true) := by
    intro unfit
    rcases unfit with long | any
    · exact absurd begins.short (Nat.not_le_of_lt long)
    · obtain ⟨c, member, bracket⟩ := List.any_eq_true.mp any
      exact begins.plain c member bracket
  rw [begins.written, BracketSpan.first?, BracketPair.opened?_opening _ begins.known,
    Option.bind_some, ofPair?, behind, inside]
  exact if_neg fits

/-- The search finds the span that a row begins with. -/
theorem first?_eq_some_iff :
    BracketSpan.first? column row = some span ↔ span.column = column ∧ span.Begins row := by
  constructor
  · intro found
    cases row with
    | nil => cases found
    | cons c behind =>
        obtain ⟨pair, opened, closed⟩ := Option.bind_eq_some_iff.mp found
        obtain ⟨known, rfl⟩ := BracketPair.opened?_eq_some_iff.mp opened
        exact begins_of_ofPair? known closed
  · intro begun
    obtain ⟨rfl, begins⟩ := begun
    exact begins.first?

/-! ## Spans within a row -/

/-- A span stands in a row that begins in a column. -/
def StandsIn (span : BracketSpan) (column : Nat) (row : List Char) : Prop :=
  ∃ before after, row = before ++ after ∧ span.column = column + before.length ∧
    span.Begins after

theorem not_standsIn_nil : ¬span.StandsIn column [] := by
  intro stands
  obtain ⟨before, after, empty, _, begins⟩ := stands
  obtain ⟨_, rfl⟩ := List.nil_eq_append_iff.mp empty
  cases begins.written

/-- A character that no span begins with can be passed over. -/
theorem standsIn_cons_iff {c : Char} {behind : List Char}
    (none : BracketSpan.first? column (c :: behind) = none) :
    span.StandsIn column (c :: behind) ↔ span.StandsIn (column + 1) behind := by
  constructor
  · intro stands
    obtain ⟨before, after, split, place, begins⟩ := stands
    cases before with
    | nil =>
        obtain rfl : c :: behind = after := split
        have found : BracketSpan.first? column (c :: behind) = some span :=
          first?_eq_some_iff.mpr ⟨place, begins⟩
        rw [none] at found
        cases found
    | cons passed before =>
        obtain ⟨rfl, rfl⟩ := List.cons_eq_cons.mp split
        exact ⟨before, after, rfl, by rw [place, List.length_cons]; omega, begins⟩
  · intro stands
    obtain ⟨before, after, rfl, place, begins⟩ := stands
    exact ⟨c :: before, after, rfl, by rw [place, List.length_cons]; omega, begins⟩

/-- No span begins between the brackets of another one or with the closing one. -/
theorem Begins.not_begins (begins : first.Begins row) {before after : List Char}
    (split : first.inside = before ++ after) :
    ¬span.Begins (after ++ first.pair.closing :: first.trailing) := by
  intro other
  have head := other.written
  cases after with
  | nil =>
      obtain ⟨same, _⟩ := List.cons_eq_cons.mp head
      exact BracketPair.opening_ne_closing _ other.known _ begins.known same.symm
  | cons c after =>
      obtain ⟨rfl, _⟩ := List.cons_eq_cons.mp head
      have member : span.pair.opening ∈ first.inside := by simp [split]
      exact begins.plain _ member (BracketPair.isBracket_opening _ other.known)

/-- The spans of a row that begins with a span are that one and those behind it. -/
theorem standsIn_iff_of_first? (found : BracketSpan.first? column row = some first) :
    span.StandsIn column row ↔
      span = first ∨ span.StandsIn (first.lastColumn + 1) first.trailing := by
  obtain ⟨rfl, begins⟩ := first?_eq_some_iff.mp found
  constructor
  · intro stands
    obtain ⟨before, after, split, place, other⟩ := stands
    cases before with
    | nil =>
        obtain rfl : row = after := split
        have again : BracketSpan.first? first.column row = some span :=
          first?_eq_some_iff.mpr ⟨place, other⟩
        exact .inl (Option.some.inj (again.symm.trans found))
    | cons c before =>
        rw [begins.written] at split
        obtain ⟨_, split⟩ := List.cons_eq_cons.mp split
        rcases List.append_eq_append_iff.mp split with
          ⟨middle, rfl, behind⟩ | ⟨middle, inside, rfl⟩
        · cases middle with
          | nil =>
              obtain rfl : first.pair.closing :: first.trailing = after := behind
              exact absurd other (begins.not_begins (List.append_nil _).symm)
          | cons closing middle =>
              obtain ⟨rfl, rest⟩ := List.cons_eq_cons.mp behind
              refine .inr ⟨middle, after, rest, ?_, other⟩
              simp only [place, lastColumn, List.length_cons, List.length_append]
              omega
        · exact absurd other (begins.not_begins inside)
  · intro listed
    rcases listed with rfl | ⟨before, after, split, place, other⟩
    · exact ⟨[], row, rfl, rfl, begins⟩
    · refine ⟨first.pair.opening :: (first.inside ++ first.pair.closing :: before), after, ?_, ?_,
        other⟩
      · rw [begins.written, split]
        simp
      · simp only [place, lastColumn, List.length_cons, List.length_append]
        omega

theorem StandsIn.column_le (stands : span.StandsIn column row) : column ≤ span.column := by
  obtain ⟨before, _, _, place, _⟩ := stands
  omega

/-! ## The search -/

/-- The brackets of a span have coordinates, and none of them is claimed. -/
structure IsFree (span : BracketSpan) (claimed : CellSet) (y : Coordinate) : Prop where
  onPlane : span.lastColumn < 0x80000000
  unclaimed : ∀ bracket ∈ span.ends y, bracket ∉ claimed

theorem IsFree.column_lt {claimed : CellSet} {y : Coordinate} (free : span.IsFree claimed y) :
    span.column < 0x80000000 := by
  have last := free.onPlane
  rw [lastColumn] at last
  omega

theorem isNone_ofInt?_iff {column : Nat} :
    (Coordinate.ofInt? column).isNone = true ↔ 0x80000000 ≤ column := by
  rw [Coordinate.ofInt?]
  split <;> simp <;> omega

/-- The search reports the spans of a row that are free. -/
theorem mem_scan_iff (claimed : CellSet) (y : Coordinate) :
    span ∈ scan claimed y column row ↔ span.StandsIn column row ∧ span.IsFree claimed y := by
  fun_induction scan claimed y column row with
  | case1 => simp [not_standsIn_nil]
  | case2 column c behind none induction => rw [induction, standsIn_cons_iff none]
  | case3 column c behind first found beyond =>
      -- a span behind the plane has none before its end but itself
      have far := isNone_ofInt?_iff.mp beyond
      refine iff_of_false List.not_mem_nil ?_
      intro present
      obtain ⟨stands, free⟩ := present
      have near := free.onPlane
      rcases (standsIn_iff_of_first? found).mp stands with rfl | later
      · omega
      · have place := later.column_le
        simp only [lastColumn] at far near place
        omega
  | case4 column c behind first found _ others taken induction =>
      rw [induction, standsIn_iff_of_first? found]
      refine and_congr_left ?_
      intro free
      refine (or_iff_right ?_).symm
      intro same
      subst same
      obtain ⟨bracket, listed, claims⟩ := List.any_eq_true.mp taken
      exact free.unclaimed bracket listed (SortedSet.contains_iff.mp claims)
  | case5 column c behind first found onPlane others untaken induction =>
      have free : first.IsFree claimed y := by
        constructor
        case onPlane => exact Nat.lt_of_not_le fun far => onPlane (isNone_ofInt?_iff.mpr far)
        case unclaimed =>
          intro bracket listed claims
          exact untaken (List.any_eq_true.mpr
            ⟨bracket, listed, SortedSet.contains_iff.mpr claims⟩)
      rw [List.mem_cons, induction, standsIn_iff_of_first? found, or_and_right]
      refine or_congr_left ?_
      refine (and_iff_left_of_imp ?_).symm
      intro same
      subst same
      exact free

/-- Reported spans stand one behind the other. -/
theorem pairwise_scan (claimed : CellSet) (y : Coordinate) (column : Nat) (row : List Char) :
    (scan claimed y column row).Pairwise fun left right => left.lastColumn < right.column := by
  fun_induction scan claimed y column row with
  | case1 => exact .nil
  | case2 _ _ _ _ induction => exact induction
  | case3 => exact .nil
  | case4 _ _ _ _ _ _ _ _ induction => exact induction
  | case5 column c behind first found _ others _ induction =>
      refine List.pairwise_cons.mpr ⟨?_, induction⟩
      intro span member
      exact ((mem_scan_iff claimed y).mp member).1.column_le

/-! ## Spans by their columns -/

/-- The brackets of a pair stand in two columns of a row, with no bracket and not too
many characters between them. -/
structure Encloses (row : List Char) (first last : Nat) : Prop where
  ordered : first < last
  paired : ∃ pair ∈ BracketPair.all,
    row[first]? = some pair.opening ∧ row[last]? = some pair.closing
  plain : ∀ column, first < column → column < last →
    ∀ c, row[column]? = some c → ¬BracketPair.isBracket c = true
  short : last - first - 1 ≤ longest

theorem getElem?_append_cons {α : Type} (before : List α) (item : α) (rest : List α)
    (place : Nat) : (before ++ item :: rest)[before.length + 1 + place]? = rest[place]? := by
  rw [List.getElem?_append_right (by omega), Nat.add_assoc, Nat.add_sub_cancel_left,
    Nat.add_comm 1, List.getElem?_cons_succ]

theorem exists_append_cons {α : Type} {items : List α} {place : Nat} {item : α}
    (present : items[place]? = some item) :
    ∃ before rest, items = before ++ item :: rest ∧ before.length = place := by
  obtain ⟨inside, rfl⟩ := List.getElem?_eq_some_iff.mp present
  refine ⟨items.take place, items.drop (place + 1), ?_, ?_⟩
  · rw [← List.drop_eq_getElem_cons inside, List.take_append_drop]
  · exact List.length_take_of_le (Nat.le_of_lt inside)

theorem StandsIn.encloses (stands : span.StandsIn 0 row) :
    Encloses row span.column span.lastColumn := by
  obtain ⟨before, after, rfl, place, known, rfl, short, plain⟩ := stands
  rw [Nat.zero_add] at place
  have last : span.lastColumn = before.length + 1 + span.inside.length := by
    rw [lastColumn, place]
    omega
  rw [place, last]
  constructor
  case ordered => omega
  case paired =>
    refine ⟨span.pair, known, by simp, ?_⟩
    rw [getElem?_append_cons]
    simp
  case plain =>
    intro column behind ahead c present
    obtain ⟨offset, rfl⟩ := Nat.exists_eq_add_of_le (Nat.succ_le_of_lt behind)
    have inside : offset < span.inside.length := by omega
    rw [Nat.succ_eq_add_one, getElem?_append_cons, List.getElem?_append_left inside] at present
    exact plain c (List.mem_of_getElem? present)
  case short => omega

theorem Encloses.exists_standsIn {last : Nat} (encloses : Encloses row column last) :
    ∃ span : BracketSpan, span.StandsIn 0 row ∧ span.column = column ∧ span.lastColumn = last := by
  obtain ⟨ordered, ⟨pair, known, opening, closing⟩, plain, short⟩ := encloses
  obtain ⟨length, rfl⟩ := Nat.exists_eq_add_of_le (Nat.succ_le_of_lt ordered)
  obtain ⟨before, behind, rfl, rfl⟩ := exists_append_cons opening
  rw [Nat.succ_eq_add_one, getElem?_append_cons] at closing
  obtain ⟨inside, trailing, rfl, rfl⟩ := exists_append_cons closing
  have few : inside.length ≤ longest := by omega
  have unbracketed : ∀ c ∈ inside, ¬BracketPair.isBracket c = true := by
    intro c member
    obtain ⟨offset, present⟩ := List.getElem?_of_mem member
    obtain ⟨within, _⟩ := List.getElem?_eq_some_iff.mp present
    refine plain (before.length + 1 + offset) (by omega) (by omega) c ?_
    rw [getElem?_append_cons, List.getElem?_append_left within, present]
  refine ⟨⟨pair, before.length, inside, trailing⟩, ?_, rfl, Nat.add_right_comm _ _ _⟩
  exact ⟨before, _, rfl, (Nat.zero_add _).symm, known, rfl, few, unbracketed⟩

/-! ## Reported spans -/

theorem toInt_cell (y : Coordinate) (onPlane : column < 0x80000000) :
    (cell y column).x.toInt = column := by
  rw [cell, Coordinate.toInt_saturate]
  omega

theorem toNat?_cell (y : Coordinate) (onPlane : column < 0x80000000) :
    Coordinate.toNat? (cell y column).x = some column := by
  rw [Coordinate.toNat?, toInt_cell y onPlane]
  exact Int.mem_toNat?.mpr rfl

theorem cell_of_toNat? {x : Coordinate} (y : Coordinate)
    (found : Coordinate.toNat? x = some column) : cell y column = ⟨x, y⟩ := by
  have value := Coordinate.toInt_of_toNat?_eq_some found
  have upper := x.toInt_lt
  have same : (cell y column).x = x := by
    rw [← Int32.toInt_inj, toInt_cell y (by omega), value]
  exact congrArg (Point.mk · y) same

/-- What is found in a row are the boxes from the opening to the closing bracket of each
span that is not claimed, from left to right without a common cell. -/
theorem detectRow_spans (claimed : CellSet) (y : Coordinate) (row : List Char) :
    ∃ spans : List (Coordinate × Coordinate),
      ((detectRow claimed y row).map fun detected => detected.component.box) =
        spans.map (fun span => some (Box.ofCorners span.1 y span.2 y)) ∧
      spans.Pairwise (fun left right => left.2 < right.1) ∧
      ∀ x c, (x, c) ∈ spans ↔
        (∃ first last, Coordinate.toNat? x = some first ∧ Coordinate.toNat? c = some last ∧
          Encloses row first last) ∧
        ⟨x, y⟩ ∉ claimed ∧ ⟨c, y⟩ ∉ claimed := by
  refine ⟨(scan claimed y 0 row).map fun span =>
    ((cell y span.column).x, (cell y span.lastColumn).x), ?_, ?_, ?_⟩
  · simp only [detectRow, List.map_map]
    rfl
  · refine List.pairwise_map.mpr ((pairwise_scan claimed y 0 row).imp_of_mem ?_)
    intro left right leftFound rightFound apart
    have leftFree := ((mem_scan_iff claimed y).mp leftFound).2
    have rightFree := ((mem_scan_iff claimed y).mp rightFound).2
    rw [Int32.lt_iff_toInt_lt, toInt_cell y leftFree.onPlane, toInt_cell y rightFree.column_lt]
    omega
  · intro x c
    simp only [List.mem_map, mem_scan_iff, Prod.mk.injEq]
    constructor
    · intro reported
      obtain ⟨span, ⟨stands, free⟩, rfl, rfl⟩ := reported
      exact ⟨⟨_, _, toNat?_cell y free.column_lt, toNat?_cell y free.onPlane, stands.encloses⟩,
        free.unclaimed _ List.mem_cons_self,
        free.unclaimed _ (List.mem_cons_of_mem _ List.mem_cons_self)⟩
    · intro enclosed
      obtain ⟨⟨first, last, firstValue, lastValue, encloses⟩, firstFree, lastFree⟩ := enclosed
      obtain ⟨span, stands, rfl, rfl⟩ := encloses.exists_standsIn
      have firstCell := cell_of_toNat? y firstValue
      have lastCell := cell_of_toNat? y lastValue
      refine ⟨span, ⟨stands, ?_, ?_⟩, congrArg Point.x firstCell, congrArg Point.x lastCell⟩
      · have value := Coordinate.toInt_of_toNat?_eq_some lastValue
        have upper := c.toInt_lt
        omega
      · simp [ends, firstCell, lastCell, firstFree, lastFree]

end BracketSpan

end ScreenSight
