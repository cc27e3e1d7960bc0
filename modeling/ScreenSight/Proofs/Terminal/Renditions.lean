import ScreenSight.Proofs.Terminal.PlainText

/-!
# Renditions on a terminal

A capture made of characters and complete control sequences is decoded one item at a
time: every item begins and ends in plain text, and the parameters of a sequence are
gone with its final character.  Colours and other renditions have no action, so a
capture shows the same with them and without.
-/

namespace ScreenSight.Terminal

/-- A character in the parameters of a control sequence. -/
inductive ParameterMark where
  | digit (value : Fin 10)
  | separator
  | subseparator
  deriving DecidableEq

def ParameterMark.byte : ParameterMark → UInt8
  | .digit value => UInt8.ofNat (0x30 + value)
  | .separator => 0x3B
  | .subseparator => 0x3A

/-- The control sequences that a capture may hold. -/
inductive SequenceKind where
  | up
  | down
  | forward
  | backward
  | position
  /-- The second way to write `position`. -/
  | formatPosition
  | eraseScreen
  | eraseRow
  /-- Colours, weights and the like. -/
  | rendition
  deriving DecidableEq

/-- The character that ends the sequence. -/
def SequenceKind.final : SequenceKind → Char
  | .up => 'A'
  | .down => 'B'
  | .forward => 'C'
  | .backward => 'D'
  | .position => 'H'
  | .formatPosition => 'f'
  | .eraseScreen => 'J'
  | .eraseRow => 'K'
  | .rendition => 'm'

/-- A part of a capture that is complete by itself. -/
inductive Item where
  | printable (c : Char) (printable : isPrintable c = true)
  | lineFeed
  | carriageReturn
  | tab
  | backspace
  | sequence (marks : List ParameterMark) (kind : SequenceKind)
  deriving DecidableEq

/-- The parameters that some marks make up. -/
def Parameters.ofMarks (marks : List ParameterMark) : Parameters :=
  marks.foldl (fun parameters mark => parameters.read mark.byte.toNat) {}

namespace Item

/-- How an item is written. -/
def bytes : Item → List UInt8
  | .printable c _ => String.utf8EncodeChar c
  | .lineFeed => [0x0A]
  | .carriageReturn => [0x0D]
  | .tab => [0x09]
  | .backspace => [0x08]
  | .sequence marks kind =>
      0x1B :: 0x5B :: (marks.map ParameterMark.byte ++ [kind.final.toUInt8])

/-- What an item does. -/
def action? : Item → Option Action
  | .printable c _ => some (.print c)
  | .lineFeed => some .lineFeed
  | .carriageReturn => some .carriageReturn
  | .tab => some .tab
  | .backspace => some .backspace
  | .sequence marks kind => Action.ofSequence? (Parameters.ofMarks marks).values kind.final

def isRendition : Item → Bool
  | .sequence _ .rendition => true
  | _ => false

end Item

/-! ## Bytes of a sequence -/

section

variable {byte : UInt8}

theorem ParameterMark.toNat_byte (mark : ParameterMark) :
    0x30 ≤ mark.byte.toNat ∧ mark.byte.toNat < 0x3C := by
  cases mark with
  | digit value =>
      have code : (UInt8.ofNat (0x30 + value)).toNat = 0x30 + value :=
        toNat_ofNat_byte (by omega)
      rw [ParameterMark.byte, code]
      omega
  | separator => decide
  | subseparator => decide

theorem SequenceKind.toNat_final (kind : SequenceKind) :
    0x40 ≤ kind.final.toUInt8.toNat ∧ kind.final.toUInt8.toNat < 0x7F := by
  cases kind <;> decide

theorem SequenceKind.ofNat_final (kind : SequenceKind) :
    Char.ofNat kind.final.toUInt8.toNat = kind.final := by
  cases kind <;> decide

theorem step_sequenceParameters (visible : 0x20 ≤ byte.toNat) (parameters : Parameters) :
    step (.sequenceParameters parameters) byte =
      stepParameters (.sequenceParameters parameters) false parameters byte := by
  have cancel : ¬(byte.toNat = 0x18 ∨ byte.toNat = 0x1A) := by omega
  have escape : byte.toNat ≠ 0x1B := by omega
  simp only [step, if_neg cancel, if_neg escape]

/-- The start of a sequence differs from its parameters in private markers only. -/
theorem step_sequenceEntry (visible : 0x20 ≤ byte.toNat) (ascii : byte.toNat < 0x7F)
    (notPrivate : byte.toNat < 0x3C ∨ 0x40 ≤ byte.toNat) :
    step .sequenceEntry byte = step (.sequenceParameters {}) byte := by
  have cancel : ¬(byte.toNat = 0x18 ∨ byte.toNat = 0x1A) := by omega
  have escape : byte.toNat ≠ 0x1B := by omega
  have notControl : ¬isControl byte.toNat = true := by
    simpa [isControl] using visible
  rw [step_sequenceParameters visible]
  simp only [step, stepParameters, if_neg cancel, if_neg escape, if_neg notControl, if_pos ascii]
  by_cases mark : byte.toNat < 0x3C
  · simp only [if_pos mark]
  · have final : ¬byte.toNat < 0x40 := by omega
    simp only [if_neg mark, if_neg final]

theorem step_mark (parameters : Parameters) (mark : ParameterMark) :
    step (.sequenceParameters parameters) mark.byte =
      (.sequenceParameters (parameters.read mark.byte.toNat), none) := by
  obtain ⟨low, high⟩ := mark.toNat_byte
  have notControl : ¬isControl mark.byte.toNat = true := by
    simp only [isControl, decide_eq_true_eq]
    omega
  rw [step_sequenceParameters (by omega), stepParameters, if_neg notControl,
    if_neg (by omega), if_pos high]

theorem step_final (parameters : Parameters) (kind : SequenceKind) :
    step (.sequenceParameters parameters) kind.final.toUInt8 =
      (.ground, Action.ofSequence? parameters.values kind.final) := by
  obtain ⟨low, high⟩ := kind.toNat_final
  have notControl : ¬isControl kind.final.toUInt8.toNat = true := by
    simp only [isControl, decide_eq_true_eq]
    omega
  rw [step_sequenceParameters (by omega), stepParameters, if_neg notControl,
    if_neg (by omega), if_neg (by omega), if_neg (by omega), if_pos high, finishSequence,
    kind.ofNat_final]

end

/-! ## Items -/

theorem decode_marks (marks : List ParameterMark) (parameters : Parameters)
    (rest : List UInt8) :
    decodeFrom (.sequenceParameters parameters) (marks.map ParameterMark.byte ++ rest) =
      decodeFrom
        (.sequenceParameters
          (marks.foldl (fun parameters mark => parameters.read mark.byte.toNat) parameters))
        rest := by
  induction marks generalizing parameters with
  | nil => rfl
  | cons mark marks induction =>
      rw [List.map_cons, List.cons_append, decodeFrom_cons, step_mark, List.foldl_cons]
      exact induction (parameters.read mark.byte.toNat)

theorem decode_entry (marks : List ParameterMark) (kind : SequenceKind) (rest : List UInt8) :
    decodeFrom .sequenceEntry
        (marks.map ParameterMark.byte ++ kind.final.toUInt8 :: rest) =
      decodeFrom (.sequenceParameters {})
        (marks.map ParameterMark.byte ++ kind.final.toUInt8 :: rest) := by
  cases marks with
  | nil =>
      obtain ⟨low, high⟩ := kind.toNat_final
      have same := step_sequenceEntry (by omega) high (.inr low)
      rw [List.map_nil, List.nil_append, decodeFrom_cons, same, ← decodeFrom_cons]
  | cons mark marks =>
      obtain ⟨low, high⟩ := mark.toNat_byte
      have same := step_sequenceEntry (by omega) (by omega) (.inl high)
      rw [List.map_cons, List.cons_append, decodeFrom_cons, same, ← decodeFrom_cons]

/-- A sequence begins with no parameters of its own, whatever came before it. -/
theorem decode_sequence (marks : List ParameterMark) (kind : SequenceKind)
    (rest : List UInt8) :
    decodeFrom .ground ((Item.sequence marks kind).bytes ++ rest) =
      (Item.sequence marks kind).action?.toList ++ decodeFrom .ground rest := by
  have written : (Item.sequence marks kind).bytes ++ rest =
      0x1B :: 0x5B :: (marks.map ParameterMark.byte ++ kind.final.toUInt8 :: rest) := by
    simp [Item.bytes]
  have opened : decodeFrom .ground ((Item.sequence marks kind).bytes ++ rest) =
      decodeFrom .sequenceEntry
        (marks.map ParameterMark.byte ++ kind.final.toUInt8 :: rest) := by
    rw [written]
    rfl
  rw [opened, decode_entry, decode_marks, decodeFrom_cons, step_final]
  rfl

/-- Every item leads from plain text to plain text. -/
theorem decode_item (item : Item) (rest : List UInt8) :
    decodeFrom .ground (item.bytes ++ rest) =
      item.action?.toList ++ decodeFrom .ground rest := by
  cases item with
  | printable c printable =>
      have notEscape := PlainText.ne_of_control printable '\x1B' (by decide)
      have decoded := decode_char c notEscape rest
      rw [ofChar?_of_printable printable] at decoded
      exact decoded
  | lineFeed => rfl
  | carriageReturn => rfl
  | tab => rfl
  | backspace => rfl
  | sequence marks kind => exact decode_sequence marks kind rest

theorem decode_items (items : List Item) :
    decode (items.flatMap Item.bytes) = items.filterMap Item.action? := by
  rw [decode]
  induction items with
  | nil => rfl
  | cons item items induction =>
      rw [List.flatMap_cons, decode_item, induction, List.filterMap_cons]
      cases item.action? <;> rfl

example : decode "\x1B[1;31m[ OK ]\x1B[0m".toUTF8.data.toList =
    "[ OK ]".toList.map .print := by
  decide

/-! ## Renditions -/

theorem Item.action?_of_isRendition {item : Item} (rendition : item.isRendition = true) :
    item.action? = none := by
  cases item with
  | sequence marks kind =>
      cases kind with
      | rendition => rfl
      | _ => contradiction
  | _ => contradiction

/-- Leaving out the renditions leaves out no action. -/
theorem filterMap_action?_filter (items : List Item) :
    (items.filter fun item => !item.isRendition).filterMap Item.action? =
      items.filterMap Item.action? := by
  rw [List.filterMap_filter]
  apply List.filterMap_congr
  intro item _
  cases rendition : item.isRendition with
  | true => exact (Item.action?_of_isRendition rendition).symm
  | false => rfl

/-- Renditions may stand between any two items of a capture: the grid is that of the
capture without them. -/
theorem load_unrendered (items : List Item) (limits : Limits) :
    load (items.flatMap Item.bytes) limits =
      load ((items.filter fun item => !item.isRendition).flatMap Item.bytes) limits := by
  rw [load, load, Canvas.feed, Canvas.feed, decode_items, decode_items,
    filterMap_action?_filter]

end ScreenSight.Terminal
