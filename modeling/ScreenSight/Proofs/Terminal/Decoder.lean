import ScreenSight.Terminal.Decoder

/-!
# Decoding text

Every character of a text that never leaves plain text is decoded by itself, however
many bytes it is encoded in.
-/

namespace ScreenSight.Terminal

/-- What a character does in plain text. -/
def Action.ofChar? (c : Char) : Option Action :=
  if isControl c.toNat then Action.ofControl? (UInt8.ofNat c.toNat) else some (.print c)

theorem decodeFrom_cons (state : State) (byte : UInt8) (rest : List UInt8) :
    decodeFrom state (byte :: rest) =
      (step state byte).2.toList ++ decodeFrom (step state byte).1 rest :=
  rfl

/-! ## Bytes -/

section

variable {byte : Nat}

theorem toNat_ofNat_byte (small : byte < 0x100) : (UInt8.ofNat byte).toNat = byte := by
  rw [UInt8.toNat_ofNat', Nat.mod_eq_of_lt small]

theorem decode_ascii (small : byte < 0x80) (notEscape : byte ≠ 0x1B) (rest : List UInt8) :
    decodeFrom .ground (UInt8.ofNat byte :: rest) =
      (if isControl byte then Action.ofControl? (UInt8.ofNat byte)
        else some (.print (Char.ofNat byte))).toList ++ decodeFrom .ground rest := by
  have code : (UInt8.ofNat byte).toNat = byte := toNat_ofNat_byte (by omega)
  rw [decodeFrom_cons]
  by_cases cancel : byte = 0x18 ∨ byte = 0x1A
  · -- cancelling has nothing to cancel here
    rcases cancel with rfl | rfl <;> rfl
  · simp only [step, stepGround, code, if_neg cancel, if_neg notEscape, if_pos small]
    split <;> rfl

theorem decode_lead (low : 0xC2 ≤ byte) (high : byte ≤ 0xF4) (rest : List UInt8) :
    decodeFrom .ground (UInt8.ofNat byte :: rest) = decodeFrom (State.ofLead byte) rest := by
  have code : (UInt8.ofNat byte).toNat = byte := toNat_ofNat_byte (by omega)
  have visible : ¬isControl byte = true := by
    simp [isControl]
    omega
  have cancel : ¬(byte = 0x18 ∨ byte = 0x1A) := by omega
  have escape : byte ≠ 0x1B := by omega
  have long : ¬byte < 0x80 := by omega
  rw [decodeFrom_cons]
  simp only [step, stepGround, code, if_neg cancel, if_neg escape, if_neg visible, if_neg long,
    if_pos (And.intro low high)]
  rfl

variable {low high : Nat}

theorem decode_further (within : low ≤ byte ∧ byte ≤ high) (small : byte < 0x100)
    (bits remaining : Nat) (rest : List UInt8) :
    decodeFrom (.utf8 bits (remaining + 2) low high) (UInt8.ofNat byte :: rest) =
      decodeFrom (.utf8 (bits * 64 + (byte - 0x80)) (remaining + 1) 0x80 0xBF) rest := by
  have more : ¬remaining + 2 = 1 := by omega
  rw [decodeFrom_cons]
  simp only [step, stepUtf8, toNat_ofNat_byte small, if_pos within, if_neg more]
  rfl

theorem decode_last (within : low ≤ byte ∧ byte ≤ high) (small : byte < 0x100)
    (bits : Nat) (rest : List UInt8) :
    decodeFrom (.utf8 bits 1 low high) (UInt8.ofNat byte :: rest) =
      .print (Char.ofNat (bits * 64 + (byte - 0x80))) :: decodeFrom .ground rest := by
  rw [decodeFrom_cons]
  simp only [step, stepUtf8, toNat_ofNat_byte small, if_pos within]
  rfl

end

/-! ## Characters -/

section

variable {bits : Nat}

theorem ofLead_two (small : bits < 0x20) :
    State.ofLead (bits + 0xC0) = .utf8 bits 1 0x80 0xBF := by
  rw [State.ofLead, if_pos (by omega), Nat.add_sub_cancel]

theorem ofLead_three (small : bits < 0x10) :
    State.ofLead (bits + 0xE0) =
      .utf8 bits 2 (if bits = 0 then 0xA0 else 0x80) (if bits = 0xD then 0x9F else 0xBF) := by
  rw [State.ofLead, if_neg (by omega), if_pos (by omega), Nat.add_sub_cancel]
  congr 1 <;> simp

theorem ofLead_four : State.ofLead (bits + 0xF0) =
    .utf8 bits 3 (if bits = 0 then 0x90 else 0x80) (if bits = 4 then 0x8F else 0xBF) := by
  rw [State.ofLead, if_neg (by omega), if_neg (by omega), Nat.add_sub_cancel]
  congr 1 <;> simp

end

theorem decode_char (c : Char) (notEscape : c ≠ '\x1B') (rest : List UInt8) :
    decodeFrom .ground (String.utf8EncodeChar c ++ rest) =
      (Action.ofChar? c).toList ++ decodeFrom .ground rest := by
  have scalar : c.val.toNat < 0xD800 ∨ 0xDFFF < c.val.toNat ∧ c.val.toNat < 0x110000 := c.valid
  have same : Char.ofNat c.val.toNat = c := Char.ofNat_toNat c
  unfold String.utf8EncodeChar Action.ofChar? Char.toNat
  generalize c.val.toNat = code at scalar same
  by_cases one : code ≤ 0x7F
  · have plain : code ≠ 0x1B := by
      intro escape
      apply notEscape
      rw [← same, escape]
    simp only [if_pos one, List.singleton_append, decode_ascii (Nat.lt_succ_of_le one) plain, same]
  have visible : ¬isControl code = true := by
    simp [isControl]
    omega
  simp only [if_neg one, if_neg visible, Option.toList_some, List.singleton_append]
  by_cases two : code ≤ 0x7FF
  · have bits : code / 64 % 32 * 64 + (code % 64 + 128 - 0x80) = code := by omega
    rw [if_pos two, List.cons_append, List.singleton_append, decode_lead (by omega) (by omega),
      ofLead_two (by omega), decode_last (by omega) (by omega), bits, same]
  rw [if_neg two]
  by_cases three : code ≤ 0xFFFF
  · have bits : (code / 4096 % 16 * 64 + (code / 64 % 64 + 128 - 0x80)) * 64 +
        (code % 64 + 128 - 0x80) = code := by omega
    have within : (if code / 4096 % 16 = 0 then 0xA0 else 0x80) ≤ code / 64 % 64 + 128 ∧
        code / 64 % 64 + 128 ≤ (if code / 4096 % 16 = 0xD then 0x9F else 0xBF) := by
      constructor <;> split <;> omega
    rw [if_pos three, List.cons_append, List.cons_append, List.singleton_append,
      decode_lead (by omega) (by omega), ofLead_three (by omega),
      decode_further within (by omega), decode_last (by omega) (by omega), bits, same]
  · have bits : ((code / 262144 % 8 * 64 + (code / 4096 % 64 + 128 - 0x80)) * 64 +
        (code / 64 % 64 + 128 - 0x80)) * 64 + (code % 64 + 128 - 0x80) = code := by omega
    have within : (if code / 262144 % 8 = 0 then 0x90 else 0x80) ≤ code / 4096 % 64 + 128 ∧
        code / 4096 % 64 + 128 ≤ (if code / 262144 % 8 = 4 then 0x8F else 0xBF) := by
      constructor <;> split <;> omega
    rw [if_neg three, List.cons_append, List.cons_append, List.cons_append,
      List.singleton_append, decode_lead (by omega) (by omega), ofLead_four,
      decode_further within (by omega), decode_further (by omega) (by omega),
      decode_last (by omega) (by omega), bits, same]

/-- Text without escape characters is decoded one character at a time. -/
theorem decode_text {text : List Char} (plain : '\x1B' ∉ text) :
    decode (text.flatMap String.utf8EncodeChar) = text.filterMap Action.ofChar? := by
  rw [decode]
  induction text with
  | nil => rfl
  | cons c rest induction =>
      have notEscape : c ≠ '\x1B' := by
        intro escape
        exact plain (escape ▸ List.mem_cons_self)
      have later : '\x1B' ∉ rest := fun member => plain (List.mem_cons_of_mem c member)
      rw [List.flatMap_cons, decode_char c notEscape, induction later,
        List.filterMap_cons]
      cases Action.ofChar? c <;> rfl

/-- The bytes of a text are those of its characters. -/
theorem bytes_eq (text : String) :
    text.toUTF8.data.toList = text.toList.flatMap String.utf8EncodeChar := by
  rw [String.toUTF8_eq_toByteArray, ← String.utf8Encode_toList, List.utf8Encode,
    List.toList_data_toByteArray]

end ScreenSight.Terminal
