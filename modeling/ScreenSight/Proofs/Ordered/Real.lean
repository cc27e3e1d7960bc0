import ScreenSight.Ordered.Real

/-!
# What the order of keys means

A floating-point number is a sign, an exponent and a mantissa, and its key grows with the
exponent first and then with the mantissa.  So numbers that compare have keys that compare
alike.  Beyond that, keys put negative zero before zero and what is not a number behind
every number, and they are equal for equal numbers only.
-/

namespace ScreenSight

namespace Binary64

open Float.Model
open Float.Model.UnpackedFloat

/-! ## Bits -/

section

variable (bits : UInt64)

/-- The bits of the mantissa. -/
def mantissaOf : Nat := bits.toNat % 0x10000000000000

/-- The bits of the exponent. -/
def exponentOf : Nat := bits.toNat / 0x10000000000000 % 0x800

/-- The sign. -/
def signOf : Sign := Sign.ofBitVec (@unpackSign Format.binary64 bits.toBitVec)

theorem toNat_unpackMantissa :
    (@unpackMantissa Format.binary64 bits.toBitVec).toNat = mantissaOf bits := by
  simp [unpackMantissa, mantissaOf]

theorem toNat_unpackExponent :
    (@unpackExponent Format.binary64 bits.toBitVec).toNat = exponentOf bits := by
  simp [unpackExponent, exponentOf, Nat.shiftRight_eq_div_pow]

theorem unpackMantissa_eq_zero_iff :
    @unpackMantissa Format.binary64 bits.toBitVec = 0#_ ↔ mantissaOf bits = 0 := by
  rw [← BitVec.toNat_inj, toNat_unpackMantissa, BitVec.toNat_ofNat, Nat.zero_mod]

theorem unpackExponent_eq_zero_iff :
    @unpackExponent Format.binary64 bits.toBitVec = 0#_ ↔ exponentOf bits = 0 := by
  rw [← BitVec.toNat_inj, toNat_unpackExponent, BitVec.toNat_ofNat, Nat.zero_mod]

theorem unpackExponent_eq_neg_one_iff :
    @unpackExponent Format.binary64 bits.toBitVec = -1#_ ↔ exponentOf bits = 0x7FF := by
  rw [← BitVec.toNat_inj, toNat_unpackExponent]
  rfl

theorem ofBitVec_eq_negative_iff (sign : BitVec 1) :
    Sign.ofBitVec sign = .negative ↔ sign.toNat = 1 := by
  obtain rfl | rfl : sign = 0 ∨ sign = 1 := by
    revert sign
    decide
  · simp [Sign.ofBitVec]
  · simp [Sign.ofBitVec]

theorem signOf_eq_negative_iff : signOf bits = .negative ↔ 0x8000000000000000 ≤ bits.toNat := by
  have bound := bits.toNat_lt
  have signBit : (@unpackSign Format.binary64 bits.toBitVec).toNat =
      bits.toNat / 0x8000000000000000 % 2 := by
    change (BitVec.extractLsb 63 63 bits.toBitVec).toNat = _
    simp [Nat.shiftRight_eq_div_pow]
  rw [signOf, ofBitVec_eq_negative_iff, signBit]
  omega

theorem finite_congr {sign : Sign} {mantissa otherMantissa : Nat} {exponent otherExponent : Int}
    {positive : 0 < mantissa} {otherPositive : 0 < otherMantissa}
    (mantissas : mantissa = otherMantissa) (exponents : exponent = otherExponent) :
    UnpackedFloat.finite sign mantissa exponent positive =
      .finite sign otherMantissa otherExponent otherPositive := by
  subst mantissas exponents
  rfl

/-- The numbers that bits stand for. -/
theorem unpack_cases :
    (exponentOf bits = 0x7FF ∧ mantissaOf bits = 0 ∧
      UnpackedFloat.unpack Format.binary64 bits.toBitVec = .infinity (signOf bits)) ∨
    (exponentOf bits = 0x7FF ∧ mantissaOf bits ≠ 0 ∧
      UnpackedFloat.unpack Format.binary64 bits.toBitVec = .notANumber) ∨
    (exponentOf bits = 0 ∧ mantissaOf bits = 0 ∧
      UnpackedFloat.unpack Format.binary64 bits.toBitVec = .zero (signOf bits)) ∨
    (exponentOf bits = 0 ∧ ∃ positive,
      UnpackedFloat.unpack Format.binary64 bits.toBitVec =
        .finite (signOf bits) (mantissaOf bits) (-1074) positive) ∨
    (0 < exponentOf bits ∧ exponentOf bits < 0x7FF ∧ ∃ positive,
      UnpackedFloat.unpack Format.binary64 bits.toBitVec =
        .finite (signOf bits) (0x10000000000000 + mantissaOf bits) (exponentOf bits - 1075)
          positive) := by
  have noMantissa := unpackMantissa_eq_zero_iff bits
  have noExponent := unpackExponent_eq_zero_iff bits
  have fullExponent := unpackExponent_eq_neg_one_iff bits
  delta UnpackedFloat.unpack
  dsimp only
  by_cases full : exponentOf bits = 0x7FF
  · rw [if_pos (fullExponent.mpr full)]
    by_cases empty : mantissaOf bits = 0
    · rw [if_pos (noMantissa.mpr empty)]
      exact .inl ⟨full, empty, rfl⟩
    · rw [if_neg (mt noMantissa.mp empty)]
      exact .inr (.inl ⟨full, empty, rfl⟩)
  · rw [if_neg (mt fullExponent.mp full)]
    by_cases least : exponentOf bits = 0
    · rw [if_pos (noExponent.mpr least)]
      by_cases empty : mantissaOf bits = 0
      · rw [dif_pos (noMantissa.mpr empty)]
        exact .inr (.inr (.inl ⟨least, empty, rfl⟩))
      · rw [dif_neg (mt noMantissa.mp empty)]
        refine .inr (.inr (.inr (.inl ⟨least, by omega, finite_congr rfl ?_⟩)))
        rw [toNat_unpackExponent, least]
        rfl
    · rw [if_neg (mt noExponent.mp least)]
      have bounded : exponentOf bits < 0x800 := Nat.mod_lt _ (by decide)
      refine .inr (.inr (.inr (.inr ⟨by omega, by omega, by omega, finite_congr ?_ ?_⟩)))
      · rw [BitVec.toNat_append, ← Nat.shiftLeft_add_eq_or_of_lt (BitVec.isLt _),
          toNat_unpackMantissa]
        rfl
      · rw [toNat_unpackExponent]
        rfl

/-- A magnitude with a sign.  Below zero the greater magnitude comes first. -/
def signed : Sign → Int → Int
  | .positive, magnitude => magnitude
  | .negative, magnitude => -1 - magnitude

theorem key_bits :
    (if bits.toNat < 0x8000000000000000 then (bits.toNat : Int)
      else 0x7FFFFFFFFFFFFFFF - (bits.toNat : Int)) =
      signed (signOf bits) (exponentOf bits * 0x10000000000000 + mantissaOf bits) := by
  have bound := bits.toNat_lt
  have negative := signOf_eq_negative_iff bits
  rw [exponentOf, mantissaOf]
  cases sign : signOf bits with
  | negative =>
      have large := negative.mp sign
      rw [if_neg (by omega), signed]
      omega
  | positive =>
      have small := mt negative.mpr (by simp [sign])
      rw [if_pos (by omega), signed]
      omega

end

/-! ## Numbers -/

/-- The key of a number. -/
def key : UnpackedFloat → Int
  | .zero sign => signed sign 0
  | .finite sign mantissa exponent _ =>
      signed sign ((exponent + 1074) * 0x10000000000000 + mantissa)
  | .infinity sign => signed sign 0x7FF0000000000000
  | .notANumber => 0x7FF8000000000000

/-- The mantissa has its full length, unless the exponent is the least one. -/
def IsCanonical : UnpackedFloat → Prop
  | .finite _ mantissa exponent _ =>
      -1074 ≤ exponent ∧ exponent ≤ 971 ∧ mantissa < 0x20000000000000 ∧
        (exponent = -1074 ∨ 0x10000000000000 ≤ mantissa)
  | _ => True

theorem isCanonical_unpack (number : Float) : IsCanonical number.toModel.unpack := by
  obtain ⟨⟨bits, _⟩⟩ := number
  change IsCanonical (UnpackedFloat.unpack Format.binary64 bits.toBitVec)
  have mantissaBound : mantissaOf bits < 0x10000000000000 := Nat.mod_lt _ (by decide)
  obtain ⟨_, _, shape⟩ | ⟨_, _, shape⟩ | ⟨_, _, shape⟩ | ⟨_, _, shape⟩ |
    ⟨positive, bounded, _, shape⟩ := unpack_cases bits
  · rw [shape]
    trivial
  · rw [shape]
    trivial
  · rw [shape]
    trivial
  · rw [shape]
    exact ⟨by decide, by decide, by omega, .inl rfl⟩
  · rw [shape]
    exact ⟨by omega, by omega, by omega, .inr (by omega)⟩

theorem orderKey_eq (number : Float) : orderKey number = key number.toModel.unpack := by
  obtain ⟨⟨bits, valid⟩⟩ := number
  change (if bits.toNat < 0x8000000000000000 then (bits.toNat : Int)
    else 0x7FFFFFFFFFFFFFFF - (bits.toNat : Int)) =
      key (UnpackedFloat.unpack Format.binary64 bits.toBitVec)
  obtain ⟨full, empty, shape⟩ | ⟨full, payload, shape⟩ | ⟨least, empty, shape⟩ |
    ⟨least, _, shape⟩ | ⟨_, _, _, shape⟩ := unpack_cases bits
  · rw [key_bits, shape, full, empty]
    rfl
  · have packed : bits.toBitVec = packedNaN Format.binary64 :=
      valid.eq_packedNaN ((unpackExponent_eq_neg_one_iff bits).mpr full)
        (mt (unpackMantissa_eq_zero_iff bits).mp payload)
    have whole : bits.toNat = 0x7FF8000000000000 := by
      rw [← UInt64.toNat_toBitVec, packed]
      decide
    rw [shape, whole]
    rfl
  · rw [key_bits, shape, least, empty]
    rfl
  · rw [key_bits, least, shape]
    rfl
  · rw [key_bits, shape]
    refine congrArg (signed (signOf bits)) ?_
    rw [Int.natCast_add]
    omega

theorem compare_then_eq_lt_iff {leftMantissa rightMantissa : Nat} {left right : Int} :
    (compare left right).then (compare leftMantissa rightMantissa) = .lt ↔
      left < right ∨ (left = right ∧ leftMantissa < rightMantissa) := by
  rw [Ordering.then_eq_lt, Int.compare_eq_lt, Int.compare_eq_eq, Nat.compare_eq_lt]

theorem compare_then_eq_gt_iff {leftMantissa rightMantissa : Nat} {left right : Int} :
    (compare left right).then (compare leftMantissa rightMantissa) = .gt ↔
      right < left ∨ (left = right ∧ rightMantissa < leftMantissa) := by
  rw [Ordering.then_eq_gt, Int.compare_eq_gt, Int.compare_eq_eq, Nat.compare_eq_gt]

theorem key_lt_iff_of_ne {left right : UnpackedFloat} (leftCanonical : IsCanonical left)
    (rightCanonical : IsCanonical right) (leftNumber : left ≠ .notANumber)
    (rightNumber : right ≠ .notANumber) :
    key left < key right ↔
      left.lt right = true ∨ (left = .zero .negative ∧ right = .zero .positive) := by
  cases left with
  | notANumber => exact absurd rfl leftNumber
  | infinity sign =>
      cases right with
      | notANumber => exact absurd rfl rightNumber
      | infinity other =>
          cases sign <;> cases other <;>
            simp only [reduceCtorEq, and_false, or_false] <;> decide
      | zero other =>
          cases sign <;> cases other <;>
            dsimp only [UnpackedFloat.lt, UnpackedFloat.compare, key, signed] <;> simp
      | finite other mantissa exponent positive =>
          obtain ⟨least, greatest, short, _⟩ := rightCanonical
          refine Iff.trans ?_ (or_iff_left fun both => nomatch both.2).symm
          cases sign <;> cases other <;>
            dsimp only [UnpackedFloat.lt, UnpackedFloat.compare, key, signed] <;> simp <;> omega
  | zero sign =>
      cases right with
      | notANumber => exact absurd rfl rightNumber
      | infinity other =>
          cases sign <;> cases other <;>
            simp only [reduceCtorEq, and_false, or_false] <;> decide
      | zero other =>
          cases sign <;> cases other <;>
            dsimp only [UnpackedFloat.lt, UnpackedFloat.compare, key, signed] <;> simp
      | finite other mantissa exponent positive =>
          obtain ⟨least, greatest, short, _⟩ := rightCanonical
          refine Iff.trans ?_ (or_iff_left fun both => nomatch both.2).symm
          cases sign <;> cases other <;>
            dsimp only [UnpackedFloat.lt, UnpackedFloat.compare, key, signed] <;> simp <;> omega
  | finite sign mantissa exponent positive =>
      obtain ⟨least, greatest, short, full⟩ := leftCanonical
      refine Iff.trans ?_ (or_iff_left fun both => nomatch both.1).symm
      cases right with
      | notANumber => exact absurd rfl rightNumber
      | infinity other =>
          cases sign <;> cases other <;>
            dsimp only [UnpackedFloat.lt, UnpackedFloat.compare, key, signed] <;> simp <;> omega
      | zero other =>
          cases sign <;> cases other <;>
            dsimp only [UnpackedFloat.lt, UnpackedFloat.compare, key, signed] <;> simp <;> omega
      | finite other otherMantissa otherExponent otherPositive =>
          -- one more in the exponent outweighs the mantissas, since the greater number is normal
          obtain ⟨otherLeast, otherGreatest, otherShort, otherFull⟩ := rightCanonical
          cases sign <;> cases other <;>
            dsimp only [UnpackedFloat.lt, UnpackedFloat.compare, key, signed] <;>
            simp [compare_then_eq_lt_iff, compare_then_eq_gt_iff] <;>
            omega

theorem key_lt_notANumber {number : UnpackedFloat} (canonical : IsCanonical number)
    (isNumber : number ≠ .notANumber) : key number < key .notANumber := by
  cases number with
  | notANumber => exact absurd rfl isNumber
  | infinity sign => cases sign <;> decide
  | zero sign => cases sign <;> decide
  | finite sign mantissa exponent positive =>
      obtain ⟨least, greatest, short, _⟩ := canonical
      cases sign <;> dsimp only [key, signed] <;> omega

theorem lt_notANumber (number : UnpackedFloat) : number.lt .notANumber = false := by
  cases number <;> rfl

theorem notANumber_lt (number : UnpackedFloat) : UnpackedFloat.lt .notANumber number = false := by
  cases number <;> rfl

/-- Keys grow along the comparison of numbers, from negative zero to zero, and from every number
to what is not a number. -/
theorem key_lt_iff {left right : UnpackedFloat} (leftCanonical : IsCanonical left)
    (rightCanonical : IsCanonical right) :
    key left < key right ↔
      left.lt right = true ∨ (left = .zero .negative ∧ right = .zero .positive) ∨
        (left ≠ .notANumber ∧ right = .notANumber) := by
  by_cases rightNumber : right = .notANumber
  · subst right
    by_cases leftNumber : left = .notANumber
    · simp [leftNumber, lt_notANumber]
    · simp [leftNumber, key_lt_notANumber leftCanonical leftNumber]
  · by_cases leftNumber : left = .notANumber
    · have behind := key_lt_notANumber rightCanonical rightNumber
      subst left
      simp [rightNumber, notANumber_lt, Int.le_of_lt behind]
    · rw [key_lt_iff_of_ne leftCanonical rightCanonical leftNumber rightNumber]
      simp [rightNumber]

end Binary64

/-- The total order of floating-point numbers.  It refines their comparison: negative zero stands
before zero, and every number before what is not a number, of which there is only one value. -/
def StandsBefore (left right : Float) : Prop :=
  left < right ∨ (left = -0.0 ∧ right = 0.0) ∨ (left.isNaN = false ∧ right.isNaN = true)

theorem toBits_inj {left right : Float} : left.toBits = right.toBits ↔ left = right := by
  obtain ⟨⟨leftBits, _⟩⟩ := left
  obtain ⟨⟨rightBits, _⟩⟩ := right
  constructor
  · intro same
    change leftBits = rightBits at same
    subst same
    rfl
  · intro same
    rw [same]

theorem orderKey_inj {left right : Float} : orderKey left = orderKey right ↔ left = right := by
  constructor
  · intro same
    have leftBound := left.toBits.toNat_lt
    have rightBound := right.toBits.toNat_lt
    rw [← toBits_inj, ← UInt64.toNat_inj]
    simp only [orderKey] at same
    omega
  · intro same
    rw [same]

theorem Binary64.unpack_inj {left right : Float} :
    left.toModel.unpack = right.toModel.unpack ↔ left = right := by
  constructor
  · intro same
    rw [← orderKey_inj, orderKey_eq, orderKey_eq, same]
  · intro same
    rw [same]

open Binary64 Float.Model.UnpackedFloat in
theorem orderKey_lt_iff {left right : Float} :
    orderKey left < orderKey right ↔ StandsBefore left right := by
  have comparison : left < right ↔ left.toModel.unpack.lt right.toModel.unpack = true :=
    decide_eq_true_iff
  have negativeZero : left.toModel.unpack = .zero .negative ↔ left = -0.0 := by
    rw [← unpack_inj]
    rfl
  have zero : right.toModel.unpack = .zero .positive ↔ right = 0.0 := by
    rw [← unpack_inj]
    rfl
  have notANumber : ∀ number : Float, number.toModel.unpack = .notANumber ↔
      number.isNaN = true := by
    intro number
    change _ ↔ number.toModel.unpack.isNaN = true
    cases number.toModel.unpack with
    | notANumber => exact iff_of_true rfl rfl
    | _ => exact iff_of_false nofun nofun
  rw [orderKey_eq, orderKey_eq, key_lt_iff (isCanonical_unpack left) (isCanonical_unpack right),
    StandsBefore, comparison, negativeZero, zero, ne_eq, notANumber, notANumber,
    Bool.not_eq_true]

theorem not_standsBefore_iff {left right : Float} :
    ¬StandsBefore left right ↔ orderKey right ≤ orderKey left := by
  rw [← orderKey_lt_iff, Int.not_lt]

theorem not_standsBefore_self (number : Float) : ¬StandsBefore number number :=
  not_standsBefore_iff.mpr (Int.le_refl _)

/-- The order is total. -/
theorem standsBefore_of_not {left right : Float} (notAfter : ¬StandsBefore right left)
    (differ : right ≠ left) : StandsBefore left right := by
  rw [not_standsBefore_iff] at notAfter
  rw [← orderKey_lt_iff]
  have keysDiffer := mt orderKey_inj.mp differ
  omega

end ScreenSight
