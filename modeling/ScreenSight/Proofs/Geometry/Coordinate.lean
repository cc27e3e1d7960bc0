import ScreenSight.Geometry.Coordinate

/-!
# Coordinates as integers

Ranges of coordinates and conversions to natural numbers, read as integers.
-/

namespace ScreenSight.Coordinate

theorem toInt_of_toNat?_eq_some {value : Coordinate} {number : Nat}
    (found : toNat? value = some number) : value.toInt = number :=
  Int.mem_toNat?.mp found

theorem toInt_neg_of_toNat?_eq_none {value : Coordinate}
    (missing : toNat? value = none) : value.toInt < 0 := by
  unfold toNat? at missing
  cases sign : value.toInt with
  | ofNat number => simp [sign, Int.toNat?] at missing
  | negSucc number => exact Int.negSucc_lt_zero number

theorem ofInt?_eq_some_iff {number : Int} {value : Coordinate} :
    ofInt? number = some value ↔ value.toInt = number := by
  have lower := value.le_toInt
  have upper := value.toInt_lt
  unfold ofInt?
  split
  · next fits =>
      rw [Option.some.injEq, ← Int32.toInt_inj, Int32.toInt_ofInt_of_le (by omega) (by omega),
        eq_comm]
  · next outside =>
      simp only [reduceCtorEq, false_iff]
      omega

theorem mem_below_iff {count : Nat} {value : Coordinate} :
    value ∈ below count ↔ 0 ≤ value.toInt ∧ value.toInt < count := by
  have upper := value.toInt_lt
  simp only [below, List.mem_map, List.mem_range]
  constructor
  · rintro ⟨index, small, rfl⟩
    have exact : (Int32.ofInt index).toInt = index :=
      Int32.toInt_ofInt_of_le (by omega) (by omega)
    omega
  · rintro ⟨nonnegative, small⟩
    refine ⟨value.toInt.toNat, by omega, ?_⟩
    rw [Int.toNat_of_nonneg nonnegative, Int32.ofInt_toInt]

/-- A scan never goes beyond what it scans. -/
theorem scanEnd_le (extent : Nat) : scanEnd extent ≤ extent := by
  rw [scanEnd, Int32.toInt_ofNat', Int32.size, Int.bmod]
  split <;> omega

theorem scanEnd_of_lt {extent : Nat} (small : extent < 0x80000000) : scanEnd extent = extent := by
  rw [scanEnd, Int32.toInt_ofNat_of_lt small, Int.toNat_natCast]

theorem mem_scanned_iff {extent : Nat} {value : Coordinate} :
    value ∈ scanned extent ↔ 0 ≤ value.toInt ∧ value.toInt < scanEnd extent :=
  mem_below_iff

theorem mem_below_of_mem_scanned {extent : Nat} {value : Coordinate}
    (member : value ∈ scanned extent) : value ∈ below extent := by
  have bound := scanEnd_le extent
  rw [mem_scanned_iff] at member
  rw [mem_below_iff]
  omega

end ScreenSight.Coordinate
