import MaterialGraph.Proofs.Numerals
import MaterialGraph.Proofs.Rounding

/-!
# Shortest decimals read back

A grid of nine digits is finer than the rounding interval of any number, so the search for a
shortest decimal always ends in that interval. Whatever has the value of the shortest decimal rounds
to the number, in particular the decimal that is spelled with a point and no exponent.
-/

namespace MaterialGraph

namespace Decimal

/-- The exact value. -/
def value (d : Decimal) : ℚ :=
  d.coefficient * 10 ^ d.exponent

/-- The ratio of a decimal has its value. -/
theorem value_toRatio (d : Decimal) : d.toRatio.value = d.value := by
  rw [toRatio, Ratio.value_scale _ (by norm_num), Ratio.value, value]
  norm_num

theorem den_toRatio_pos (d : Decimal) : 0 < d.toRatio.den :=
  Ratio.den_scale_pos Nat.one_pos (by norm_num) _

/-- A decimal of positive value has a digit other than zero. -/
theorem coefficient_ne_zero {d : Decimal} (h : 0 < d.value) : d.coefficient ≠ 0 := by
  intro hzero
  simp [value, hzero] at h

/-- Dropping zeros keeps the value. -/
theorem value_trimWithin (limit : Nat) (d : Decimal) : (d.trimWithin limit).value = d.value := by
  induction limit generalizing d with
  | zero => rfl
  | succ limit ih =>
    rw [trimWithin]
    split
    · rename_i hzero
      rw [ih, value, value]
      have hdivision : (d.coefficient : ℚ) = 10 * (d.coefficient / 10 : Nat) := by
        have := Nat.div_add_mod d.coefficient 10
        rw [hzero, Nat.add_zero] at this
        exact_mod_cast this.symm
      rw [hdivision, zpow_add₀ (by norm_num)]
      ring
    · rfl

/-- Trimming keeps the value. -/
theorem value_trim (d : Decimal) : d.trim.value = d.value := by
  rw [trim]
  split
  · rfl
  · exact value_trimWithin _ d

/-- A positive decimal lies in its decade. -/
theorem decade_spec {d : Decimal} (hd : 0 < d.coefficient) :
    (10 : ℚ) ^ d.decade ≤ d.value ∧ d.value < (10 : ℚ) ^ (d.decade + 1) := by
  have hpos := digitCount_pos d.coefficient
  have hpower : (0 : ℚ) < 10 ^ d.exponent := by positivity
  have hlow : ((10 ^ (digitCount d.coefficient - 1) : Nat) : ℚ) ≤ d.coefficient :=
    Nat.cast_le.mpr (pow_digitCount_le hd)
  have hhigh : (d.coefficient : ℚ) < ((10 ^ digitCount d.coefficient : Nat) : ℚ) :=
    Nat.cast_lt.mpr (lt_pow_digitCount d.coefficient)
  push_cast at hlow hhigh
  rw [← zpow_natCast] at hlow hhigh
  constructor
  · calc (10 : ℚ) ^ d.decade
        = 10 ^ ((digitCount d.coefficient - 1 : Nat) : Int) * 10 ^ d.exponent := by
          rw [← zpow_add₀ (by norm_num), decade]
          congr 1
          omega
      _ ≤ d.value := by
          rw [value]
          gcongr
  · calc d.value < 10 ^ (digitCount d.coefficient : Int) * 10 ^ d.exponent := by
          rw [value]
          gcongr
      _ = (10 : ℚ) ^ (d.decade + 1) := by
          rw [← zpow_add₀ (by norm_num), decade]
          congr 1
          omega

end Decimal

/-- A positive ratio is not below its decade. -/
theorem Ratio.pow_decade_le {r : Ratio} (hnum : 0 < r.num) (hden : 0 < r.den) :
    (10 : ℚ) ^ r.decade ≤ r.value := by
  have hden' : (0 : ℚ) < r.den := by exact_mod_cast hden
  rw [decade, value, le_div_iff₀ hden']
  split
  · have hbound : r.den ≤ r.num * 10 ^ digitCount ((r.den - 1) / r.num) := by
      have := (Nat.div_lt_iff_lt_mul hnum).mp (lt_pow_digitCount ((r.den - 1) / r.num))
      rw [Nat.mul_comm]
      omega
    rw [zpow_neg, zpow_natCast, inv_mul_le_iff₀ (by positivity), mul_comm]
    exact_mod_cast hbound
  · rename_i habove
    have hquotient : 0 < r.num / r.den := by
      refine Nat.div_pos ?_ hden
      simpa [belowOne] using habove
    have hcount := digitCount_pos (r.num / r.den)
    have hbound : 10 ^ (digitCount (r.num / r.den) - 1) * r.den ≤ r.num :=
      (Nat.le_div_iff_mul_le hden).mp (pow_digitCount_le hquotient)
    have hexponent : ((digitCount (r.num / r.den) : Int) - 1) =
        ((digitCount (r.num / r.den) - 1 : Nat) : Int) := by omega
    rw [hexponent, zpow_natCast]
    exact_mod_cast hbound

namespace RoundingInterval

/-- An interval contains the decimals whose values lie in it. -/
theorem contains_iff (i : RoundingInterval) (d : Decimal) :
    i.contains d = true ↔ i.Mem d.value := by
  let r := d.toRatio.scale 2 (-i.quarterUnit)
  have hunit : (0 : ℚ) < 2 ^ i.quarterUnit := by positivity
  have hden : (0 : ℚ) < r.den := by
    exact_mod_cast Ratio.den_scale_pos d.den_toRatio_pos two_pos (-i.quarterUnit)
  have hvalue : (r.num : ℚ) / r.den = d.value / 2 ^ i.quarterUnit := by
    rw [← Ratio.value, Ratio.value_scale _ two_pos, Decimal.value_toRatio, zpow_neg, Nat.cast_ofNat,
      div_eq_mul_inv]
  have hlow : i.low * r.den ≤ r.num ↔ (i.low : ℚ) * 2 ^ i.quarterUnit ≤ d.value := by
    rw [← le_div_iff₀ hunit, ← hvalue, le_div_iff₀ hden]
    exact_mod_cast Iff.rfl
  have hhigh : r.num ≤ i.high * r.den ↔ d.value ≤ (i.high : ℚ) * 2 ^ i.quarterUnit := by
    rw [← div_le_iff₀ hunit, ← hvalue, div_le_iff₀ hden]
    exact_mod_cast Iff.rfl
  have hlow' : i.low * r.den < r.num ↔ (i.low : ℚ) * 2 ^ i.quarterUnit < d.value := by
    rw [← lt_div_iff₀ hunit, ← hvalue, lt_div_iff₀ hden]
    exact_mod_cast Iff.rfl
  have hhigh' : r.num < i.high * r.den ↔ d.value < (i.high : ℚ) * 2 ^ i.quarterUnit := by
    rw [← div_lt_iff₀ hunit, ← hvalue, div_lt_iff₀ hden]
    exact_mod_cast Iff.rfl
  change (if i.closed = true then _ else _) = true ↔ _
  cases hclosed : i.closed with
  | true =>
    rw [if_pos rfl, Bool.and_eq_true, decide_eq_true_eq, decide_eq_true_eq, hlow, hhigh]
    exact ⟨fun h => ⟨h.1, h.2, by simp [hclosed]⟩, fun h => ⟨h.low_le, h.le_high⟩⟩
  | false =>
    rw [if_neg Bool.false_ne_true, Bool.and_eq_true, decide_eq_true_eq, decide_eq_true_eq, hlow',
      hhigh']
    exact ⟨fun h => ⟨h.1.le, h.2.le, fun _ => h⟩, fun h => h.inside hclosed⟩

/-- The ratio of an interval has the value in the middle. -/
theorem value_toRatio (i : RoundingInterval) :
    i.toRatio.value = (i.value : ℚ) * 2 ^ i.quarterUnit := by
  rw [toRatio, Ratio.value_scale _ two_pos, Ratio.value]
  norm_num

/-- A decimal that is found on a grid lies in the interval. -/
theorem contains_of_onGrid {tie : Tie} {i : RoundingInterval} {digits : Nat} {d : Decimal}
    (h : i.onGrid tie digits = some d) : i.contains d = true := by
  unfold onGrid at h
  dsimp only at h
  split at h
  · cases h
    assumption
  · split at h
    · cases h
      assumption
    · split at h
      · cases h
        assumption
      · cases h

end RoundingInterval

namespace Single

/-- The middle of a rounding interval is the exact magnitude. -/
theorem value_roundingInterval (x : Single) :
    x.roundingInterval.toRatio.value = (x.scaled.coefficient : ℚ) * 2 ^ x.scaled.unit := by
  rw [RoundingInterval.value_toRatio]
  simp only [roundingInterval]
  rw [zpow_sub₀ two_ne_zero]
  push_cast
  ring

/-- What lies closer than a quarter of the unit belongs to the rounding interval. -/
theorem mem_of_close {x : Single} (hx : x.magnitude ≠ 0) {q : ℚ}
    (hlow : ((x.scaled.coefficient : ℚ) - 1 / 4) * 2 ^ x.scaled.unit < q)
    (hhigh : q < ((x.scaled.coefficient : ℚ) + 1 / 4) * 2 ^ x.scaled.unit) :
    x.roundingInterval.Mem q := by
  obtain ⟨hlowEnd, hhighEnd⟩ := roundingInterval_ends hx
  have hunit : (0 : ℚ) < 2 ^ x.scaled.unit := by positivity
  have habove : (x.roundingInterval.low : ℚ) * 2 ^ x.roundingInterval.quarterUnit < q := by
    rw [hlowEnd]
    refine lt_of_le_of_lt ?_ hlow
    gcongr
    split <;> norm_num
  have hbelow : q < (x.roundingInterval.high : ℚ) * 2 ^ x.roundingInterval.quarterUnit := by
    rw [hhighEnd]
    refine hhigh.trans ?_
    gcongr
    norm_num
  exact ⟨habove.le, hbelow.le, fun _ => ⟨habove, hbelow⟩⟩

/-- The grid of nine digits is fine enough for every number. -/
theorem isSome_onGrid (tie : Tie) {x : Single} (hx : x.magnitude ≠ 0) :
    (x.roundingInterval.onGrid tie maxShortestDigits).isSome = true := by
  let r := x.roundingInterval.toRatio
  let e : Int := r.decade - (maxShortestDigits : Int) + 1
  have hvalue : r.value = (x.scaled.coefficient : ℚ) * 2 ^ x.scaled.unit :=
    x.value_roundingInterval
  have hden : 0 < r.den := Ratio.den_scale_pos Nat.one_pos two_pos _
  have hnum : 0 < r.num :=
    Nat.mul_pos (Nat.mul_pos four_pos (coefficient_pos hx)) (Nat.pow_pos two_pos)
  have hunit : (0 : ℚ) < 2 ^ x.scaled.unit := by positivity
  have hstep : (0 : ℚ) < 10 ^ e := by positivity
  have hfine : (10 : ℚ) ^ e < 2 ^ x.scaled.unit / 4 := by
    have hdecade := Ratio.pow_decade_le hnum hden
    have hbelow : (x.scaled.coefficient : ℚ) < 2 ^ 24 := by
      exact_mod_cast x.hasPattern_scaled.coefficient_lt
    have hexponent : (10 : ℚ) ^ r.decade = 10 ^ 8 * 10 ^ e := by
      rw [← zpow_natCast, ← zpow_add₀ (by norm_num)]
      congr 1
      simp only [e, maxShortestDigits]
      omega
    rw [hexponent, hvalue] at hdecade
    nlinarith
  obtain ⟨hlow, hhigh⟩ :=
    Ratio.round_near (r := r.scale 10 (-e)) (Ratio.den_scale_pos hden (by norm_num) _) tie
  have hposition : (r.scale 10 (-e)).value = r.value / 10 ^ e := by
    rw [Ratio.value_scale r (by norm_num), zpow_neg, Nat.cast_ofNat, div_eq_mul_inv]
  rw [hposition, le_div_iff₀ hstep, hvalue] at hlow
  rw [hposition, div_le_iff₀ hstep, hvalue] at hhigh
  have hmem : x.roundingInterval.contains ⟨(r.scale 10 (-e)).round tie, e⟩ = true := by
    rw [RoundingInterval.contains_iff, Decimal.value]
    exact mem_of_close hx (by linarith) (by linarith)
  rw [RoundingInterval.onGrid, if_pos hmem]
  rfl

/-- The shortest decimal of a number other than zero lies in its rounding interval. -/
theorem mem_shortest (tie : Tie) {x : Single} (hx : x.magnitude ≠ 0) :
    x.roundingInterval.Mem (x.shortest tie).value := by
  obtain ⟨d, hd⟩ : ∃ d, ((List.range maxShortestDigits).findSome? fun i =>
      x.roundingInterval.onGrid tie (i + 1)) = some d := by
    rw [← Option.isSome_iff_exists, List.findSome?_isSome_iff]
    exact ⟨8, by decide, isSome_onGrid tie hx⟩
  obtain ⟨i, -, hgrid⟩ := List.exists_of_findSome?_eq_some hd
  rw [shortest, if_neg hx]
  simp only [hd]
  rw [Decimal.value_trim, ← RoundingInterval.contains_iff]
  exact RoundingInterval.contains_of_onGrid hgrid

/-- The exact magnitude of a finite number lies below the limit of the largest unit. -/
theorem unit_le {x : Single} (hfinite : x.isFinite = true) : x.scaled.unit ≤ 104 := by
  obtain ⟨hpattern, hunit, hbelow, hall⟩ := x.hasPattern_scaled
  rw [isFinite, decide_eq_true_eq, infinityPattern, Nat.pow_eq] at hfinite
  omega

/-- What lies in the rounding interval of a number is positive. -/
theorem pos_of_mem {x : Single} (hx : x.magnitude ≠ 0) {q : ℚ} (h : x.roundingInterval.Mem q) :
    0 < q := by
  have hone : (1 : ℚ) ≤ x.scaled.coefficient := by exact_mod_cast coefficient_pos hx
  have hunit : (0 : ℚ) < 2 ^ x.scaled.unit := by positivity
  exact lt_of_lt_of_le (by nlinarith) (attracts_of_mem hx h).low

/-- A decimal in the rounding interval of a number lies between the sixtieth decades. -/
theorem decade_of_mem {x : Single} (hfinite : x.isFinite = true) (hx : x.magnitude ≠ 0)
    {d : Decimal} (h : x.roundingInterval.Mem d.value) :
    -largestDecade ≤ d.decade ∧ d.decade ≤ largestDecade := by
  obtain ⟨hlow, hhigh, -, -⟩ := attracts_of_mem hx h
  have hone : (1 : ℚ) ≤ x.scaled.coefficient := by exact_mod_cast coefficient_pos hx
  have hcoefficient : d.coefficient ≠ 0 := Decimal.coefficient_ne_zero (pos_of_mem hx h)
  obtain ⟨hdecade, hdecade'⟩ := Decimal.decade_spec (Nat.pos_of_ne_zero hcoefficient)
  constructor <;> by_contra hout <;> rw [Int.not_le] at hout
  · have hten : (10 : ℚ) ^ (d.decade + 1) ≤ 10 ^ (-60 : Int) :=
      zpow_le_zpow_right₀ (by norm_num) (by rw [largestDecade] at hout; omega)
    have htwo : (2 : ℚ) ^ (-149 : Int) ≤ 2 ^ x.scaled.unit :=
      zpow_le_zpow_right₀ one_le_two x.hasPattern_scaled.unit_ge
    norm_num at hten htwo
    nlinarith
  · have hten : (10 : ℚ) ^ (60 : Int) ≤ 10 ^ d.decade :=
      zpow_le_zpow_right₀ (by norm_num) hout.le
    have htwo : (2 : ℚ) ^ x.scaled.unit ≤ 2 ^ (104 : Int) :=
      zpow_le_zpow_right₀ one_le_two (unit_le hfinite)
    have hbelow : (x.scaled.coefficient : ℚ) + 1 ≤ 2 ^ 24 := by
      exact_mod_cast x.hasPattern_scaled.coefficient_lt
    norm_num at hten htwo
    nlinarith

/-- A decimal in the rounding interval of a number is read as that number. -/
theorem ofDecimal_of_mem {x : Single} (hfinite : x.isFinite = true) (hx : x.magnitude ≠ 0)
    {d : Decimal} (h : x.roundingInterval.Mem d.value) : ofDecimal x.negative d = x := by
  obtain ⟨hlow, hhigh⟩ := decade_of_mem hfinite hx h
  rw [ofDecimal, if_neg (Decimal.coefficient_ne_zero (pos_of_mem hx h)),
    if_neg (Int.not_lt.mpr hhigh), if_neg (Int.not_lt.mpr hlow)]
  exact ofRatio_of_mem hfinite hx d.den_toRatio_pos (by rwa [Decimal.value_toRatio])

/-- The shortest decimal of a number lies between the sixtieth decades. -/
theorem decade_shortest (tie : Tie) {x : Single} (hfinite : x.isFinite = true) :
    -largestDecade ≤ (x.shortest tie).decade ∧ (x.shortest tie).decade ≤ largestDecade := by
  by_cases hx : x.magnitude = 0
  · rw [shortest, if_pos hx]
    decide
  · exact decade_of_mem hfinite hx (mem_shortest tie hx)

/-- A shortest decimal without digits other than zero has no factor of ten. -/
theorem exponent_shortest_le (tie : Tie) (x : Single) (h : (x.shortest tie).coefficient = 0) :
    (x.shortest tie).exponent ≤ 0 := by
  by_cases hx : x.magnitude = 0
  · rw [shortest, if_pos hx]
  · exact absurd h (Decimal.coefficient_ne_zero (pos_of_mem hx (mem_shortest tie hx)))

/-- A decimal with the value of the shortest one is read as the number. -/
theorem ofDecimal_shortest (tie : Tie) {x : Single} (hfinite : x.isFinite = true) {d : Decimal}
    (hd : d.value = (x.shortest tie).value) : ofDecimal x.negative d = x := by
  by_cases hx : x.magnitude = 0
  · have hzero : d.coefficient = 0 := by
      have hpower : (10 : ℚ) ^ d.exponent ≠ 0 := by positivity
      rw [shortest, if_pos hx, Decimal.value, Decimal.value] at hd
      simpa [hpower] using hd
    rw [ofDecimal, if_pos hzero, ← hx, ofMagnitude_magnitude]
  · exact ofDecimal_of_mem hfinite hx (hd ▸ mem_shortest tie hx)

end Single

/-- The numeral of a decimal without an exponent has its value. -/
theorem Decimal.value_decimal_positional (negative : Bool) (d : Decimal) :
    (d.positional negative).decimal.value = d.value := by
  obtain ⟨coefficient, exponent⟩ := d
  unfold positional
  dsimp only
  split
  · rename_i hexponent
    have hdigits : valueOfDigits ((digitsOf coefficient ++ zeros exponent.toNat) ++ ['0']) =
        10 * (10 ^ exponent.toNat * coefficient) := by
      rw [valueOfDigits_append, valueOfDigits_append, valueOfDigits_zeros, valueOfDigits_digitsOf]
      simp [valueOfDigits, digitValue]
    have hpower : (10 : ℚ) ^ exponent = 10 ^ exponent.toNat := by
      rw [← zpow_natCast, Int.toNat_of_nonneg hexponent]
    simp only [Numeral.decimal, Numeral.fractionDigits, Option.getD_some, Option.getD_none, hdigits,
      value, hpower, List.length_singleton]
    push_cast
    norm_num
    ring
  · -- With a fraction the decimal itself is spelled.
    rename_i hexponent
    congr 1
    split
    · rename_i hplaces
      simp only [Numeral.decimal, Numeral.fractionDigits, Option.getD_some, Option.getD_none,
        List.take_append_drop, valueOfDigits_digitsOf, List.length_drop, Decimal.mk.injEq, true_and]
      omega
    · rename_i hplaces
      have hzero : valueOfDigits ['0'] = 0 := rfl
      simp only [Numeral.decimal, Numeral.fractionDigits, Option.getD_some, Option.getD_none,
        valueOfDigits_append, valueOfDigits_zeros, valueOfDigits_digitsOf, hzero,
        List.length_append, Decimal.mk.injEq, Nat.mul_zero, Nat.zero_add, true_and, length_zeros]
      omega

end MaterialGraph
