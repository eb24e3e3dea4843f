import Mathlib.Algebra.Order.Field.Power
import Mathlib.Data.Rat.Cast.Order
import Mathlib.Tactic.FieldSimp
import Mathlib.Tactic.Linarith
import Mathlib.Tactic.NormNum
import Mathlib.Tactic.Positivity
import Mathlib.Tactic.Ring
import MaterialGraph.Decimal.Shortest

/-!
# Rounding to the nearest number

Exact quotients are read as rational numbers. The binade of a quotient and its nearest integer are
what they are meant to be, and so every quotient in the rounding interval of a number rounds to that
number. The one delicate place is the first coefficient of a binade: below it the unit is halved, so
that a quotient from there rounds to the last coefficient of the binade below, carried over.
-/

namespace MaterialGraph

namespace Ratio

/-- The exact value. -/
def value (r : Ratio) : ℚ :=
  r.num / r.den

/-- Scaling keeps the denominator positive. -/
theorem den_scale_pos {r : Ratio} (hden : 0 < r.den) {base : Nat} (hbase : 0 < base) (e : Int) :
    0 < (r.scale base e).den :=
  Nat.mul_pos hden (Nat.pow_pos hbase)

/-- Scaling multiplies the value by the power. -/
theorem value_scale (r : Ratio) {base : Nat} (hbase : 0 < base) (e : Int) :
    (r.scale base e).value = r.value * (base : ℚ) ^ e := by
  have hbase' : (base : ℚ) ≠ 0 := by positivity
  have hpower : (base : ℚ) ^ e = (base : ℚ) ^ e.toNat / (base : ℚ) ^ (-e).toNat := by
    rw [← zpow_natCast, ← zpow_natCast, ← zpow_sub₀ hbase']
    congr 1
    omega
  rw [hpower, value, value, scale]
  push_cast [Nat.pow_eq]
  rw [mul_div_mul_comm]

/-- A ratio is below one if its value is. -/
theorem belowOne_iff {r : Ratio} (hden : 0 < r.den) : r.belowOne = true ↔ r.value < 1 := by
  rw [belowOne, decide_eq_true_eq, value, div_lt_one (by exact_mod_cast hden), Nat.cast_lt]

/-- A number lies in the binade of its leading bit. -/
theorem log2_bounds {n : Nat} (hn : 0 < n) :
    (2 : ℚ) ^ (n.log2 : Int) ≤ n ∧ (n : ℚ) < (2 : ℚ) ^ ((n.log2 : Int) + 1) := by
  have hlow : 2 ^ n.log2 ≤ n := Nat.log2_self_le hn.ne'
  have hhigh : n < 2 ^ (n.log2 + 1) := Nat.lt_log2_self
  constructor
  · rw [zpow_natCast]
    exact_mod_cast hlow
  · rw [← Nat.cast_succ, zpow_natCast]
    exact_mod_cast hhigh

/-- A positive ratio lies in its binade. -/
theorem binade_spec {r : Ratio} (hnum : 0 < r.num) (hden : 0 < r.den) :
    (2 : ℚ) ^ r.binade ≤ r.value ∧ r.value < (2 : ℚ) ^ (r.binade + 1) := by
  obtain ⟨hnumLow, hnumHigh⟩ := log2_bounds hnum
  obtain ⟨hdenLow, hdenHigh⟩ := log2_bounds hden
  have hden' : (0 : ℚ) < r.den := by exact_mod_cast hden
  -- Both logarithms are exact, so the quotient is less than one binade away from the guess.
  have hlow : (2 : ℚ) ^ ((r.num.log2 : Int) - r.den.log2 - 1) ≤ r.value := by
    rw [value, le_div_iff₀ hden']
    calc (2 : ℚ) ^ ((r.num.log2 : Int) - r.den.log2 - 1) * r.den
        ≤ (2 : ℚ) ^ ((r.num.log2 : Int) - r.den.log2 - 1) * (2 : ℚ) ^ ((r.den.log2 : Int) + 1) := by
          gcongr
      _ = (2 : ℚ) ^ (r.num.log2 : Int) := by
          rw [← zpow_add₀ two_ne_zero]
          congr 1
          ring
      _ ≤ r.num := hnumLow
  have hhigh : r.value < (2 : ℚ) ^ ((r.num.log2 : Int) - r.den.log2 + 1) := by
    rw [value, div_lt_iff₀ hden']
    calc (r.num : ℚ) < (2 : ℚ) ^ ((r.num.log2 : Int) + 1) := hnumHigh
      _ = (2 : ℚ) ^ ((r.num.log2 : Int) - r.den.log2 + 1) * (2 : ℚ) ^ (r.den.log2 : Int) := by
          rw [← zpow_add₀ two_ne_zero]
          congr 1
          ring
      _ ≤ (2 : ℚ) ^ ((r.num.log2 : Int) - r.den.log2 + 1) * r.den := by gcongr
  have hguess : (r.scale 2 (-((r.num.log2 : Int) - r.den.log2))).belowOne = true ↔
      r.value < (2 : ℚ) ^ ((r.num.log2 : Int) - r.den.log2) := by
    rw [belowOne_iff (den_scale_pos hden two_pos _), value_scale r two_pos, Nat.cast_ofNat,
      zpow_neg, mul_inv_lt_iff₀ (by positivity), one_mul]
  unfold binade
  dsimp only
  split
  · rename_i hbelow
    exact ⟨hlow, by simpa using hguess.mp hbelow⟩
  · rename_i habove
    exact ⟨not_lt.mp (mt hguess.mpr habove), hhigh⟩

section Nearest

variable {r : Ratio} (hden : 0 < r.den) (k : Nat)

include hden

/-- A ratio lies at most half below an integer: a comparison of natural numbers. -/
theorem sub_half_le_value_iff :
    (k : ℚ) - 1 / 2 ≤ r.value ↔ 2 * (r.den * k) ≤ 2 * r.num + r.den := by
  rw [value, le_div_iff₀ (by exact_mod_cast hden), ← Nat.cast_le (α := ℚ)]
  push_cast
  constructor <;> intro h <;> linarith

/-- A ratio lies less than half below an integer: a comparison of natural numbers. -/
theorem sub_half_lt_value_iff :
    (k : ℚ) - 1 / 2 < r.value ↔ 2 * (r.den * k) < 2 * r.num + r.den := by
  rw [value, lt_div_iff₀ (by exact_mod_cast hden), ← Nat.cast_lt (α := ℚ)]
  push_cast
  constructor <;> intro h <;> linarith

/-- A ratio lies at most half above an integer: a comparison of natural numbers. -/
theorem value_le_add_half_iff :
    r.value ≤ (k : ℚ) + 1 / 2 ↔ 2 * r.num ≤ 2 * (r.den * k) + r.den := by
  rw [value, div_le_iff₀ (by exact_mod_cast hden), ← Nat.cast_le (α := ℚ)]
  push_cast
  constructor <;> intro h <;> linarith

/-- A ratio lies less than half above an integer: a comparison of natural numbers. -/
theorem value_lt_add_half_iff :
    r.value < (k : ℚ) + 1 / 2 ↔ 2 * r.num < 2 * (r.den * k) + r.den := by
  rw [value, div_lt_iff₀ (by exact_mod_cast hden), ← Nat.cast_lt (α := ℚ)]
  push_cast
  constructor <;> intro h <;> linarith

/-- The nearest integer is at most half away. -/
theorem round_near (tie : Tie) :
    (r.round tie : ℚ) - 1 / 2 ≤ r.value ∧ r.value ≤ (r.round tie : ℚ) + 1 / 2 := by
  have hdivision := Nat.div_add_mod r.num r.den
  have hremainder := Nat.mod_lt r.num hden
  rw [sub_half_le_value_iff hden, value_le_add_half_iff hden, round, roundDiv.eq_def]
  dsimp only
  split
  · omega
  · split
    · rw [Nat.mul_succ]
      omega
    · cases tie with
      | up =>
        rw [Nat.mul_succ]
        omega
      | toEven =>
        rcases Nat.mod_two_eq_zero_or_one (r.num / r.den) with hparity | hparity <;>
          simp only [hparity, Nat.add_zero, Nat.mul_succ] <;> omega

variable {k}

/-- An integer that is at most half away is the nearest one if it is even or less than half away. -/
theorem round_eq (hlow : (k : ℚ) - 1 / 2 ≤ r.value) (hhigh : r.value ≤ (k : ℚ) + 1 / 2)
    (htie : k % 2 = 1 → (k : ℚ) - 1 / 2 < r.value ∧ r.value < (k : ℚ) + 1 / 2) :
    r.round .toEven = k := by
  rw [sub_half_le_value_iff hden] at hlow
  rw [value_le_add_half_iff hden] at hhigh
  rw [sub_half_lt_value_iff hden, value_lt_add_half_iff hden] at htie
  have hdivision := Nat.div_add_mod r.num r.den
  have hremainder := Nat.mod_lt r.num hden
  have hparity := Nat.mod_two_eq_zero_or_one k
  -- The quotient is the integer itself or the one below it.
  have hquotient : r.num / r.den = k ∨ r.num / r.den + 1 = k := by
    have hbelow : r.num / r.den ≤ k := by
      by_contra hlt
      have := Nat.mul_le_mul_left r.den (Nat.succ_le_of_lt (not_le.mp hlt))
      rw [Nat.mul_succ] at this
      omega
    have habove : k ≤ r.num / r.den + 1 := by
      by_contra hlt
      have := Nat.mul_le_mul_left r.den (Nat.succ_le_of_lt (not_le.mp hlt))
      rw [Nat.mul_succ, Nat.mul_succ] at this
      omega
    omega
  rw [round, roundDiv.eq_def]
  dsimp only
  rcases hquotient with hk | hk
  · rw [hk] at hdivision ⊢
    split
    · rfl
    · split
      · omega
      · omega
  · rw [← hk, Nat.mul_succ] at hlow hhigh htie
    split
    · omega
    · split
      · exact hk
      · omega

end Nearest

end Ratio

namespace Scaled

/-- The ratio of a scaled magnitude has its value. -/
theorem value_toRatio (s : Scaled) : s.toRatio.value = s.coefficient * (2 : ℚ) ^ s.unit := by
  rw [toRatio, Ratio.value_scale _ two_pos, Ratio.value]
  norm_num

theorem den_toRatio_pos (s : Scaled) : 0 < s.toRatio.den :=
  Ratio.den_scale_pos Nat.one_pos two_pos _

/-- A scaled magnitude is the one of a pattern, and has all bits unless its unit is the smallest. -/
structure HasPattern (s : Scaled) (pattern : Nat) : Prop where
  pattern_eq : (s.unit + 149).toNat * 2 ^ 23 + s.coefficient = pattern
  unit_ge : -149 ≤ s.unit
  coefficient_lt : s.coefficient < 2 ^ 24
  coefficient_ge : -149 < s.unit → 2 ^ 23 ≤ s.coefficient

/-- A value lies no farther than half a unit from a scaled magnitude, a half being allowed for even
coefficients, and no farther than a quarter below the first coefficient of a binade. -/
structure Attracts (s : Scaled) (q : ℚ) : Prop where
  low : ((s.coefficient : ℚ) - 1 / 2) * 2 ^ s.unit ≤ q
  high : q ≤ ((s.coefficient : ℚ) + 1 / 2) * 2 ^ s.unit
  tie : s.coefficient % 2 = 1 → ((s.coefficient : ℚ) - 1 / 2) * 2 ^ s.unit < q ∧
    q < ((s.coefficient : ℚ) + 1 / 2) * 2 ^ s.unit
  quarter : s.coefficient = 2 ^ 23 → -149 < s.unit →
    ((s.coefficient : ℚ) - 1 / 4) * 2 ^ s.unit ≤ q

section Attracted

variable {s : Scaled} {r : Ratio} (hden : 0 < r.den) (h : s.Attracts r.value)

include hden h

/-- An attracted value rounds to the coefficient on the unit of the magnitude. -/
theorem round_unit : (r.scale 2 (-s.unit)).round .toEven = s.coefficient := by
  have hunit : (0 : ℚ) < 2 ^ s.unit := by positivity
  have hscaled : (r.scale 2 (-s.unit)).value = r.value / 2 ^ s.unit := by
    rw [Ratio.value_scale r two_pos, zpow_neg, Nat.cast_ofNat, div_eq_mul_inv]
  refine Ratio.round_eq (Ratio.den_scale_pos hden two_pos _) ?_ ?_ fun hodd => ?_
  · rw [hscaled, le_div_iff₀ hunit]
    exact h.low
  · rw [hscaled, div_le_iff₀ hunit]
    exact h.high
  · rw [hscaled, lt_div_iff₀ hunit, div_lt_iff₀ hunit]
    exact h.tie hodd

/-- Below the first coefficient of a binade, an attracted value rounds to that coefficient on half
the unit. -/
theorem round_half_unit (hfirst : s.coefficient = 2 ^ 23) (hunit : -149 < s.unit)
    (hbelow : r.value < (2 : ℚ) ^ (s.unit + 23)) :
    (r.scale 2 (-(s.unit - 1))).round .toEven = 2 ^ 24 := by
  have hpos : (0 : ℚ) < 2 ^ s.unit := by positivity
  have hscaled : (r.scale 2 (-(s.unit - 1))).value = 2 * r.value / 2 ^ s.unit := by
    rw [Ratio.value_scale r two_pos, Nat.cast_ofNat, neg_sub, zpow_sub₀ two_ne_zero]
    ring
  have hquarter := h.quarter hfirst hunit
  rw [zpow_add₀ two_ne_zero] at hbelow
  rw [hfirst] at hquarter
  refine Ratio.round_eq (Ratio.den_scale_pos hden two_pos _) ?_ ?_ (by norm_num)
  · rw [hscaled, le_div_iff₀ hpos]
    push_cast at hquarter ⊢
    linarith
  · rw [hscaled, div_le_iff₀ hpos]
    push_cast
    norm_num at hbelow ⊢
    linarith

end Attracted

/-- An attracted value rounds to the pattern of the magnitude. -/
theorem pattern_round {s : Scaled} {pattern : Nat} (hs : s.HasPattern pattern)
    (hpos : 0 < s.coefficient) {r : Ratio} (hden : 0 < r.den) (h : s.Attracts r.value) :
    ((BinaryFormat.single.round r).unit + 149).toNat * 2 ^ 23 +
      (BinaryFormat.single.round r).coefficient = pattern := by
  have hw : (0 : ℚ) < 2 ^ s.unit := by positivity
  have hone : (1 : ℚ) ≤ s.coefficient := by exact_mod_cast hpos
  have hvalue : 0 < r.value := lt_of_lt_of_le (by nlinarith) h.low
  have hnum : r.num ≠ 0 := by
    intro hzero
    simp [Ratio.value, hzero] at hvalue
  obtain ⟨hbinade, hbinade'⟩ := Ratio.binade_spec (Nat.pos_of_ne_zero hnum) hden
  have hpower (k : Int) : (2 : ℚ) ^ (s.unit + k) = 2 ^ k * 2 ^ s.unit := by
    rw [add_comm, zpow_add₀ two_ne_zero]
  have hceiling : r.binade ≤ s.unit + 23 := by
    by_contra hgt
    have hmono : (2 : ℚ) ^ (s.unit + 24) ≤ 2 ^ r.binade :=
      zpow_le_zpow_right₀ one_le_two (by omega)
    have hcoefficient : (s.coefficient : ℚ) + 1 ≤ 2 ^ 24 := by exact_mod_cast hs.coefficient_lt
    have hhigh := h.high
    rw [hpower] at hmono
    norm_num at hmono hcoefficient
    nlinarith
  rw [BinaryFormat.round, if_neg hnum]
  by_cases hsame : max (r.binade - 23) (-149) = s.unit
  · -- The binade of the value has the unit of the magnitude.
    simp only [BinaryFormat.single, Nat.reduceSub, Nat.cast_ofNat, hsame, round_unit hden h]
    exact hs.pattern_eq
  · -- The value lies in the binade below the magnitude, which is the first of its own.
    have hunit : -149 < s.unit := by
      have := hs.unit_ge
      omega
    have hbelow : r.value < (2 : ℚ) ^ (s.unit + 23) :=
      hbinade'.trans_le (zpow_le_zpow_right₀ one_le_two (by omega))
    have hfirst : s.coefficient = 2 ^ 23 := by
      have hge := hs.coefficient_ge hunit
      by_contra hne
      have hcoefficient : (2 : ℚ) ^ 23 + 1 ≤ s.coefficient := by
        exact_mod_cast Nat.lt_of_le_of_ne hge (Ne.symm hne)
      have hlow := h.low
      rw [hpower] at hbelow
      norm_num at hbelow
      nlinarith
    have hhalf : max (r.binade - 23) (-149) = s.unit - 1 := by
      have hquarter := h.quarter hfirst hunit
      have hfloor : s.unit + 22 < r.binade + 1 := by
        rw [← zpow_lt_zpow_iff_right₀ (one_lt_two (α := ℚ))]
        refine lt_of_le_of_lt ?_ hbinade'
        refine le_trans ?_ hquarter
        rw [hpower, hfirst]
        push_cast
        norm_num
        linarith
      omega
    simp only [BinaryFormat.single, Nat.reduceSub, Nat.cast_ofNat, hhalf,
      round_half_unit hden h hfirst hunit hbelow]
    rw [← hs.pattern_eq, hfirst]
    omega

end Scaled

/-- A value lies in a rounding interval, on an end only if the interval is closed. -/
structure RoundingInterval.Mem (i : RoundingInterval) (q : ℚ) : Prop where
  low_le : (i.low : ℚ) * 2 ^ i.quarterUnit ≤ q
  le_high : q ≤ (i.high : ℚ) * 2 ^ i.quarterUnit
  inside : i.closed = false →
    (i.low : ℚ) * 2 ^ i.quarterUnit < q ∧ q < (i.high : ℚ) * 2 ^ i.quarterUnit

namespace Single

/-- A number is its sign and its magnitude. -/
theorem ofMagnitude_magnitude (x : Single) : ofMagnitude x.negative x.magnitude = x := by
  have hbits : x.bits.toNat < 2 ^ 32 := x.bits.toNat_lt
  have hsum : x.magnitude + (if x.negative = true then Nat.pow 2 31 else 0) = x.bits.toNat := by
    rw [magnitude, negative]
    split
    · simp_all
      omega
    · simp_all
  rw [ofMagnitude, hsum, UInt32.ofNat_toNat]

/-- The exact magnitude of a number is the one of its pattern. -/
theorem hasPattern_scaled (x : Single) : x.scaled.HasPattern x.magnitude := by
  have hfraction : x.magnitude % 2 ^ 23 < 2 ^ 23 := Nat.mod_lt _ (by norm_num)
  have hdivision := Nat.div_add_mod x.magnitude (2 ^ 23)
  rw [scaled]
  dsimp only [Nat.pow_eq]
  split
  · refine ⟨?_, ?_, ?_, ?_⟩ <;> dsimp only <;> omega
  · refine ⟨?_, ?_, ?_, ?_⟩ <;> dsimp only <;> omega

/-- A number other than zero has a positive coefficient. -/
theorem coefficient_pos {x : Single} (hx : x.magnitude ≠ 0) : 0 < x.scaled.coefficient := by
  obtain ⟨hpattern, hunit, -, hall⟩ := x.hasPattern_scaled
  omega

/-- The ends of the rounding interval of a number. -/
theorem roundingInterval_ends {x : Single} (hx : x.magnitude ≠ 0) :
    (x.roundingInterval.low : ℚ) * 2 ^ x.roundingInterval.quarterUnit =
        ((x.scaled.coefficient : ℚ) -
          if x.scaled.coefficient = 2 ^ 23 ∧ -149 < x.scaled.unit then 1 / 4 else 1 / 2) *
            2 ^ x.scaled.unit ∧
      (x.roundingInterval.high : ℚ) * 2 ^ x.roundingInterval.quarterUnit =
        ((x.scaled.coefficient : ℚ) + 1 / 2) * 2 ^ x.scaled.unit := by
  have hpos := coefficient_pos hx
  have hquarter : (2 : ℚ) ^ (x.scaled.unit - 2) = 2 ^ x.scaled.unit / 4 := by
    rw [zpow_sub₀ two_ne_zero]
    norm_num
  simp only [roundingInterval, Nat.pow_eq, Bool.and_eq_true, beq_iff_eq, decide_eq_true_eq,
    hquarter]
  constructor
  · split
    · rw [Nat.cast_sub (by omega)]
      push_cast
      ring
    · rw [Nat.cast_sub (by omega)]
      push_cast
      ring
  · push_cast
    ring

/-- A number attracts its rounding interval. -/
theorem attracts_of_mem {x : Single} (hx : x.magnitude ≠ 0) {q : ℚ}
    (h : x.roundingInterval.Mem q) : x.scaled.Attracts q := by
  obtain ⟨hlow, hhigh, hinside⟩ := h
  obtain ⟨hlowEnd, hhighEnd⟩ := roundingInterval_ends hx
  have hunit : (0 : ℚ) < 2 ^ x.scaled.unit := by positivity
  have hclosed : x.scaled.coefficient % 2 = 1 → x.roundingInterval.closed = false := by
    intro hodd
    simp [roundingInterval, hodd]
  rw [hlowEnd, hhighEnd] at hinside
  rw [hlowEnd] at hlow
  rw [hhighEnd] at hhigh
  refine ⟨?_, hhigh, fun hodd => ⟨?_, (hinside (hclosed hodd)).2⟩, fun hfirst hnormal => ?_⟩
  · refine le_trans ?_ hlow
    gcongr
    split <;> norm_num
  · refine lt_of_le_of_lt ?_ (hinside (hclosed hodd)).1
    gcongr
    split <;> norm_num
  · rwa [if_pos ⟨hfirst, hnormal⟩] at hlow

/-- A value in the rounding interval of a number rounds to that number. -/
theorem ofRatio_of_mem {x : Single} (hfinite : x.isFinite = true) (hx : x.magnitude ≠ 0)
    {r : Ratio} (hden : 0 < r.den) (h : x.roundingInterval.Mem r.value) :
    ofRatio x.negative r = x := by
  have hpattern := Scaled.pattern_round x.hasPattern_scaled (coefficient_pos hx) hden
    (attracts_of_mem hx h)
  rw [isFinite, decide_eq_true_eq] at hfinite
  rw [ofRatio, ofScaled, Nat.pow_eq, hpattern, Nat.min_eq_left hfinite.le, ofMagnitude_magnitude]

end Single

end MaterialGraph
