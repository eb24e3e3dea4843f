import MaterialGraph.Port
import MaterialGraph.Proofs.ShortestDecimal

/-!
# Numbers in shader text

A finite number is written with a fixed count of decimals. Its exact value, in units of the last
decimal, has one nearest integer if an exact half goes to the even one, and the digits of that
integer are the digits of the text. So the text denotes the nearest of all decimals with as many
places, and a larger number never has a text that denotes less. The sign is that of the pattern,
also where all digits are zero.
-/

namespace MaterialGraph

/-! ### The nearest integer -/

/-- An integer is at most half away from a value, and half away only if it is even. -/
structure IsNearest (k : ℤ) (q : ℚ) : Prop where
  near : |(k : ℚ) - q| ≤ 1 / 2
  even_of_half : |(k : ℚ) - q| = 1 / 2 → k % 2 = 0

namespace IsNearest

variable {j k : ℤ} {p q : ℚ}

/-- The negated integer is nearest to the negated value. -/
theorem neg (h : IsNearest k q) : IsNearest (-k) (-q) := by
  have habs : |((-k : ℤ) : ℚ) - -q| = |(k : ℚ) - q| := by
    rw [Int.cast_neg, ← neg_sub', abs_neg]
  constructor
  · rw [habs]
    exact h.near
  · intro hhalf
    rw [habs] at hhalf
    have heven := h.even_of_half hhalf
    omega

/-- Every other integer is at least half away. -/
theorem half_le (h : IsNearest k q) (hne : j ≠ k) : 1 / 2 ≤ |(j : ℚ) - q| := by
  have hone : (1 : ℚ) ≤ |(j : ℚ) - k| := by
    have hint : 1 ≤ |j - k| := Int.one_le_abs (sub_ne_zero.mpr hne)
    exact_mod_cast hint
  have htriangle : |(j : ℚ) - k| ≤ |(j : ℚ) - q| + |(k : ℚ) - q| := by
    rw [abs_sub_comm (k : ℚ) q]
    exact abs_sub_le (j : ℚ) q k
  have hnear := h.near
  linarith

/-- No integer is nearer. -/
theorem le_abs_sub (h : IsNearest k q) (j : ℤ) : |(k : ℚ) - q| ≤ |(j : ℚ) - q| := by
  by_cases heq : j = k
  · rw [heq]
  · exact h.near.trans (h.half_le heq)

/-- If another integer is as near, the nearest one is even. -/
theorem even_of_tie (h : IsNearest k q) (hne : j ≠ k) (htie : |(j : ℚ) - q| = |(k : ℚ) - q|) :
    k % 2 = 0 := by
  apply h.even_of_half
  apply le_antisymm h.near
  rw [← htie]
  exact h.half_le hne

/-- A larger value has no smaller nearest integer. -/
theorem mono (hj : IsNearest j p) (hk : IsNearest k q) (hle : p ≤ q) : j ≤ k := by
  by_contra hlt
  have hsucc : (k : ℚ) + 1 ≤ j := by exact_mod_cast Int.add_one_le_iff.mpr (not_le.mp hlt)
  have hlow := (abs_le.mp hj.near).2
  have hhigh := (abs_le.mp hk.near).1
  -- Both values lie in the middle of two neighbours, which cannot both be even.
  have hpair : (j : ℚ) = k + 1 := by linarith
  have hjhalf : |(j : ℚ) - p| = 1 / 2 := by
    rw [abs_of_nonneg] <;> linarith
  have hkhalf : |(k : ℚ) - q| = 1 / 2 := by
    rw [abs_of_nonpos] <;> linarith
  have hjeven := hj.even_of_half hjhalf
  have hkeven := hk.even_of_half hkhalf
  have hints : j = k + 1 := by exact_mod_cast hpair
  omega

end IsNearest

/-- Rounding a ratio with halves to even gives the nearest integer. -/
theorem Ratio.isNearest_round {r : Ratio} (hden : 0 < r.den) :
    IsNearest (r.round .toEven) r.value := by
  have hnear := r.round_near hden .toEven
  constructor
  · rw [Int.cast_natCast, abs_le]
    constructor <;> linarith
  · intro hhalf
    by_contra hodd
    rw [Int.cast_natCast] at hhalf
    generalize hk : r.round .toEven = k at hhalf hodd
    -- An odd integer that is half away has an even neighbour that is half away too.
    rcases (abs_eq (by norm_num)).mp hhalf with habove | hbelow
    · obtain ⟨i, rfl⟩ : ∃ i, k = i + 1 := ⟨k - 1, by omega⟩
      push_cast at habove
      have hround := Ratio.round_eq (k := i) hden (by linarith) (by linarith) (by omega)
      omega
    · have hround := Ratio.round_eq (k := k + 1) hden (by push_cast; linarith)
        (by push_cast; linarith) (by omega)
      omega

/-! ### What numbers and numerals stand for -/

/-- A magnitude with a sign. -/
def signed (negative : Bool) (q : ℚ) : ℚ :=
  if negative then -q else q

/-- The exact value of a finite number, by the sign, exponent and fraction of its pattern. -/
def Single.value (x : Single) : ℚ :=
  let exponent : ℕ := x.bits.toNat / 2 ^ 23 % 2 ^ 8
  let fraction : ℕ := x.bits.toNat % 2 ^ 23
  signed (x.bits.toNat.testBit 31) <|
    if exponent = 0 then (fraction : ℚ) / 2 ^ 149
    else (1 + (fraction : ℚ) / 2 ^ 23) * (2 : ℚ) ^ ((exponent : ℤ) - 127)

/-- The exact value of a numeral. -/
def Numeral.value (n : Numeral) : ℚ :=
  signed n.negative n.decimal.value

namespace Single

/-- A number is negative if its sign bit is set. -/
theorem negative_eq_testBit (x : Single) : x.negative = x.bits.toNat.testBit 31 := by
  have hbits : x.bits.toNat < 2 ^ 32 := x.bits.toNat_lt
  rw [negative, Nat.testBit_eq_decide_div_mod_eq, Nat.pow_eq]
  congr 1
  rw [eq_iff_iff]
  omega

/-- The fields of the pattern give the exact magnitude. -/
theorem value_eq_signed (x : Single) : x.value = signed x.negative x.scaled.toRatio.value := by
  have hexponent : x.magnitude / 2 ^ 23 = x.bits.toNat / 2 ^ 23 % 2 ^ 8 := by
    rw [magnitude, Nat.pow_eq]
    omega
  have hfraction : x.magnitude % 2 ^ 23 = x.bits.toNat % 2 ^ 23 := by
    rw [magnitude, Nat.pow_eq]
    omega
  rw [value, negative_eq_testBit, Scaled.value_toRatio, scaled]
  dsimp only [Nat.pow_eq]
  simp only [hexponent, hfraction]
  congr 1
  split
  · rw [zpow_neg]
    rfl
  · have hshift : ∀ e : ℤ, (2 : ℚ) ^ (e - 127) = 2 ^ 23 * (2 : ℚ) ^ (e - 150) := by
      intro e
      rw [← zpow_natCast, ← zpow_add₀ two_ne_zero]
      congr 1
      push_cast
      ring
    rw [hshift]
    push_cast
    ring

end Single

/-! ### Numerals with a fixed count of decimals -/

namespace Numeral

/-- A numeral without an exponent, with a fixed count of digits behind the point and digits in front
of it that begin with zero only if that is all. -/
structure HasPlaces (places : ℕ) (n : Numeral) : Prop where
  spelled : n.Spelled
  whole_ne_nil : n.whole ≠ []
  whole_of_zero : n.whole.head? = some '0' → n.whole = ['0']
  fraction : ∃ digits, n.fraction = some digits ∧ digits.length = places
  exponent : n.exponent = none

/-- The text of such a numeral. -/
theorem HasPlaces.text_eq {places : ℕ} {n : Numeral} (h : n.HasPlaces places) :
    n.text = signText n.negative ++ n.whole ++ '.' :: n.fractionDigits := by
  obtain ⟨digits, hfraction, -⟩ := h.fraction
  rw [text, fractionDigits, h.exponent, hfraction, Option.elim_none, List.append_nil]
  rfl

/-- A numeral denotes the multiple of a unit of its last place that is nearest to a value. Its last
digit is even if another multiple is as near. -/
structure NearestTo (places : ℕ) (q : ℚ) (n : Numeral) : Prop where
  multiple : ∃ k : ℤ, n.value = k / 10 ^ places
  near : |n.value - q| ≤ 1 / (2 * 10 ^ places)
  nearest : ∀ k : ℤ, |n.value - q| ≤ |(k : ℚ) / 10 ^ places - q|
  even_of_tie : ∀ k : ℤ, (k : ℚ) / 10 ^ places ≠ n.value →
    |(k : ℚ) / 10 ^ places - q| = |n.value - q| →
      ∃ c, n.fractionDigits.getLast? = some c ∧ digitValue c % 2 = 0

/-- Distances are as many units of the last place as distances between integers. -/
theorem abs_div_pow_sub (places : ℕ) (q r : ℚ) :
    |q / 10 ^ places - r| = |q - r * 10 ^ places| / 10 ^ places := by
  have hpower : (0 : ℚ) < 10 ^ places := by positivity
  rw [div_sub' hpower.ne', abs_div, abs_of_pos hpower, mul_comm r]

/-- A number of units of the last place, as a numeral. -/
def ofUnits (negative : Bool) (places units : ℕ) : Numeral where
  negative := negative
  whole := digitsOf (units / 10 ^ places)
  fraction := some
    (zeros (places - digitCount (units % 10 ^ places)) ++ digitsOf (units % 10 ^ places))
  exponent := none

theorem text_ofUnits (negative : Bool) (places units : ℕ) :
    (ofUnits negative places units).text = signText negative ++ fixedText places units := by
  simp [text, ofUnits, fixedText, digitCount, Nat.pow_eq]

variable {places : ℕ} (hplaces : 0 < places) (negative : Bool) (units : ℕ)

include hplaces

/-- The zeros in front fill the places. -/
theorem length_fractionDigits_ofUnits :
    (ofUnits negative places units).fractionDigits.length = places := by
  have hcount : digitCount (units % 10 ^ places) ≤ places :=
    (digitCount_le_iff hplaces).mpr (Nat.mod_lt _ (by positivity))
  simp only [fractionDigits, ofUnits, Option.getD_some, List.length_append, length_zeros]
  rw [← digitCount]
  omega

/-- The digits on both sides of the point are those of the number of units. -/
theorem decimal_ofUnits : (ofUnits negative places units).decimal = ⟨units, -places⟩ := by
  have hlength := length_fractionDigits_ofUnits hplaces negative units
  rw [decimal, valueOfDigits_append, hlength]
  simp only [fractionDigits, ofUnits, Option.getD_some, Option.getD_none, valueOfDigits_append,
    valueOfDigits_zeros, valueOfDigits_digitsOf, Nat.mul_zero, Nat.zero_add, zero_sub,
    Decimal.mk.injEq, and_true]
  exact Nat.div_add_mod units (10 ^ places)

theorem value_ofUnits :
    (ofUnits negative places units).value = signed negative units / 10 ^ places := by
  rw [value, decimal_ofUnits hplaces, Decimal.value, zpow_neg, zpow_natCast, ← div_eq_mul_inv]
  cases negative with
  | false => rfl
  | true => exact (neg_div _ _).symm

theorem hasPlaces_ofUnits : (ofUnits negative places units).HasPlaces places where
  spelled := by
    constructor
    · intro c hc
      exact isDigit_of_mem_digitsOf hc
    · intro digits hdigits c hc
      obtain rfl := Option.mem_some.mp hdigits
      rcases List.mem_append.mp hc with hzero | hdigit
      · exact isDigit_of_mem_zeros hzero
      · exact isDigit_of_mem_digitsOf hdigit
  whole_ne_nil := digitsOf_ne_nil _
  whole_of_zero := by
    intro hzero
    by_cases hwhole : units / 10 ^ places = 0
    · simp only [ofUnits, hwhole]
      rfl
    · exact absurd hzero (head?_digitsOf_ne_zero (Nat.pos_of_ne_zero hwhole))
  fraction := ⟨_, rfl, length_fractionDigits_ofUnits hplaces negative units⟩
  exponent := rfl

/-- An even number of units has an even last digit. -/
theorem exists_even_digit_ofUnits (heven : units % 2 = 0) :
    ∃ c, (ofUnits negative places units).fractionDigits.getLast? = some c ∧
      digitValue c % 2 = 0 := by
  have hlength := length_fractionDigits_ofUnits hplaces negative units
  have hvalue : valueOfDigits ((ofUnits negative places units).whole ++
      (ofUnits negative places units).fractionDigits) = units :=
    congrArg Decimal.coefficient (decimal_ofUnits hplaces negative units)
  rcases List.eq_nil_or_concat (ofUnits negative places units).fractionDigits with
    hnil | ⟨digits, last, hlast⟩
  · rw [hnil, List.length_nil] at hlength
    omega
  · rw [hlast, List.concat_eq_append] at hvalue ⊢
    rw [← List.append_assoc, valueOfDigits, List.foldl_append, List.foldl_cons,
      List.foldl_nil] at hvalue
    refine ⟨last, List.getLast?_concat, ?_⟩
    omega

/-- The nearest number of units gives the nearest decimal. -/
theorem nearestTo_ofUnits {q : ℚ} {k : ℤ} (habs : k.natAbs = units)
    (hsign : (k : ℚ) = signed negative units) (hk : IsNearest k (q * 10 ^ places)) :
    (ofUnits negative places units).NearestTo places q := by
  have hpower : (0 : ℚ) < 10 ^ places := by positivity
  have hvalue : (ofUnits negative places units).value = k / 10 ^ places := by
    rw [value_ofUnits hplaces, hsign]
  constructor
  · exact ⟨k, hvalue⟩
  · rw [hvalue, abs_div_pow_sub, ← div_div]
    exact div_le_div_of_nonneg_right hk.near hpower.le
  · intro j
    rw [hvalue, abs_div_pow_sub, abs_div_pow_sub]
    exact div_le_div_of_nonneg_right (hk.le_abs_sub j) hpower.le
  · intro j hne htie
    rw [hvalue, abs_div_pow_sub, abs_div_pow_sub, div_left_inj' hpower.ne'] at htie
    rw [hvalue, ne_eq, div_left_inj' hpower.ne', Int.cast_inj] at hne
    have heven := hk.even_of_tie hne htie
    exact exists_even_digit_ofUnits hplaces negative units (by omega)

end Numeral

/-! ### The text of a number -/

namespace Single

/-- The magnitude of a number in units of the last place, rounded. -/
def units (places : ℕ) (x : Single) : ℕ :=
  (x.scaled.toRatio.scale 10 places).round .toEven

/-- The numeral that a finite number is written as. -/
def fixedNumeral (places : ℕ) (x : Single) : Numeral :=
  .ofUnits x.negative places (x.units places)

/-- A finite number is written as its numeral. -/
theorem fixed_eq_text {x : Single} (hx : x.isFinite = true) (places : ℕ) :
    x.fixed places = (x.fixedNumeral places).text := by
  have hnumber : ¬ x.isNaN = true := by
    rw [isFinite, decide_eq_true_eq] at hx
    rw [isNaN, decide_eq_true_eq]
    omega
  rw [fixed, if_neg hnumber, if_pos hx, fixedNumeral, Numeral.text_ofUnits, units]

/-- The number of units, with the sign, is nearest to the exact value in units. -/
theorem exists_isNearest (places : ℕ) (x : Single) :
    ∃ k : ℤ, k.natAbs = x.units places ∧ (k : ℚ) = signed x.negative (x.units places) ∧
      IsNearest k (x.value * 10 ^ places) := by
  have hunits : IsNearest (x.units places) (x.scaled.toRatio.value * 10 ^ places) := by
    have hround : IsNearest (x.units places) (x.scaled.toRatio.scale 10 places).value :=
      Ratio.isNearest_round (Ratio.den_scale_pos x.scaled.den_toRatio_pos (by norm_num) _)
    rwa [Ratio.value_scale _ (by norm_num), zpow_natCast, Nat.cast_ofNat] at hround
  rw [value_eq_signed]
  cases x.negative with
  | false => exact ⟨x.units places, rfl, rfl, hunits⟩
  | true =>
    refine ⟨-x.units places, by simp, by simp [signed], ?_⟩
    simpa [signed] using hunits.neg

variable {places : ℕ} (hplaces : 0 < places)

include hplaces

/-- The numeral of a number is nearest to it. -/
theorem nearestTo_fixedNumeral (x : Single) : (x.fixedNumeral places).NearestTo places x.value := by
  obtain ⟨k, habs, hsign, hk⟩ := x.exists_isNearest places
  exact Numeral.nearestTo_ofUnits hplaces _ _ habs hsign hk

/-- A larger number has no numeral of a smaller value. -/
theorem value_fixedNumeral_mono {x y : Single} (hle : x.value ≤ y.value) :
    (x.fixedNumeral places).value ≤ (y.fixedNumeral places).value := by
  obtain ⟨j, -, hj, hjnear⟩ := x.exists_isNearest places
  obtain ⟨k, -, hk, hknear⟩ := y.exists_isNearest places
  have hscaled : x.value * 10 ^ places ≤ y.value * 10 ^ places := by gcongr
  have hunits : (j : ℚ) ≤ k := Int.cast_le.mpr (hjnear.mono hknear hscaled)
  rw [fixedNumeral, fixedNumeral, Numeral.value_ofUnits hplaces, Numeral.value_ofUnits hplaces,
    ← hj, ← hk]
  gcongr

/-- The text of a finite number is read back as its numeral. -/
theorem ofText?_fixed {x : Single} (hx : x.isFinite = true) :
    Numeral.ofText? (x.fixed places) = some (x.fixedNumeral places) := by
  have hform := Numeral.hasPlaces_ofUnits hplaces x.negative (x.units places)
  rw [fixed_eq_text hx]
  exact Numeral.ofText?_text hform.spelled hform.whole_ne_nil

end Single

/-- A component of a literal has four decimals, digits without a needless zero in front of them, and
a minus exactly if the sign bit is set. It denotes the decimal with four places that is nearest to
the exact value, with an even last digit if two are equally near. So it is never more than half a
unit of the last place off, and the component of a larger number never denotes less. -/
theorem PortValue.componentText_nearest (x : Single) (hx : x.isFinite = true) :
    ∃ n : Numeral, Numeral.ofText? (componentText x).toList = some n ∧ n.HasPlaces 4 ∧
      (componentText x).toList = (if x.bits.toNat.testBit 31 then ['-'] else []) ++ n.whole ++
        '.' :: n.fractionDigits ∧
      n.NearestTo 4 x.value ∧ |n.value - x.value| ≤ 1 / 20000 ∧
      ∀ y : Single, y.isFinite = true → x.value ≤ y.value →
        ∃ m : Numeral, Numeral.ofText? (componentText y).toList = some m ∧ n.value ≤ m.value := by
  have htext (y : Single) : (componentText y).toList = y.fixed 4 := String.toList_ofList
  have hplaces : 0 < 4 := by decide
  have hform := Numeral.hasPlaces_ofUnits hplaces x.negative (x.units 4)
  have hnearest := Single.nearestTo_fixedNumeral hplaces x
  refine ⟨x.fixedNumeral 4, ?_, hform, ?_, hnearest, ?_, ?_⟩
  · rw [htext]
    exact Single.ofText?_fixed hplaces hx
  · rw [htext, Single.fixed_eq_text hx, ← x.negative_eq_testBit]
    exact hform.text_eq
  · have hnear := hnearest.near
    norm_num at hnear ⊢
    exact hnear
  · intro y hy hle
    refine ⟨y.fixedNumeral 4, ?_, Single.value_fixedNumeral_mono hplaces hle⟩
    rw [htext]
    exact Single.ofText?_fixed hplaces hy

/-- The negative thirty-second, which lies in the middle of two decimals with four places. -/
def negativeThirtySecond : Single :=
  ⟨0xbd000000⟩

/-- The negative thirty-second is written with the even one of the two last digits. It denotes less
than negative zero, which keeps its sign. -/
theorem PortValue.componentText_nearest_negativeThirtySecond :
    negativeThirtySecond.isFinite = true ∧ negativeThirtySecond.value = -1 / 32 ∧
      componentText negativeThirtySecond = "-0.0312" ∧ componentText ⟨0x80000000⟩ = "-0.0000" ∧
      ∃ n : Numeral, Numeral.ofText? "-0.0312".toList = some n ∧ n.HasPlaces 4 ∧
        "-0.0312".toList = '-' :: n.whole ++ '.' :: n.fractionDigits ∧
        n.value = -312 / 10000 ∧ |n.value - -1 / 32| ≤ 1 / 20000 ∧
        (∃ c, n.fractionDigits.getLast? = some c ∧ digitValue c % 2 = 0) ∧
        ∃ m : Numeral, Numeral.ofText? "-0.0000".toList = some m ∧ n.value ≤ m.value := by
  have hfinite : negativeThirtySecond.isFinite = true := by decide
  have hvalue : negativeThirtySecond.value = -1 / 32 := by decide +kernel
  have hzero : Single.value ⟨0x80000000⟩ = 0 := by decide +kernel
  have htext : componentText negativeThirtySecond = "-0.0312" := by decide +kernel
  have hzeroText : componentText ⟨0x80000000⟩ = "-0.0000" := by decide +kernel
  have hsign : negativeThirtySecond.bits.toNat.testBit 31 = true := by decide
  obtain ⟨n, hread, hform, hsplit, hnearest, hnear, hmono⟩ :=
    componentText_nearest negativeThirtySecond hfinite
  rw [hvalue] at hnearest hnear hmono
  rw [htext] at hread hsplit
  rw [if_pos hsign] at hsplit
  have hdenotes : n.value = -312 / 10000 := by
    have hnumeral : Numeral.ofText? "-0.0312".toList =
        some ⟨true, "0".toList, some "0312".toList, none⟩ := by decide +kernel
    obtain rfl := Option.some.inj (hread.symm.trans hnumeral)
    decide +kernel
  obtain ⟨m, hm, hle⟩ := hmono ⟨0x80000000⟩ (by decide) (by rw [hzero]; norm_num)
  rw [hzeroText] at hm
  refine ⟨hfinite, hvalue, htext, hzeroText, n, hread, hform, hsplit, hdenotes, hnear, ?_, m, hm,
    hle⟩
  -- The decimal below is as near.
  apply hnearest.even_of_tie (-313)
  · rw [hdenotes]
    norm_num
  · rw [hdenotes]
    norm_num [abs_of_pos, abs_of_neg]

end MaterialGraph
