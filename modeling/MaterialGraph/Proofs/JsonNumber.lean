import MaterialGraph.Proofs.JsonDocument

/-!
# Numbers that JSON takes back

JSON refuses a number that is too large for a double. The numeral of a finite four-byte number is
never that large: its leading digits fit a word and its decade is far below the largest power of
ten, so that the product of both stays in range. What is read back may be another number, but there
is one. A number that is not finite is written as null and refused.
-/

namespace MaterialGraph

namespace BinaryFormat

/-- A value below a power of two is rounded on a unit that leaves all bits below that power. -/
theorem unit_round_le (f : BinaryFormat) {r : Ratio} (hden : 0 < r.den) {k : Int}
    (h : r.value < 2 ^ k) : (f.round r).unit ≤ max (k - f.precision) f.minUnit := by
  rw [round]
  split
  · exact le_max_right _ _
  · rename_i hnum
    have hbinade := (Ratio.binade_spec (Nat.pos_of_ne_zero hnum) hden).1.trans_lt h
    rw [zpow_lt_zpow_iff_right₀ one_lt_two] at hbinade
    dsimp only
    omega

/-- Rounding at most doubles a power of two that bounds a value. -/
theorem value_round_le (f : BinaryFormat) {r : Ratio} (hden : 0 < r.den) {k : Int}
    (h : r.value < 2 ^ k) (hk : f.minUnit ≤ k) : (f.round r).toRatio.value ≤ 2 ^ (k + 1) := by
  have hunit : (2 : ℚ) ^ (f.round r).unit ≤ 2 ^ k := by
    refine zpow_le_zpow_right₀ one_le_two ((f.unit_round_le hden h).trans ?_)
    omega
  have hpower : (0 : ℚ) < 2 ^ (f.round r).unit := by positivity
  have hdouble : (2 : ℚ) ^ (k + 1) = 2 * 2 ^ k := by
    rw [zpow_add_one₀ two_ne_zero, mul_comm]
  have hcoefficient : ((f.round r).coefficient : ℚ) - 1 / 2 ≤ r.value / 2 ^ (f.round r).unit := by
    rw [round]
    split
    · rename_i hzero
      simp [Ratio.value, hzero]
    · have hnear := (Ratio.round_near (Ratio.den_scale_pos hden two_pos
        (-max (r.binade - (f.precision - 1 : Nat)) f.minUnit)) .toEven).1
      rwa [Ratio.value_scale r two_pos, zpow_neg, Nat.cast_ofNat, ← div_eq_mul_inv] at hnear
  rw [le_div_iff₀ hpower] at hcoefficient
  rw [Scaled.value_toRatio, hdouble]
  linarith

end BinaryFormat

namespace Json

/-- The leading digits before the point fit a word, and leave out no more than there are. -/
theorem leadingWhole_spec (digits : List Char) {coefficient : Nat} (h : coefficient < wordLimit) :
    (leadingWhole digits coefficient).coefficient < wordLimit ∧
      (leadingWhole digits coefficient).exponent ≤ digits.length := by
  induction digits generalizing coefficient with
  | nil => exact ⟨h, le_rfl⟩
  | cons c rest ih =>
    rw [leadingWhole]
    split
    · rename_i hfits
      obtain ⟨hcoefficient, hexponent⟩ := ih hfits
      refine ⟨hcoefficient, hexponent.trans ?_⟩
      rw [List.length_cons]
      omega
    · exact ⟨h, le_rfl⟩

/-- The digits after the point keep the leading ones in a word, and only lower their exponent. -/
theorem leadingFraction_spec (digits : List Char) {l : Leading} (h : l.coefficient < wordLimit) :
    (leadingFraction digits l).coefficient < wordLimit ∧
      (leadingFraction digits l).exponent ≤ l.exponent := by
  induction digits generalizing l with
  | nil => exact ⟨h, le_rfl⟩
  | cons c rest ih =>
    rw [leadingFraction]
    split
    · rename_i hfits
      obtain ⟨hcoefficient, hexponent⟩ := ih (l := ⟨_, l.exponent - 1⟩) hfits
      exact ⟨hcoefficient, hexponent.trans (by dsimp only; omega)⟩
    · exact ⟨h, le_rfl⟩

/-- The leading digits of a numeral fit a word, with an exponent up to the digits before the
point. -/
theorem leading_spec (n : Numeral) :
    (leading n).coefficient < wordLimit ∧ (leading n).exponent ≤ n.whole.length := by
  obtain ⟨hwhole, hexponent⟩ := leadingWhole_spec n.whole (show 0 < wordLimit by decide)
  obtain ⟨hcoefficient, hexponent'⟩ := leadingFraction_spec n.fractionDigits hwhole
  exact ⟨hcoefficient, hexponent'.trans hexponent⟩

/-- A product of magnitudes below large powers of two is not too large for a double. -/
theorem not_overflows_product {a b : Scaled} {j k : Nat} (ha : a.toRatio.value ≤ 2 ^ (j : Int))
    (hb : b.toRatio.value ≤ 2 ^ (k : Int)) (hjk : j + k ≤ 1000) :
    BinaryFormat.double.overflows (product a b) = false := by
  let r : Ratio := ⟨a.toRatio.num * b.toRatio.num, a.toRatio.den * b.toRatio.den⟩
  have hvalue : r.value < 2 ^ ((j + k + 1 : Nat) : Int) := by
    have hproduct : r.value = a.toRatio.value * b.toRatio.value := by
      simp only [r, Ratio.value]
      push_cast
      rw [mul_div_mul_comm]
    have hnonneg : 0 ≤ b.toRatio.value := by
      rw [Ratio.value]
      positivity
    calc r.value ≤ 2 ^ (j : Int) * 2 ^ (k : Int) := by
          rw [hproduct]
          gcongr
      _ < 2 ^ ((j + k + 1 : Nat) : Int) := by
          rw [← zpow_add₀ two_ne_zero]
          exact zpow_lt_zpow_right₀ one_lt_two (by omega)
  have hunit : (product a b).unit ≤ _ :=
    BinaryFormat.double.unit_round_le (Nat.mul_pos a.den_toRatio_pos b.den_toRatio_pos) hvalue
  have hbelow : (product a b).unit < 971 := by
    simp only [BinaryFormat.double] at hunit
    omega
  have hlargest : BinaryFormat.double.maxUnit = 971 := rfl
  have hequal : (product a b).unit ≠ 971 := by omega
  simp [BinaryFormat.overflows, hlargest, hequal, hbelow.le]

/-- A word times a moderate power of ten is not too large for a double. -/
theorem isSome_scalePower {coefficient : Nat} (hcoefficient : coefficient < wordLimit)
    {exponent : Int} (hexponent : exponent ≤ 73) :
    (scalePower coefficient exponent).isSome = true := by
  rw [scalePower]
  split
  · rfl
  · rename_i hnonneg
    have hrange : exponent.natAbs ≤ 73 := by omega
    have hstart :
        (BinaryFormat.double.round ⟨coefficient, 1⟩).toRatio.value ≤ 2 ^ ((65 : Nat) : Int) := by
      have hword : (coefficient : ℚ) < 2 ^ 64 := by exact_mod_cast hcoefficient
      refine BinaryFormat.double.value_round_le (k := 64) Nat.one_pos ?_ (by decide)
      rw [Ratio.value, Nat.cast_one, div_one]
      exact_mod_cast hword
    have hpower : (powerOfTen exponent.natAbs).toRatio.value ≤ 2 ^ ((251 : Nat) : Int) := by
      have hten : (10 : ℚ) ^ exponent.natAbs < 2 ^ 250 :=
        (pow_le_pow_right₀ (by norm_num) hrange).trans_lt (by norm_num)
      refine BinaryFormat.double.value_round_le (k := 250) Nat.one_pos ?_ (by decide)
      rw [Ratio.value, Nat.cast_one, div_one, Nat.pow_eq]
      exact_mod_cast hten
    have hlargest : exponent.natAbs ≤ largestPower := hrange.trans (by decide)
    simp [hlargest, not_overflows_product hstart hpower (by decide)]

/-- A numeral of moderate size is read as a number. -/
theorem isSome_single? {n : Numeral} (hexponent : (n.exponent.getD 0).natAbs ≤ 60)
    (hwhole : n.whole.length ≤ 13) : (single? n).isSome = true := by
  obtain ⟨hcoefficient, hleading⟩ := leading_spec n
  rw [single?]
  split
  · rfl
  · have hlimit : ¬ exponentLimit ≤ (n.exponent.getD 0).natAbs := by
      rw [exponentLimit, Nat.pow_eq]
      omega
    rw [Option.isSome_map, doubleOf, if_neg hlimit]
    exact isSome_scalePower hcoefficient (by omega)

/-- A decimal without an exponent has as many digits before the point as its decade says. -/
theorem length_whole_positional (negative : Bool) (d : Decimal) :
    ((d.positional negative).whole.length : Int) ≤ max (d.decade + 1) 1 := by
  unfold Decimal.positional Decimal.decade digitCount
  dsimp only
  split
  · simp only [List.length_append, length_zeros]
    omega
  · split
    · rw [List.length_take]
      omega
    · simp

/-- A decimal with an exponent has one digit before the point, and its decade as exponent. -/
theorem scientific_spec (negative : Bool) (d : Decimal) :
    (d.scientific negative).whole.length ≤ 1 ∧
      (d.scientific negative).exponent = some d.decade := by
  unfold Decimal.scientific
  split <;> exact ⟨by simp, rfl⟩

/-- The numeral of a finite number is of moderate size. -/
theorem isSome_single?_numeralOf {x : Single} (hfinite : x.isFinite = true) :
    (single? (numeralOf x)).isSome = true := by
  obtain ⟨hlow, hhigh⟩ := x.decade_shortest .toEven hfinite
  rw [largestDecade] at hlow hhigh
  rw [numeralOf]
  split
  · rename_i hpositional
    have hwhole := length_whole_positional x.negative (x.shortest .toEven)
    simp only [isPositional, Bool.and_eq_true, decide_eq_true_eq] at hpositional
    refine isSome_single? ?_ (by omega)
    rw [Decimal.exponent_positional]
    decide
  · obtain ⟨hwhole, hexponent⟩ := scientific_spec x.negative (x.shortest .toEven)
    refine isSome_single? ?_ (by omega)
    rw [hexponent, Option.getD_some]
    omega

/-- JSON takes back exactly the finite numbers. -/
theorem isSome_reread_iff (x : Single) : (reread x).isSome = true ↔ x.isFinite = true := by
  rw [reread, ofSingle]
  split
  · rename_i hfinite
    exact ⟨fun _ => hfinite, fun _ => isSome_single?_numeralOf hfinite⟩
  · rename_i hinfinite
    exact ⟨fun h => by simp [number?] at h, fun h => absurd h hinfinite⟩

end Json

end MaterialGraph
