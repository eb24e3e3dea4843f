import MaterialGraph.Json.Reader
import MaterialGraph.Proofs.Digits

/-!
# Numerals read back

A numeral whose parts are digits is read back from its text, whatever follows it, as long as that
does not go on with the numeral. The numerals of a decimal, with and without an exponent, are of
this sort, and they are spelled as strictly as JSON wants them.
-/

namespace MaterialGraph

namespace Numeral

/-- The parts of a numeral are digits. -/
structure Spelled (n : Numeral) : Prop where
  whole : ∀ c ∈ n.whole, c.isDigit = true
  fraction : ∀ digits ∈ n.fraction, ∀ c ∈ digits, c.isDigit = true

/-- The text of a numeral without its sign. -/
def unsignedText (n : Numeral) : List Char :=
  n.whole ++ (n.fraction.elim [] fun digits => '.' :: digits) ++ n.exponent.elim [] exponentText

/-- A text that does not go on with a numeral. -/
def EndsBefore (rest : List Char) : Prop :=
  ∀ c ∈ rest.head?, c.isDigit = false ∧ c ≠ '.' ∧ c ≠ 'e' ∧ c ≠ 'E'

/-- The sign comes first. -/
theorem text_eq (n : Numeral) : n.text = signText n.negative ++ n.unsignedText := by
  simp [text, unsignedText]

/-- The value of an exponent is read back behind its mark. -/
theorem readExponentValue_append (exponent : Int) {rest : List Char} (hrest : EndsBefore rest) :
    readExponentValue
      ((if exponent < 0 then '-' else '+') :: digitsOf exponent.natAbs ++ rest) =
        some (exponent, rest) := by
  have hdigits : readDigits (digitsOf exponent.natAbs ++ rest) =
      (digitsOf exponent.natAbs, rest) :=
    readDigits_append (fun c => isDigit_of_mem_digitsOf) fun c hc => (hrest c hc).1
  obtain ⟨digit, digits, hcons⟩ := List.exists_cons_of_ne_nil (digitsOf_ne_nil exponent.natAbs)
  have hvalue : (valueOfDigits (digit :: digits) : Int) = exponent.natAbs := by
    rw [← hcons, valueOfDigits_digitsOf]
  rw [hcons] at hdigits
  by_cases hneg : exponent < 0
  · simp only [hneg, if_true, hcons, List.cons_append, readExponentValue, readSign] at hdigits ⊢
    simp only [hdigits, hvalue, Option.some.injEq, Prod.mk.injEq, and_true]
    omega
  · simp only [hneg, if_false, hcons, List.cons_append, readExponentValue, readSign] at hdigits ⊢
    simp only [hdigits, hvalue, Bool.false_eq_true, if_false, Option.some.injEq, Prod.mk.injEq,
      and_true]
    omega

/-- An exponent is read back, where there is one. -/
theorem readExponent_append (exponent : Option Int) {rest : List Char} (hrest : EndsBefore rest) :
    readExponent (exponent.elim [] exponentText ++ rest) = some (exponent, rest) := by
  cases exponent with
  | some exponent =>
    have hvalue := readExponentValue_append exponent hrest
    rw [Option.elim_some, exponentText, List.cons_append, readExponent, hvalue]
    rfl
  | none =>
    cases rest with
    | nil => rfl
    | cons c rest =>
      obtain ⟨-, -, hlower, hupper⟩ := hrest c rfl
      simp [readExponent, hlower, hupper]

/-- What follows the digits of a numeral is no digit. -/
theorem isDigit_head?_exponent (exponent : Option Int) {rest : List Char}
    (hrest : EndsBefore rest) :
    ∀ c ∈ (exponent.elim [] exponentText ++ rest).head?, c.isDigit = false := by
  cases exponent with
  | some exponent =>
    rintro c ⟨⟩
    rfl
  | none => exact fun c hc => (hrest c hc).1

/-- A fraction is read back, where there is one. -/
theorem readFraction_append {fraction : Option (List Char)} (exponent : Option Int)
    {rest : List Char} (hfraction : ∀ digits ∈ fraction, ∀ c ∈ digits, c.isDigit = true)
    (hrest : EndsBefore rest) :
    readFraction ((fraction.elim [] fun digits => '.' :: digits) ++
      (exponent.elim [] exponentText ++ rest)) =
        (fraction, exponent.elim [] exponentText ++ rest) := by
  cases fraction with
  | some digits =>
    have hdigits := readDigits_append (hfraction digits rfl)
      (isDigit_head?_exponent exponent hrest)
    rw [Option.elim_some, List.cons_append, readFraction, hdigits]
  | none =>
    cases exponent with
    | some exponent => rfl
    | none =>
      cases rest with
      | nil => rfl
      | cons c rest =>
        have hpoint := (hrest c rfl).2.1
        simp [readFraction, hpoint]

/-- A numeral is read back from its text behind the sign. -/
theorem readUnsigned_append {n : Numeral} (hn : n.Spelled) {rest : List Char}
    (hrest : EndsBefore rest) :
    readUnsigned n.negative (n.unsignedText ++ rest) = some (n, rest) := by
  have hfraction := readFraction_append n.exponent hn.fraction hrest
  have hbehind : ∀ c ∈ ((n.fraction.elim [] fun digits => '.' :: digits) ++
      (n.exponent.elim [] exponentText ++ rest)).head?, c.isDigit = false := by
    cases n.fraction with
    | some digits =>
      rintro c ⟨⟩
      rfl
    | none => exact isDigit_head?_exponent n.exponent hrest
  have hwhole := readDigits_append hn.whole hbehind
  simp only [unsignedText, List.append_assoc, readUnsigned, hwhole, hfraction,
    readExponent_append n.exponent hrest]
  rfl

/-- A numeral with a digit before the point is read back from its whole text. -/
theorem ofText?_text {n : Numeral} (hn : n.Spelled) (hwhole : n.whole ≠ []) :
    ofText? n.text = some n := by
  have hread : readUnsigned n.negative (n.unsignedText ++ []) = some (n, []) :=
    readUnsigned_append hn (by simp [EndsBefore])
  have hempty : n.whole.isEmpty = false := by simpa using hwhole
  have hsign : readSign n.text = (n.negative, n.unsignedText) := by
    obtain ⟨c, digits, hcons⟩ := List.exists_cons_of_ne_nil hwhole
    have hdigit : c.isDigit = true := hn.whole c (by simp [hcons])
    rw [text_eq]
    cases n.negative with
    | true => rfl
    | false =>
      have hminus : c ≠ '-' := by
        rintro rfl
        exact absurd hdigit (by decide)
      have hplus : c ≠ '+' := by
        rintro rfl
        exact absurd hdigit (by decide)
      simp [signText, unsignedText, hcons, readSign, hminus, hplus]
  rw [List.append_nil] at hread
  simp [ofText?, hsign, hread, hempty]

/-- The text of a numeral without an exponent has digits, a point and a minus sign at most. -/
theorem isDigit_of_mem_text {n : Numeral} (hn : n.Spelled) (hexponent : n.exponent = none) :
    ∀ c ∈ n.text, c.isDigit = true ∨ c = '.' ∨ c = '-' := by
  intro c hc
  simp only [text, hexponent, Option.elim_none, List.append_nil, List.mem_append] at hc
  rcases hc with (hsign | hwhole) | hfraction
  · cases hnegative : n.negative with
    | true => exact Or.inr (Or.inr (by simpa [signText, hnegative] using hsign))
    | false => simp [signText, hnegative] at hsign
  · exact Or.inl (hn.whole c hwhole)
  · cases hdigits : n.fraction with
    | none => simp [hdigits] at hfraction
    | some digits =>
      rw [hdigits, Option.elim_some, List.mem_cons] at hfraction
      rcases hfraction with hpoint | hdigit
      · exact Or.inr (Or.inl hpoint)
      · exact Or.inl (hn.fraction digits hdigits c hdigit)

end Numeral

namespace Decimal

open Numeral

/-- The numeral of a decimal without an exponent is made of digits. -/
theorem spelled_positional (negative : Bool) (d : Decimal) : (d.positional negative).Spelled := by
  have hdigit : ∀ c ∈ digitsOf d.coefficient, c.isDigit = true := fun c => isDigit_of_mem_digitsOf
  have hzero (count : Nat) : ∀ c ∈ zeros count, c.isDigit = true := fun c => isDigit_of_mem_zeros
  unfold positional
  dsimp only
  split
  · refine ⟨fun c hc => ?_, ?_⟩
    · exact (List.mem_append.mp hc).elim (hdigit c) (hzero _ c)
    · rintro digits ⟨⟩ c hc
      rw [List.mem_singleton.mp hc]
      rfl
  · split
    · refine ⟨fun c hc => hdigit c (List.mem_of_mem_take hc), ?_⟩
      rintro digits ⟨⟩ c hc
      exact hdigit c (List.mem_of_mem_drop hc)
    · refine ⟨fun c hc => ?_, ?_⟩
      · rw [List.mem_singleton.mp hc]
        rfl
      · rintro digits ⟨⟩ c hc
        exact (List.mem_append.mp hc).elim (hzero _ c) (hdigit c)

/-- The numeral of a decimal with an exponent is made of digits. -/
theorem spelled_scientific (negative : Bool) (d : Decimal) : (d.scientific negative).Spelled := by
  have hdigit : ∀ c ∈ digitsOf d.coefficient, c.isDigit = true := fun c => isDigit_of_mem_digitsOf
  unfold scientific
  split
  · exact ⟨by simp, by simp⟩
  · rename_i digit hdigits
    exact ⟨fun c hc => hdigit c (by simpa [hdigits] using hc), by simp⟩
  · rename_i digit rest _ hdigits
    refine ⟨fun c hc => hdigit c ?_, ?_⟩
    · rw [hdigits, List.mem_singleton.mp hc]
      exact List.mem_cons_self
    · rintro digits ⟨⟩ c hc
      exact hdigit c (by simp [hdigits, hc])

/-- The numeral of a decimal without an exponent has a digit before the point. -/
theorem whole_positional_ne_nil (negative : Bool) (d : Decimal) :
    (d.positional negative).whole ≠ [] := by
  unfold positional
  dsimp only
  split
  · simp
  · split
    · rename_i hplaces
      simp only [ne_eq, List.take_eq_nil_iff, digitsOf_ne_nil, or_false]
      omega
    · simp

/-- The numeral of a decimal without an exponent has none. -/
theorem exponent_positional (negative : Bool) (d : Decimal) :
    (d.positional negative).exponent = none := by
  unfold positional
  dsimp only
  split_ifs <;> rfl

/-- The numeral of a decimal keeps the sign. -/
theorem negative_positional (negative : Bool) (d : Decimal) :
    (d.positional negative).negative = negative := by
  unfold positional
  dsimp only
  split_ifs <;> rfl

/-- The numeral of a decimal without an exponent is strict, if zero has no factor of ten. -/
theorem isStrict_positional (negative : Bool) {d : Decimal}
    (h : d.coefficient = 0 → d.exponent ≤ 0) :
    Json.isStrict (d.positional negative) = true := by
  have hne := digitsOf_ne_nil d.coefficient
  unfold positional
  dsimp only
  split
  · rename_i hexponent
    by_cases hzero : d.coefficient = 0
    · have hexponent : d.exponent = 0 := by
        have := h hzero
        omega
      simp [hzero, hexponent, Json.isStrict, zeros, digitsOf]
    · have hfirst := head?_digitsOf_ne_zero (Nat.pos_of_ne_zero hzero)
      obtain ⟨c, digits, hdigits⟩ := List.exists_cons_of_ne_nil hne
      rw [hdigits, List.head?_cons, ne_eq, Option.some.injEq] at hfirst
      simp [Json.isStrict, hdigits, hfirst]
  · rename_i hexponent
    split
    · rename_i hplaces
      have hpositive : 0 < d.coefficient := by
        refine Nat.pos_of_ne_zero fun hzero => ?_
        rw [hzero] at hplaces
        simp only [digitsOf, Nat.toDigits_zero, List.length_singleton] at hplaces
        omega
      have hfirst := head?_digitsOf_ne_zero hpositive
      have hsome : 0 < (digitsOf d.coefficient).length - (-d.exponent).toNat := by omega
      simp only [Json.isStrict, List.head?_take, Nat.pos_iff_ne_zero.mp hsome, if_false]
      simp only [Bool.and_eq_true, Bool.not_eq_true', List.isEmpty_eq_false_iff, ne_eq,
        List.take_eq_nil_iff, hne, or_false, Bool.or_eq_true, bne_iff_ne, hfirst,
        not_false_eq_true, true_or, and_true, Option.some.injEq, List.drop_eq_nil_iff]
      omega
    · simp [Json.isStrict]

/-- The numeral of a decimal with an exponent is strict. -/
theorem isStrict_scientific (negative : Bool) (d : Decimal) :
    Json.isStrict (d.scientific negative) = true := by
  unfold scientific
  split
  · rename_i hdigits
    exact absurd hdigits (digitsOf_ne_nil _)
  · simp [Json.isStrict]
  · rename_i digit rest hrest _
    simp only [Json.isStrict, List.isEmpty_cons, Bool.not_false, List.length_singleton,
      beq_self_eq_true, Bool.or_true, Bool.and_self, Bool.true_and, bne_iff_ne, ne_eq,
      Option.some.injEq]
    exact hrest

end Decimal

namespace Json

/-- A strict numeral has a digit before the point. -/
theorem whole_ne_nil_of_isStrict {n : Numeral} (h : isStrict n = true) : n.whole ≠ [] := by
  intro hnil
  simp [isStrict, hnil] at h

/-- A strict numeral begins with a minus sign or a digit. -/
theorem exists_text_eq_cons {n : Numeral} (hn : n.Spelled) (hstrict : isStrict n = true) :
    ∃ c cs, n.text = c :: cs ∧ (c = '-' ∨ c.isDigit = true) := by
  obtain ⟨c, digits, hwhole⟩ := List.exists_cons_of_ne_nil (whole_ne_nil_of_isStrict hstrict)
  have hdigit : c.isDigit = true := hn.whole c (by simp [hwhole])
  rw [Numeral.text_eq, Numeral.unsignedText, hwhole]
  cases n.negative with
  | true => exact ⟨'-', _, rfl, Or.inl rfl⟩
  | false => exact ⟨c, _, rfl, Or.inr hdigit⟩

/-- A strict numeral is read back from its text. -/
theorem readNumber_append {n : Numeral} (hn : n.Spelled) (hstrict : isStrict n = true)
    {rest : List Char} (hrest : Numeral.EndsBefore rest) :
    readNumber (n.text ++ rest) = some (n, rest) := by
  obtain ⟨c, digits, hwhole⟩ := List.exists_cons_of_ne_nil (whole_ne_nil_of_isStrict hstrict)
  have hread := Numeral.readUnsigned_append hn hrest
  rw [Numeral.text_eq, List.append_assoc]
  cases hnegative : n.negative with
  | true =>
    rw [hnegative] at hread
    simp only [signText, if_true, List.cons_append, List.nil_append, readNumber, hread, hstrict]
  | false =>
    have hsign : c ≠ '-' := by
      rintro rfl
      exact absurd (hn.whole '-' (by simp [hwhole])) (by decide)
    rw [hnegative] at hread
    simp only [Numeral.unsignedText, hwhole, List.cons_append, List.append_assoc] at hread
    simp [signText, readNumber, Numeral.unsignedText, hwhole, hsign, hread, hstrict]

end Json

end MaterialGraph
