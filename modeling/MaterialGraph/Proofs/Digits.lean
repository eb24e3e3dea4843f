import Mathlib.Algebra.Order.Ring.Nat
import Mathlib.Data.List.TakeDrop
import MaterialGraph.Decimal.Numeral
import MaterialGraph.Uuid

/-!
# Digits read back

The digits of a number, in base ten or sixteen and with or without zeros in front, have the number
as their value. A decimal numeral begins with the digit zero only if it is zero. So every identity
is read back from its text.
-/

namespace MaterialGraph

/-- What holds of the members of a list one by one holds of each of them. Deciding a statement about
all characters instead could go through all of them. -/
@[elab_as_elim]
theorem of_mem_of_all {α : Type} {p : α → Prop} [DecidablePred p] {l : List α} {a : α}
    (ha : a ∈ l) (hall : l.all (fun a => decide (p a)) = true) : p a :=
  of_decide_eq_true (List.all_eq_true.mp hall a ha)

/-! ### Decimal digits -/

/-- The value of digits is the library's. -/
theorem valueOfDigits_eq (digits : List Char) :
    valueOfDigits digits = Nat.ofDigitChars 10 digits 0 :=
  Nat.ofDigitChars_eq_foldl.symm

/-- The digits of a number have it as value. -/
@[simp] theorem valueOfDigits_digitsOf (n : Nat) : valueOfDigits (digitsOf n) = n := by
  rw [valueOfDigits_eq, digitsOf, Nat.ofDigitChars_ten_toDigits]

/-- Digits behind others shift their value. -/
theorem valueOfDigits_append (before after : List Char) :
    valueOfDigits (before ++ after) =
      10 ^ after.length * valueOfDigits before + valueOfDigits after := by
  rw [valueOfDigits_eq, Nat.ofDigitChars_append, Nat.ofDigitChars_eq_ofDigitChars_zero,
    ← valueOfDigits_eq, ← valueOfDigits_eq]

/-- Zeros have no value. -/
@[simp] theorem valueOfDigits_zeros (count : Nat) : valueOfDigits (zeros count) = 0 := by
  rw [valueOfDigits_eq, zeros, Nat.ofDigitChars_replicate_zero, Nat.mul_zero]

/-- Zeros are as many as they are asked for. -/
@[simp] theorem length_zeros (count : Nat) : (zeros count).length = count :=
  List.length_replicate

/-- Numbers are written in digits. -/
theorem isDigit_of_mem_digitsOf {n : Nat} {c : Char} (h : c ∈ digitsOf n) : c.isDigit = true :=
  Nat.isDigit_of_mem_toDigits (by decide) (by decide) h

/-- Zeros are digits. -/
theorem isDigit_of_mem_zeros {count : Nat} {c : Char} (h : c ∈ zeros count) : c.isDigit = true := by
  rw [List.eq_of_mem_replicate h]
  rfl

/-- Every number has a digit. -/
@[simp] theorem digitsOf_ne_nil (n : Nat) : digitsOf n ≠ [] :=
  Nat.toDigits_ne_nil

/-- The first digit of a positive number is not zero. -/
theorem head?_digitsOf_ne_zero {n : Nat} (h : 0 < n) : (digitsOf n).head? ≠ some '0' := by
  induction n using Nat.strongRecOn with
  | _ n ih =>
    by_cases hn : n < 10
    · have hfirst : ∀ digit < 10, 0 < digit → [digit.digitChar].head? ≠ some '0' := by decide
      rw [digitsOf, Nat.toDigits_of_lt_base hn]
      exact hfirst n hn h
    · have hshort := ih (n / 10) (by omega) (by omega)
      rw [digitsOf, Nat.toDigits_of_base_le (by decide) (by omega), List.head?_append]
      cases hhead : (Nat.toDigits 10 (n / 10)).head? with
      | none => exact absurd (List.head?_eq_none_iff.mp hhead) Nat.toDigits_ne_nil
      | some c =>
        rw [Option.some_or, ← hhead]
        exact hshort

/-- A number has as many digits as say that it lies below a power of ten. -/
theorem digitCount_le_iff {n k : Nat} (hk : 0 < k) : digitCount n ≤ k ↔ n < 10 ^ k :=
  Nat.length_toDigits_le_iff (by decide) hk

/-- A number has a digit. -/
theorem digitCount_pos (n : Nat) : 0 < digitCount n :=
  Nat.length_toDigits_pos

/-- A number lies below the power of ten of its digits. -/
theorem lt_pow_digitCount (n : Nat) : n < 10 ^ digitCount n :=
  (digitCount_le_iff (digitCount_pos n)).mp (Nat.le_refl _)

/-- A positive number is at least the power of ten of its digits after the first. -/
theorem pow_digitCount_le {n : Nat} (h : 0 < n) : 10 ^ (digitCount n - 1) ≤ n := by
  by_contra hlt
  rw [Nat.not_le] at hlt
  have hpos := digitCount_pos n
  by_cases hone : digitCount n = 1
  · rw [hone] at hlt
    omega
  · have := (digitCount_le_iff (by omega)).mpr hlt
    omega

/-- A text is split behind the characters of a sort, if one of another sort follows. -/
theorem span_append {p : Char → Bool} {cs rest : List Char} (hcs : ∀ c ∈ cs, p c = true)
    (hrest : ∀ c ∈ rest.head?, p c = false) : (cs ++ rest).span p = (cs, rest) := by
  rw [List.span_eq_takeWhile_dropWhile, List.takeWhile_append_of_pos hcs,
    List.dropWhile_append_of_pos hcs]
  cases rest with
  | nil => simp
  | cons c rest => simp [hrest c rfl]

/-- Digits are read up to the first character that is none. -/
theorem readDigits_append {digits rest : List Char} (hdigits : ∀ c ∈ digits, c.isDigit = true)
    (hrest : ∀ c ∈ rest.head?, c.isDigit = false) :
    readDigits (digits ++ rest) = (digits, rest) :=
  span_append hdigits hrest

/-! ### Hexadecimal digits -/

/-- A hexadecimal digit has its value. -/
theorem hexValue?_digitChar {digit : Nat} (h : digit < 16) :
    hexValue? digit.digitChar = some digit := by
  have hall : ∀ digit < 16, hexValue? digit.digitChar = some digit := by decide
  exact hall digit h

/-- The value of digits goes on from that of the digits before them. -/
theorem hexNumber?_append (before after : List Char) (value : Nat) :
    hexNumber? (before ++ after) value = (hexNumber? before value).bind (hexNumber? after) := by
  induction before generalizing value with
  | nil => rfl
  | cons c rest ih =>
    rw [List.cons_append, hexNumber?, hexNumber?]
    cases hexValue? c with
    | none => rfl
    | some digit => exact ih _

/-- The hexadecimal digits of a number have it as value. -/
theorem hexNumber?_hexDigits (n : Nat) : hexNumber? (hexDigits n) 0 = some n := by
  induction n using Nat.strongRecOn with
  | _ n ih =>
    by_cases hn : n < 16
    · rw [hexDigits, Nat.toDigits_of_lt_base hn, hexNumber?, hexValue?_digitChar hn]
      simp [hexNumber?]
    · have hshort : hexNumber? (Nat.toDigits 16 (n / 16)) 0 = some (n / 16) :=
        ih (n / 16) (by omega)
      rw [hexDigits, Nat.toDigits_of_base_le (by decide) (by omega), hexNumber?_append, hshort,
        Option.bind_some, hexNumber?, hexValue?_digitChar (Nat.mod_lt _ (by decide))]
      simp only [Option.bind_some, hexNumber?, Option.some.injEq]
      omega

/-- Zeros in front do not change the value. -/
theorem hexNumber?_replicate_append (count : Nat) (digits : List Char) :
    hexNumber? (List.replicate count '0' ++ digits) 0 = hexNumber? digits 0 := by
  induction count with
  | zero => rfl
  | succ count ih =>
    rw [List.replicate_succ, List.cons_append, hexNumber?]
    exact ih

/-- Padded digits have the number as value. -/
theorem hexNumber?_hexPadded (width n : Nat) : hexNumber? (hexPadded width n) 0 = some n := by
  rw [hexPadded, hexNumber?_replicate_append, hexNumber?_hexDigits]

/-- A number that fits a width fills it. -/
theorem length_hexPadded {width n : Nat} (hwidth : 0 < width) (h : n < 16 ^ width) :
    (hexPadded width n).length = width := by
  have hle : (hexDigits n).length ≤ width :=
    (Nat.length_toDigits_le_iff (by decide) hwidth).mpr h
  rw [hexPadded, List.length_append, List.length_replicate]
  omega

/-! ### Identities -/

namespace Uuid

/-- The hyphens between groups can be taken out again. -/
theorem dropHyphens_addHyphens {sizes : List Nat} {digits : List Char}
    (h : digits.length = sizes.sum) :
    dropHyphens sizes (addHyphens sizes digits) = some digits := by
  induction sizes generalizing digits with
  | nil =>
    rw [List.sum_nil, List.length_eq_zero_iff] at h
    rw [h]
    rfl
  | cons size sizes ih =>
    rw [List.sum_cons] at h
    cases sizes with
    | nil =>
      rw [List.sum_nil, Nat.add_zero] at h
      rw [addHyphens, dropHyphens, List.take_of_length_le (Nat.le_of_eq h), if_pos h]
    | cons next sizes =>
      have hgroup : (digits.take size).length = size := by
        rw [List.length_take]
        omega
      have hlength : (digits.drop size).length = (next :: sizes).sum := by
        rw [List.length_drop]
        omega
      have hrest := ih hlength
      rw [addHyphens, dropHyphens, List.drop_left' hgroup, List.take_left' hgroup]
      · simp only [hrest, Option.map_some, List.take_append_drop]
      · exact List.cons_ne_nil _ _
      · exact List.cons_ne_nil _ _

/-- The groups and the hyphens between them. -/
theorem length_addHyphens {sizes : List Nat} {digits : List Char} (hsizes : sizes ≠ [])
    (h : digits.length = sizes.sum) :
    (addHyphens sizes digits).length = digits.length + (sizes.length - 1) := by
  induction sizes generalizing digits with
  | nil => exact absurd rfl hsizes
  | cons size sizes ih =>
    rw [List.sum_cons] at h
    cases sizes with
    | nil =>
      rw [List.sum_nil, Nat.add_zero] at h
      rw [addHyphens, List.take_of_length_le (Nat.le_of_eq h)]
      rfl
    | cons next sizes =>
      have hlength : (digits.drop size).length = (next :: sizes).sum := by
        rw [List.length_drop]
        omega
      have hrest := ih (List.cons_ne_nil _ _) hlength
      rw [addHyphens]
      · simp only [List.length_append, List.length_cons, List.length_take, hrest,
          List.length_drop] at hrest ⊢
        omega
      · exact List.cons_ne_nil _ _

/-- An identity is read back from its text. -/
theorem ofText?_text (u : Uuid) : ofText? u.text = some u := by
  have hlength : (hexPadded 32 u.bits.toNat).length = 32 :=
    length_hexPadded (by decide) u.bits.isLt
  have htext : u.text.length = 36 := by
    rw [text, length_addHyphens (by decide) (by rw [hlength]; rfl), hlength]
    rfl
  have hdrop : dropHyphens groupSizes u.text = some (hexPadded 32 u.bits.toNat) :=
    dropHyphens_addHyphens (by rw [hlength]; rfl)
  rw [ofText?, if_neg (by omega), if_pos htext, ofHyphenated?, hdrop, Option.bind_some, ofDigits?,
    if_pos hlength, hexNumber?_hexPadded]
  simp

end Uuid

end MaterialGraph
