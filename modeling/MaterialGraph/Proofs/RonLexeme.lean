import MaterialGraph.Proofs.TextFormat

/-!
# The smallest parts of a RON text read back

Blanks are passed over, and what begins a value is no blank. A plain name is read back from its
spelling in front of punctuation, in the raw form as well as in the plain one. A text in quotes is
read back character by character, whichever escape a character has.
-/

namespace MaterialGraph.Ron

/-! ### Blanks -/

/-- Whether a character begins a value. -/
def startsValue (c : Char) : Bool :=
  startsWord c || c.isAlpha || ['"', '(', '['].contains c

/-- A text that begins with a value. -/
def Begins (cs : List Char) : Prop :=
  ∃ c rest, cs = c :: rest ∧ startsValue c = true

theorem Begins.append {cs : List Char} (h : Begins cs) (rest : List Char) :
    Begins (cs ++ rest) := by
  obtain ⟨c, tail, rfl, hc⟩ := h
  exact ⟨c, tail ++ rest, rfl, hc⟩

/-- A blank is passed over. -/
theorem skipBlank_cons_blank {c : Char} (hc : isBlank c = true) (cs : List Char) :
    skipBlank (c :: cs) = skipBlank cs := by
  have hslash : c ≠ '/' := by
    rintro rfl
    exact absurd hc (by decide)
  rw [skipBlank, skipFrom, if_pos hc, skipBlank]
  · exact fun _ h => absurd h hslash
  · exact fun _ h => absurd h hslash

/-- The start of a line is passed over. -/
theorem skipBlank_newLine (level : Nat) (cs : List Char) :
    skipBlank (newLine level ++ cs) = skipBlank cs := by
  rw [newLine, List.cons_append, skipBlank_cons_blank (by decide)]
  induction 4 * level with
  | zero => rfl
  | succ count ih =>
    rw [List.replicate_succ, List.cons_append, skipBlank_cons_blank (by decide), ih]

/-- What is no blank and no comment stays. -/
theorem skipBlank_cons {c : Char} (hblank : isBlank c = false) (hslash : c ≠ '/') (cs : List Char) :
    skipBlank (c :: cs) = some (c :: cs) := by
  rw [skipBlank, skipFrom, if_neg (by simp [hblank]), if_neg hslash]
  · exact fun _ h => absurd h hslash
  · exact fun _ h => absurd h hslash

/-- A value is not passed over. -/
theorem Begins.skipBlank_eq {cs : List Char} (h : Begins cs) : skipBlank cs = some cs := by
  obtain ⟨c, rest, rfl, hc⟩ := h
  refine skipBlank_cons ?_ ?_ rest
  · rw [Bool.eq_false_iff]
    intro hblank
    rw [isBlank, List.contains_iff_mem] at hblank
    have hfirst : startsValue c = false := of_mem_of_all hblank (by decide)
    simp [hc] at hfirst
  · rintro rfl
    exact absurd hc (by decide)

/-- A blank in front of a value is passed over. -/
theorem Begins.skipBlank_space {cs : List Char} (h : Begins cs) :
    skipBlank (' ' :: cs) = some cs :=
  (skipBlank_cons_blank (by decide) cs).trans h.skipBlank_eq

/-! ### Names -/

/-- A text that does not go on with a name or a number. -/
def Stops (rest : List Char) : Prop :=
  ∀ c ∈ rest.head?, c ∈ [',', ')', ':', '(']

/-- The end of a name is no character of a number word. -/
theorem Stops.continuesWord {rest : List Char} (h : Stops rest) :
    ∀ c ∈ rest.head?, continuesWord c = false :=
  fun c hc => of_mem_of_all (h c hc) (by decide)

/-- What begins no name is read as none. -/
theorem readName_eq_none {c : Char} (hc : startsName c = false) (cs : List Char) :
    readName (c :: cs) = none := by
  have hb : c ≠ 'b' := by
    rintro rfl
    exact absurd hc (by decide)
  have hr : c ≠ 'r' := by
    rintro rfl
    exact absurd hc (by decide)
  have hliteral : startsLiteral (c :: cs) = false := by
    simp [startsLiteral, literalStarts, dropStart?, hb.symm, hr.symm]
  simp [readName, hliteral, hr, hc]

/-- Letters and digits are ASCII characters. -/
theorem toNat_lt_of_isAlphanum {c : Char} (h : c.isAlphanum = true) : c.toNat < 0x80 := by
  have hbelow (last : Char) (hlast : last.toNat < 0x80) (hle : c.val ≤ last.val) :
      c.toNat < 0x80 :=
    Nat.lt_of_le_of_lt (UInt32.le_iff_toNat_le.mp hle) hlast
  rcases Bool.or_eq_true_iff.mp h with hletter | hdigit
  · rcases Bool.or_eq_true_iff.mp hletter with hupper | hlower
    · exact hbelow 'Z' (by decide) (of_decide_eq_true hupper).2
    · exact hbelow 'z' (by decide) (of_decide_eq_true (Bool.and_eq_true_iff.mp hlower).2)
  · exact hbelow '9' (by decide) (of_decide_eq_true (Bool.and_eq_true_iff.mp hdigit).2)

/-- The characters of a plain name continue names. -/
theorem continuesName_of_plain {c : Char} (h : (c.isAlphanum || c == '_') = true) :
    continuesName c = true := by
  have hascii : c.toNat < 0x80 := by
    rcases Bool.or_eq_true_iff.mp h with h | h
    · exact toNat_lt_of_isAlphanum h
    · rw [beq_iff_eq.mp h]
      decide
  rw [continuesName, if_pos hascii, h]

/-- A letter starts names. -/
theorem startsName_of_isAlpha {c : Char} (h : c.isAlpha = true) : startsName c = true := by
  have hascii : c.toNat < 0x80 := toNat_lt_of_isAlphanum (by simp [Char.isAlphanum, h])
  rw [startsName, if_pos hascii, h, Bool.true_or]

/-- The marks that tell a literal from a name. -/
def literalMarks : List Char :=
  ['"', '\'', '#']

/-- A name in front of punctuation begins no literal. -/
theorem startsLiteral_append (c : Char) {cs rest : List Char} (hcs : ∀ d ∈ cs, d ∉ literalMarks)
    (hrest : Stops rest) : startsLiteral (c :: (cs ++ rest)) = false := by
  simp only [startsLiteral, literalStarts, literalMarks, Stops] at *
  match cs, rest with
  | [], [] => simp [dropStart?]
  | [], e :: rest =>
    have he := hrest e rfl
    simp [dropStart?]
    grind
  | [d], [] =>
    have hd := hcs d List.mem_cons_self
    simp [dropStart?]
    grind
  | [d], e :: rest =>
    have hd := hcs d List.mem_cons_self
    have he := hrest e rfl
    simp [dropStart?]
    grind
  | d :: e :: cs, rest =>
    have hd := hcs d List.mem_cons_self
    have he := hcs e (by simp)
    simp [dropStart?]
    grind

/-- A name is read back from its spelling. -/
theorem readName_spelling {name : Name} (hname : isPlainName name.text = true) {rest : List Char}
    (hrest : Stops rest) : readName (name.spelling ++ rest) = some (name, rest) := by
  obtain ⟨raw, text⟩ := name
  simp only [isPlainName, Bool.and_eq_true, Option.any_eq_true, List.all_eq_true] at hname
  obtain ⟨⟨c, hc, halpha⟩, hall⟩ := hname
  obtain ⟨cs, htext⟩ := List.head?_eq_some_iff.mp hc
  have hname : ∀ d ∈ text.toList, continuesName d = true :=
    fun d hd => continuesName_of_plain (hall d hd)
  have hmarks : ∀ d ∈ text.toList, d ∉ literalMarks := by
    intro d hd hmark
    have hends : continuesName d = false := of_mem_of_all hmark (by decide)
    simp [hname d hd] at hends
  have hstring : String.ofList (c :: cs) = text := by rw [← htext, String.ofList_toList]
  cases raw with
  | true =>
    have hspan : (c :: cs ++ rest).span continuesWord = (c :: cs, rest) :=
      span_append (fun d hd => by simp [continuesWord, hname d (htext ▸ hd)]) hrest.continuesWord
    have hliteral : startsLiteral ('r' :: '#' :: (c :: cs ++ rest)) = false := by
      have hfirst : c ∉ literalMarks := hmarks c (by simp [htext])
      simp only [literalMarks] at hfirst
      simp [startsLiteral, literalStarts, dropStart?]
      grind
    simp only [Name.spelling, if_true, htext, List.cons_append] at hspan hliteral ⊢
    simp only [readName, hliteral, Bool.false_eq_true, if_false, hspan, hstring]
  | false =>
    rw [htext, List.forall_mem_cons] at hname hmarks
    have hspan : (cs ++ rest).span continuesName = (cs, rest) := by
      refine span_append hname.2 fun d hd => ?_
      have := hrest.continuesWord d hd
      simp_all [continuesWord]
    have hliteral := startsLiteral_append c hmarks.2 hrest
    have hplain : ∀ tail, cs ++ rest ≠ '#' :: tail := by
      intro tail htail
      cases cs with
      | nil => exact absurd (hrest '#' (by simp_all)) (by decide)
      | cons d cs => exact hmarks.2 d List.mem_cons_self (by simp_all [literalMarks])
    simp only [Name.spelling, Bool.false_eq_true, if_false, htext, readName, hliteral,
      List.cons_append]
    split
    · rename_i tail heq
      exact absurd (List.cons.inj heq).2 (hplain tail)
    · rename_i heq
      obtain ⟨rfl, rfl⟩ := List.cons.inj heq
      simp only [startsName_of_isAlpha halpha, if_true, hspan, hstring]
    · rename_i heq
      cases heq

/-- The name of an entry is read up to its colon. -/
theorem readName_spelling_colon {name : Name} (hname : isPlainName name.text = true)
    (rest : List Char) :
    readName (name.spelling ++ ':' :: rest) = some (name, ':' :: rest) := by
  refine readName_spelling hname ?_
  rintro c ⟨⟩
  decide

/-! ### Texts -/

/-- What is read as a hexadecimal number is made of hexadecimal digits. -/
theorem isSome_hexValue? {cs : List Char} {value n : Nat} (h : hexNumber? cs value = some n) :
    ∀ c ∈ cs, (hexValue? c).isSome = true := by
  induction cs generalizing value with
  | nil => simp
  | cons c cs ih =>
    rw [hexNumber?, Option.bind_eq_some_iff] at h
    obtain ⟨digit, hdigit, hrest⟩ := h
    rw [List.forall_mem_cons, hdigit]
    exact ⟨rfl, ih hrest⟩

/-- The escape of a character by its code point is read back. -/
theorem readTextEscape_code (c : Char) (rest : List Char) :
    readTextEscape ('u' :: '\x7b' :: (hexDigits c.toNat ++ '\x7d' :: rest)) = some (c, rest) := by
  have hvalue := hexNumber?_hexDigits c.toNat
  have hspan : (hexDigits c.toNat ++ '\x7d' :: rest).span (fun c => (hexValue? c).isSome) =
      (hexDigits c.toNat, '\x7d' :: rest) := by
    refine span_append (isSome_hexValue? hvalue) ?_
    rintro d ⟨⟩
    decide
  have hvalid : c.toNat.isValidChar := c.valid
  have hlength : (hexDigits c.toNat).length ≤ codeDigits := by
    rw [hexDigits, codeDigits, Nat.length_toDigits_le_iff (by decide) (by decide)]
    rcases hvalid with h | h <;> omega
  have hempty : (hexDigits c.toNat).isEmpty = false := by simp [hexDigits]
  have hdigits : ¬ ((hexDigits c.toNat).isEmpty || codeDigits < (hexDigits c.toNat).length) := by
    simpa [hempty] using hlength
  simp only [readTextEscape, readEscape, hspan, if_neg hdigits, hvalue, Option.bind_some,
    if_pos hvalid, Char.ofNat_toNat]

/-- A character is read back from its spelling in a text. -/
theorem readQuoted_quotedChar (fuel : Nat) (c : Char) (cs : List Char) :
    readQuoted readTextEscape id (fuel + 1) (quotedChar .escaped c ++ cs) =
      (readQuoted readTextEscape id fuel cs).map fun (text, rest) => (c :: text, rest) := by
  unfold quotedChar
  split_ifs with hnull htab hreturn hline hquote hback hsingle hshown
  · simp [hnull, readQuoted, readTextEscape, readEscape, shortEscape?]
  · simp [htab, readQuoted, readTextEscape, readEscape, shortEscape?]
  · simp [hreturn, readQuoted, readTextEscape, readEscape, shortEscape?]
  · simp [hline, readQuoted, readTextEscape, readEscape, shortEscape?]
  · simp [hquote, readQuoted, readTextEscape, readEscape, shortEscape?]
  · simp [hback, readQuoted, readTextEscape, readEscape, shortEscape?]
  · simp only [Bool.and_eq_true, decide_eq_true_eq] at hsingle
    simp [hsingle.1, readQuoted, readTextEscape, readEscape, shortEscape?]
  · simp [readQuoted, hquote, hback]
  · have hescape : codePointEscape c ++ cs =
        '\\' :: 'u' :: '\x7b' :: (hexDigits c.toNat ++ '\x7d' :: cs) := by
      simp [codePointEscape]
    rw [hescape, readQuoted, readTextEscape_code]
    simp

/-- A text is read back up to its closing quote. -/
theorem readQuoted_flatMap (cs rest : List Char) {fuel : Nat} (hfuel : cs.length < fuel) :
    readQuoted readTextEscape id fuel (cs.flatMap (quotedChar .escaped) ++ '"' :: rest) =
      .ok (cs, rest) := by
  induction cs generalizing fuel with
  | nil =>
    obtain ⟨fuel, rfl⟩ : ∃ less, fuel = less + 1 := ⟨fuel - 1, by omega⟩
    rfl
  | cons c cs ih =>
    rw [List.length_cons] at hfuel
    obtain ⟨fuel, rfl⟩ : ∃ less, fuel = less + 1 := ⟨fuel - 1, by omega⟩
    rw [List.flatMap_cons, List.append_assoc, readQuoted_quotedChar, ih (by omega)]
    rfl

/-- A quoted text is longer than what it quotes. -/
theorem length_lt_quotedText (s : String) : s.toList.length < (quotedText s).length := by
  have hle : s.toList.length ≤ (s.toList.flatMap (quotedChar .escaped)).length := by
    induction s.toList with
    | nil => exact Nat.le_refl 0
    | cons c cs ih =>
      have hpos : 0 < (quotedChar .escaped c).length := by
        unfold quotedChar codePointEscape
        split_ifs <;> simp
      rw [List.flatMap_cons, List.length_append, List.length_cons]
      omega
  rw [quotedText, quoted, List.length_append, List.length_cons]
  omega

end MaterialGraph.Ron
