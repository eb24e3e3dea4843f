import Mathlib.Data.List.Basic
import Mathlib.Data.List.DropRight
import MaterialGraph.Json.Writer
import MaterialGraph.Proofs.Numerals

/-!
# JSON trees read back

A tree whose numbers are spelled as JSON wants them, and whose strings and keys are texts, is read
back from its spread text. Strings may hold any characters. A value is read with whatever follows
it, so arrays and objects are read item by item; the fuel of the reader is enough because every
second unit meets a character.
-/

namespace MaterialGraph.Json

/-! ### Strings -/

/-- A character is read back from the way it stands in a string. -/
theorem readUnits_stringChar (c : Char) (rest : List Char) :
    readUnits (stringChar c ++ rest) =
      (readUnits rest).map fun (units, rest) => (.char c :: units, rest) := by
  unfold stringChar
  split_ifs with hquote hslash hback htab hline hfeed hreturn hcontrol
  · simp [hquote, readUnits, shortEscape?]
  · simp [hslash, readUnits, shortEscape?]
  · simp [hback, readUnits, shortEscape?]
  · simp [htab, readUnits, shortEscape?]
  · simp [hline, readUnits, shortEscape?]
  · simp [hfeed, readUnits, shortEscape?]
  · simp [hreturn, readUnits, shortEscape?]
  · have hcode : c.toNat < 32 := hcontrol
    have hlength : (hexPadded 4 c.toNat).length = 4 := length_hexPadded (by decide) (by omega)
    obtain ⟨d₁, d₂, d₃, d₄, hdigits⟩ := List.length_eq_four.mp hlength
    have hvalue : hexNumber? [d₁, d₂, d₃, d₄] 0 = some c.toNat :=
      hdigits ▸ hexNumber?_hexPadded 4 c.toNat
    have hunit : unitOfCode c.toNat = .char c := by
      rw [unitOfCode, if_neg (by omega), if_neg (by omega), Char.ofNat_toNat]
    rw [hdigits]
    simp only [List.cons_append, List.nil_append, readUnits, hvalue, Option.bind_some, hunit]
  · have hplain : ¬ (c = '\\' ∨ c < ' ') := not_or.mpr ⟨hslash, hcontrol⟩
    rw [List.singleton_append, readUnits, if_neg hplain]
    · exact hquote
    · exact fun _ _ _ _ _ heq _ => hslash heq
    · exact fun _ _ heq _ => hslash heq

/-- Characters are read back up to the quote that closes their string. -/
theorem readUnits_flatMap (cs rest : List Char) :
    readUnits (cs.flatMap stringChar ++ '"' :: rest) = some (cs.map .char, rest) := by
  induction cs with
  | nil => simp [readUnits]
  | cons c cs ih => rw [List.flatMap_cons, List.append_assoc, readUnits_stringChar, ih]; rfl

/-- Characters without surrogates are a text. -/
theorem textOfUnits_map_char (cs : List Char) : textOfUnits (cs.map .char) = some cs := by
  induction cs with
  | nil => rfl
  | cons c cs ih => rw [List.map_cons, textOfUnits, ih]; rfl

/-- A string is read back behind its opening quote. -/
theorem readString_append (s : String) (rest : List Char) :
    readString (s.toList.flatMap stringChar ++ '"' :: rest) = some (some s, rest) := by
  simp [readString, readUnits_flatMap, textOfUnits_map_char]

/-! ### Blanks -/

/-- No blanks are left after they have been skipped. -/
theorem skipBlank_skipBlank (cs : List Char) : skipBlank (skipBlank cs) = skipBlank cs :=
  List.dropWhile_idempotent isBlank cs

/-- A line's start is blank. -/
theorem skipBlank_newLine (level : Nat) (rest : List Char) :
    skipBlank (newLine level ++ rest) = skipBlank rest :=
  List.dropWhile_append_of_pos fun c hc => by
    rcases List.mem_cons.mp hc with rfl | hc
    · rfl
    · rw [List.eq_of_mem_replicate hc]
      rfl

/-- Blanks before a value are skipped. -/
theorem readValue_skipBlank (fuel : Nat) (cs : List Char) :
    readValue fuel (skipBlank cs) = readValue fuel cs := by
  cases fuel with
  | zero => rfl
  | succ fuel => rw [readValue, readValue, skipBlank_skipBlank]

/-- Blanks before items are skipped. -/
theorem readItems_skipBlank (fuel : Nat) (cs : List Char) :
    readItems fuel (skipBlank cs) = readItems fuel cs := by
  cases fuel with
  | zero => rfl
  | succ fuel => rw [readItems, readItems, readValue_skipBlank]

/-- Blanks before entries are skipped. -/
theorem readEntries_skipBlank (fuel : Nat) (cs : List Char) :
    readEntries fuel (skipBlank cs) = readEntries fuel cs := by
  cases fuel with
  | zero => rfl
  | succ fuel => rw [readEntries, readEntries, skipBlank_skipBlank]

/-- Items may start on a line of their own. -/
theorem readItems_newLine (fuel level : Nat) (cs : List Char) :
    readItems fuel (newLine level ++ cs) = readItems fuel cs := by
  rw [← readItems_skipBlank, skipBlank_newLine, readItems_skipBlank]

/-- Entries may start on a line of their own. -/
theorem readEntries_newLine (fuel level : Nat) (cs : List Char) :
    readEntries fuel (newLine level ++ cs) = readEntries fuel cs := by
  rw [← readEntries_skipBlank, skipBlank_newLine, readEntries_skipBlank]

/-! ### Trees -/

/-- Trees that can be read back: their numbers are strict, and their strings and keys are texts. -/
inductive Legible : Json → Prop where
  | null : Legible .null
  | bool (value : Bool) : Legible (.bool value)
  | number {n : Numeral} (hspelled : n.Spelled) (hstrict : isStrict n = true) : Legible (.number n)
  | string (s : String) : Legible (.string (some s))
  | array {items : List Json} (hitems : ∀ item ∈ items, Legible item) : Legible (.array items)
  | object {entries : List (Option String × Json)}
      (hkeys : ∀ entry ∈ entries, entry.1.isSome = true)
      (hvalues : ∀ entry ∈ entries, Legible entry.2) : Legible (.object entries)

/-- A tree is read back from its spread text, at any level and before any text that does not go on
with a number. -/
def ReadsBack (json : Json) : Prop :=
  ∀ level fuel rest, 2 * (spread level json).length ≤ fuel → Numeral.EndsBefore rest →
    readValue fuel (spread level json ++ rest) = some (json, rest)

/-- A number does not go on with a line's start. -/
theorem endsBefore_newLine (level : Nat) (rest : List Char) :
    Numeral.EndsBefore (newLine level ++ rest) := by
  rintro c ⟨⟩
  exact ⟨rfl, by decide, by decide, by decide⟩

/-- A number does not go on with a comma. -/
theorem endsBefore_comma (rest : List Char) : Numeral.EndsBefore (',' :: rest) := by
  rintro c ⟨⟩
  exact ⟨rfl, by decide, by decide, by decide⟩

/-- The items of an array are read back. -/
theorem readItems_spreadItems {items : List Json} {item : Json} (hitem : ReadsBack item)
    (hitems : ∀ other ∈ items, ReadsBack other) (level : Nat) {fuel : Nat} (rest : List Char)
    (hfuel : 2 * (spread (level + 1) item ++ spreadItems level items).length ≤ fuel) :
    readItems fuel (spread (level + 1) item ++ (spreadItems level items ++ rest)) =
      some (item :: items, rest) := by
  induction items generalizing item fuel with
  | nil =>
    simp only [spreadItems, List.length_append, List.length_singleton] at hfuel
    obtain ⟨fuel, rfl⟩ : ∃ less, fuel = less + 1 := ⟨fuel - 1, by omega⟩
    have hread := hitem (level + 1) fuel (newLine level ++ ([']'] ++ rest)) (by omega)
      (endsBefore_newLine level _)
    rw [readItems, spreadItems, List.append_assoc, hread, Option.bind_some]
    simp only [skipBlank_newLine]
    rfl
  | cons next items ih =>
    simp only [spreadItems, List.cons_append, List.append_assoc, List.length_append,
      List.length_cons] at hfuel
    obtain ⟨fuel, rfl⟩ : ∃ less, fuel = less + 1 := ⟨fuel - 1, by omega⟩
    have hnext : readItems fuel _ = _ := ih (hitems next List.mem_cons_self)
      (fun other hother => hitems other (List.mem_cons_of_mem _ hother))
      (by rw [List.length_append]; omega)
    have hread := hitem (level + 1) fuel (',' :: (newLine (level + 1) ++
      (spread (level + 1) next ++ (spreadItems level items ++ rest)))) (by omega)
      (endsBefore_comma _)
    simp only [readItems, spreadItems, List.cons_append, List.append_assoc, hread, Option.bind_some]
    show (readItems fuel _).map _ = _
    rw [readItems_newLine, hnext]
    rfl

/-- A key begins with its quote. -/
theorem skipBlank_stringText (key : String) (cs : List Char) :
    skipBlank (stringText key ++ cs) = '"' :: (key.toList.flatMap stringChar ++ '"' :: cs) := by
  simp [stringText, skipBlank, isBlank]

/-- A blank in front of a value is passed over. -/
theorem readValue_blank (fuel : Nat) (cs : List Char) :
    readValue fuel (' ' :: cs) = readValue fuel cs :=
  (readValue_skipBlank fuel (' ' :: cs)).symm.trans (readValue_skipBlank fuel cs)

/-- The last entry is read, and then the end. -/
theorem readEntries_last {fuel : Nat} {value : Json} {cs rest behind : List Char} (key : String)
    (hvalue : readValue fuel cs = some (value, rest))
    (hend : skipBlank rest = '\x7d' :: behind) :
    readEntries (fuel + 1) (stringText key ++ ':' :: ' ' :: cs) =
      some ([(some key, value)], behind) := by
  have hcolon : skipBlank (':' :: ' ' :: cs) = ':' :: ' ' :: cs := rfl
  simp only [readEntries, skipBlank_stringText, readString_append, Option.bind_some, hcolon,
    readValue_blank, hvalue, hend]

/-- An entry is read, and then the others. -/
theorem readEntries_cons {fuel : Nat} {value : Json} {cs rest next behind : List Char}
    {entries : List (Option String × Json)} (key : String)
    (hvalue : readValue fuel cs = some (value, rest)) (hcomma : skipBlank rest = ',' :: next)
    (hnext : readEntries fuel next = some (entries, behind)) :
    readEntries (fuel + 1) (stringText key ++ ':' :: ' ' :: cs) =
      some ((some key, value) :: entries, behind) := by
  have hcolon : skipBlank (':' :: ' ' :: cs) = ':' :: ' ' :: cs := rfl
  simp only [readEntries, skipBlank_stringText, readString_append, Option.bind_some, hcolon,
    readValue_blank, hvalue, hcomma, hnext, Option.map_some]

/-- The entries of an object are read back. -/
theorem readEntries_spreadEntries {entries : List (Option String × Json)} (key : String)
    {value : Json} (hvalue : ReadsBack value)
    (hkeys : ∀ entry ∈ entries, entry.1.isSome = true)
    (hvalues : ∀ entry ∈ entries, ReadsBack entry.2) (level : Nat) {fuel : Nat} (rest : List Char)
    (hfuel : 2 * (spread (level + 1) value ++ spreadEntries level entries).length ≤ fuel) :
    readEntries fuel (stringText key ++ ':' :: ' ' ::
      (spread (level + 1) value ++ (spreadEntries level entries ++ rest))) =
        some ((some key, value) :: entries, rest) := by
  induction entries generalizing key value fuel with
  | nil =>
    simp only [spreadEntries, List.length_append, List.length_singleton] at hfuel
    obtain ⟨fuel, rfl⟩ : ∃ less, fuel = less + 1 := ⟨fuel - 1, by omega⟩
    have hread := hvalue (level + 1) fuel (newLine level ++ (['\x7d'] ++ rest)) (by omega)
      (endsBefore_newLine level _)
    rw [spreadEntries, List.append_assoc]
    exact readEntries_last key hread (skipBlank_newLine level _)
  | cons next entries ih =>
    obtain ⟨nextKey, nextValue⟩ := next
    obtain ⟨nextKey, rfl⟩ := Option.isSome_iff_exists.mp (hkeys _ List.mem_cons_self)
    simp only [spreadEntries, List.cons_append, List.append_assoc, List.length_append,
      List.length_cons] at hfuel
    obtain ⟨fuel, rfl⟩ : ∃ less, fuel = less + 1 := ⟨fuel - 1, by omega⟩
    have hnextValue : ReadsBack nextValue := hvalues _ List.mem_cons_self
    have hnext : readEntries fuel _ = _ := ih nextKey hnextValue
      (fun other hother => hkeys other (List.mem_cons_of_mem _ hother))
      (fun other hother => hvalues other (List.mem_cons_of_mem _ hother))
      (by rw [List.length_append]; omega)
    have hread := hvalue (level + 1) fuel (',' :: (newLine (level + 1) ++ (stringText nextKey ++
      ':' :: ' ' :: (spread (level + 1) nextValue ++ (spreadEntries level entries ++ rest)))))
      (by omega) (endsBefore_comma _)
    simp only [spreadEntries, Option.getD_some, List.cons_append, List.append_assoc]
    exact readEntries_cons key hread rfl ((readEntries_newLine _ _ _).trans hnext)

/-- Items do not begin with the end of an array. -/
theorem readItems_close (fuel : Nat) (rest : List Char) : readItems fuel (']' :: rest) = none := by
  match fuel with
  | 0 => rfl
  | 1 => rfl
  | fuel + 2 => rfl

/-- An array is read as its items. -/
theorem readValue_array {fuel : Nat} {cs rest : List Char} {items : List Json}
    (h : readItems fuel cs = some (items, rest)) :
    readValue (fuel + 1) ('[' :: cs) = some (.array items, rest) := by
  have hstart : skipBlank ('[' :: cs) = '[' :: cs := rfl
  rw [← readItems_skipBlank] at h
  simp only [readValue, hstart]
  split
  · rename_i behind hclose
    rw [hclose, readItems_close] at h
    exact absurd h (by simp)
  · rw [h]
    rfl

/-- An object is read as its entries. -/
theorem readValue_object {fuel : Nat} {cs rest : List Char}
    {entries : List (Option String × Json)} (h : readEntries fuel cs = some (entries, rest)) :
    readValue (fuel + 1) ('\x7b' :: cs) = some (.object entries, rest) := by
  have hstart : skipBlank ('\x7b' :: cs) = '\x7b' :: cs := rfl
  rw [← readEntries_skipBlank] at h
  simp only [readValue, hstart]
  split
  · rename_i behind hclose
    have hnone : readEntries fuel ('\x7d' :: behind) = none := by cases fuel <;> rfl
    rw [hclose, hnone] at h
    exact absurd h (by simp)
  · rw [h]
    rfl

/-- A number is read where a value begins with a sign or a digit. -/
theorem readValue_number (fuel : Nat) {c : Char} (cs : List Char)
    (h : c = '-' ∨ c.isDigit = true) :
    readValue (fuel + 1) (c :: cs) =
      (readNumber (c :: cs)).map fun (n, rest) => (.number n, rest) := by
  have hother (other : Char) (hno : ¬ (other = '-' ∨ other.isDigit = true)) : c ≠ other :=
    fun heq => hno (heq ▸ h)
  have hblank : isBlank c = false := by
    simp [isBlank, hother ' ' (by decide), hother '\n' (by decide), hother '\t' (by decide),
      hother '\r' (by decide)]
  have hstart : skipBlank (c :: cs) = c :: cs := by
    rw [skipBlank, List.dropWhile_cons_of_neg (by simp [hblank])]
  have hquote := hother '"' (by decide)
  have harray := hother '[' (by decide)
  have hobject := hother '\x7b' (by decide)
  have hnull := hother 'n' (by decide)
  have htrue := hother 't' (by decide)
  have hfalse := hother 'f' (by decide)
  simp only [readValue, hstart]
  split <;> simp_all

/-- Every legible tree is read back. -/
theorem Legible.readsBack {json : Json} (h : Legible json) : ReadsBack json := by
  induction h with
  | null =>
    intro level fuel rest hfuel hrest
    obtain ⟨fuel, rfl⟩ : ∃ less, fuel = less + 1 := ⟨fuel - 1, by simp [spread] at hfuel; omega⟩
    rfl
  | bool value =>
    intro level fuel rest hfuel hrest
    obtain ⟨fuel, rfl⟩ : ∃ less, fuel = less + 1 :=
      ⟨fuel - 1, by cases value <;> simp [spread] at hfuel <;> omega⟩
    cases value <;> rfl
  | @number n hspelled hstrict =>
    intro level fuel rest hfuel hrest
    have hread := readNumber_append hspelled hstrict hrest
    obtain ⟨c, cs, htext, hfirst⟩ := exists_text_eq_cons hspelled hstrict
    simp only [spread, htext, List.length_cons] at hfuel hread ⊢
    obtain ⟨fuel, rfl⟩ : ∃ less, fuel = less + 1 := ⟨fuel - 1, by omega⟩
    rw [List.cons_append] at hread ⊢
    rw [readValue_number fuel _ hfirst, hread]
    rfl
  | string s =>
    intro level fuel rest hfuel hrest
    obtain ⟨fuel, rfl⟩ : ∃ less, fuel = less + 1 :=
      ⟨fuel - 1, by simp [spread, stringText] at hfuel; omega⟩
    have hread := readString_append s rest
    have hstart : skipBlank (spread level (.string (some s)) ++ rest) =
        '"' :: (s.toList.flatMap stringChar ++ '"' :: rest) := by
      simp [spread, stringText, skipBlank, isBlank]
    simp only [readValue, hstart, hread]
    rfl
  | @array items _ ih =>
    intro level fuel rest hfuel hrest
    cases items with
    | nil =>
      obtain ⟨fuel, rfl⟩ : ∃ less, fuel = less + 1 := ⟨fuel - 1, by simp [spread] at hfuel; omega⟩
      rfl
    | cons item items =>
      simp only [spread, List.cons_append, List.append_assoc, List.length_cons,
        List.length_append] at hfuel ⊢
      obtain ⟨fuel, rfl⟩ : ∃ less, fuel = less + 1 := ⟨fuel - 1, by omega⟩
      apply readValue_array
      rw [readItems_newLine]
      exact readItems_spreadItems (ih item List.mem_cons_self)
        (fun other hother => ih other (List.mem_cons_of_mem _ hother)) level rest
        (by rw [List.length_append]; omega)
  | @object entries hkeys _ ih =>
    intro level fuel rest hfuel hrest
    cases entries with
    | nil =>
      obtain ⟨fuel, rfl⟩ : ∃ less, fuel = less + 1 := ⟨fuel - 1, by simp [spread] at hfuel; omega⟩
      rfl
    | cons entry entries =>
      obtain ⟨key, value⟩ := entry
      obtain ⟨key, rfl⟩ := Option.isSome_iff_exists.mp (hkeys _ List.mem_cons_self)
      have hvalue : ReadsBack value := ih _ List.mem_cons_self
      simp only [spread, Option.getD_some, List.cons_append, List.append_assoc, List.length_cons,
        List.length_append] at hfuel ⊢
      obtain ⟨fuel, rfl⟩ : ∃ less, fuel = less + 1 := ⟨fuel - 1, by omega⟩
      apply readValue_object
      rw [readEntries_newLine]
      exact readEntries_spreadEntries key hvalue
        (fun other hother => hkeys other (List.mem_cons_of_mem _ hother))
        (fun other hother => ih other (List.mem_cons_of_mem _ hother)) level rest
        (by rw [List.length_append]; omega)

/-- A legible tree is read back from its spread text. -/
theorem parse?_spreadString {json : Json} (h : Legible json) :
    parse? (spreadString json) = some json := by
  have hread := h.readsBack 0 (2 * (spread 0 json).length + 2) [] (by omega)
    (by simp [Numeral.EndsBefore])
  rw [List.append_nil] at hread
  simp only [parse?, spreadString, String.toList_ofList, hread]
  rfl

end MaterialGraph.Json
