import MaterialGraph.Proofs.DeclaredUse

/-!
# Renaming variables

In a text, renaming replaces every word that has the form of the name of a variable, and leaves all
else as it is. In a phrase, it replaces the numbers of the variables. The two agree on the text of a
phrase that names no variable on the side, so renamed statements have renamed lines as long as the
variables that they declare are renamed to consecutive ones.
-/

namespace MaterialGraph

/-! ### Renaming in texts -/

/-- A word, with another variable if it names one. -/
def renameWord (σ : Nat → Nat) (word : List Char) : List Char :=
  if isVariableName word then Phrase.variableName (σ (Nat.ofDigitChars 10 (word.drop 3) 0))
  else word

/-- A text in which other variables are named, after the start of a word that runs into it. -/
def renameFrom (σ : Nat → Nat) : List Char → List Char → List Char
  | word, [] => renameWord σ word
  | word, c :: rest =>
    if isWordChar c then renameFrom σ (word ++ [c]) rest
    else renameWord σ word ++ c :: renameFrom σ [] rest

/-- A text in which other variables are named. -/
def renameVariables (σ : Nat → Nat) (cs : List Char) : List Char :=
  renameFrom σ [] cs

/-- A line in which other variables are named. -/
def renameLine (σ : Nat → Nat) (line : String) : String :=
  String.ofList (renameVariables σ line.toList)

example :
    renameVariables (fun i => 11 - i) "let var2: f32 = max(var10, variance);".toList =
      "let var9: f32 = max(var1, variance);".toList := by
  decide

section Text

variable (σ : Nat → Nat)

/-- A character of no word separates what is renamed before it from what is renamed after it. -/
theorem renameFrom_append_cons (word xs ys : List Char) {c : Char} (h : isWordChar c = false) :
    renameFrom σ word (xs ++ c :: ys) = renameFrom σ word xs ++ c :: renameVariables σ ys := by
  induction xs generalizing word with
  | nil => simp [renameFrom, h, renameVariables]
  | cons x rest ih =>
    rw [List.cons_append, renameFrom, renameFrom]
    cases hx : isWordChar x with
    | true => simpa using ih (word ++ [x])
    | false => simpa using ih []

/-- A text is renamed in parts around a character of no word. -/
theorem renameVariables_append_cons (xs ys : List Char) {c : Char} (h : isWordChar c = false) :
    renameVariables σ (xs ++ c :: ys) = renameVariables σ xs ++ c :: renameVariables σ ys :=
  renameFrom_append_cons σ [] xs ys h

/-- Texts are renamed one after the other if no word runs over the border. -/
theorem renameVariables_append (xs ys : List Char)
    (h : endsInWord xs = false ∨ startsInWord ys = false) :
    renameVariables σ (xs ++ ys) = renameVariables σ xs ++ renameVariables σ ys := by
  have hnil : renameVariables σ [] = [] := rfl
  rcases h with hend | hstart
  · rcases List.eq_nil_or_concat xs with rfl | ⟨front, last, rfl⟩
    · rw [List.nil_append, hnil, List.nil_append]
    · have hlast : isWordChar last = false := by simpa [endsInWord] using hend
      rw [List.concat_eq_append, List.append_assoc, List.singleton_append,
        renameVariables_append_cons σ front ys hlast,
        renameVariables_append_cons σ front [] hlast, hnil, List.append_assoc,
        List.singleton_append]
  · cases ys with
    | nil => rw [List.append_nil, hnil, List.append_nil]
    | cons c rest =>
      have hc : isWordChar c = false := by simpa [startsInWord] using hstart
      have hrest : renameVariables σ (c :: rest) = c :: renameVariables σ rest :=
        renameVariables_append_cons σ [] rest hc
      rw [renameVariables_append_cons σ xs rest hc, hrest]

/-- A text that names no variable stays as it is. -/
theorem renameFrom_of_variableWords_eq_nil {word cs : List Char}
    (hword : ∀ c ∈ word, isWordChar c = true) (h : variableWords (word ++ cs) = []) :
    renameFrom σ word cs = word ++ cs := by
  have hkept : ∀ w : List Char, (∀ c ∈ w, isWordChar c = true) → variableWords w = [] →
      renameWord σ w = w := by
    intro w hw hnone
    rcases List.eq_nil_or_concat w with rfl | ⟨front, last, rfl⟩
    · rfl
    · rw [variableWords, words_of_forall (by simp) hw] at hnone
      rw [renameWord, if_neg (by simpa using hnone)]
  induction cs generalizing word with
  | nil =>
    rw [List.append_nil] at h ⊢
    exact hkept word hword h
  | cons c rest ih =>
    rw [renameFrom]
    cases hc : isWordChar c with
    | true =>
      have hlonger : ∀ d ∈ word ++ [c], isWordChar d = true := by
        simpa [or_imp, forall_and, hc] using hword
      have hnone : variableWords (word ++ [c] ++ rest) = [] := by simpa using h
      rw [if_pos rfl, ih hlonger hnone]
      simp
    | false =>
      rw [variableWords, words_append_cons word rest hc, List.filter_append,
        List.append_eq_nil_iff] at h
      have hrest : renameFrom σ [] rest = [] ++ rest := ih (by simp) h.2
      rw [if_neg (by simp), hkept word hword h.1, hrest]
      rfl

/-- A text that names no variable is not renamed. -/
theorem renameVariables_of_variableWords_eq_nil {cs : List Char} (h : variableWords cs = []) :
    renameVariables σ cs = cs :=
  renameFrom_of_variableWords_eq_nil σ (by simp) h

/-- A run of characters of words is renamed as a single word. -/
theorem renameFrom_of_forall {word cs : List Char} (h : ∀ c ∈ cs, isWordChar c = true) :
    renameFrom σ word cs = renameWord σ (word ++ cs) := by
  induction cs generalizing word with
  | nil => rw [renameFrom, List.append_nil]
  | cons c rest ih =>
    rw [renameFrom, if_pos (h c List.mem_cons_self), ih fun d hd => h d (List.mem_cons_of_mem _ hd)]
    simp

/-- The name of a variable is renamed to that of another. -/
theorem renameVariables_variableName (index : Nat) :
    renameVariables σ (Phrase.variableName index) = Phrase.variableName (σ index) := by
  have hdigits : (Phrase.variableName index).drop 3 = Nat.toDigits 10 index := rfl
  rw [renameVariables, renameFrom_of_forall σ fun c hc => Phrase.isWordChar_of_mem_variableName hc,
    List.nil_append, renameWord, if_pos (Phrase.isVariableName_variableName index), hdigits,
    Nat.ofDigitChars_ten_toDigits]

end Text

/-! ### Renaming in phrases and statements -/

/-- A fragment with another variable. -/
def Fragment.rename (σ : Nat → Nat) : Fragment → Fragment
  | text s => text s
  | .variable index => .variable (σ index)

namespace Phrase

/-- A phrase with other variables. -/
def rename (σ : Nat → Nat) (p : Phrase) : Phrase :=
  p.map (Fragment.rename σ)

/-- The text of a sound phrase with other variables is the renamed text. -/
theorem Sound.render_rename {bound : Nat} {p : Phrase} (h : p.Sound bound) (σ : Nat → Nat) :
    (p.rename σ).render = renameVariables σ p.render := by
  induction p with
  | nil => rfl
  | cons f rest ih =>
    have hfragment : fragmentText (f.rename σ) = renameVariables σ (fragmentText f) := by
      cases f with
      | text s => exact (renameVariables_of_variableWords_eq_nil σ (h.1 _ List.mem_cons_self).2).symm
      | «variable» index => exact (renameVariables_variableName σ index).symm
    rw [render_cons, renameVariables_append σ _ _ h.border, ← hfragment, ← ih h.tail]
    rfl

end Phrase

namespace Statement

/-- A statement with other variables. -/
def rename (σ : Nat → Nat) : Statement → Statement
  | declare storage type value => declare storage type (value.rename σ)
  | line text => line (text.rename σ)

/-- The text of a sound statement with other variables is the renamed text. -/
theorem Sound.render_rename {bound : Nat} {s : Statement} (h : s.Sound bound) (σ : Nat → Nat)
    (index : Nat) : (s.rename σ).render (σ index) = renameVariables σ (s.render index) := by
  cases s with
  | line text => exact h.1.render_rename σ
  | declare storage type value =>
    have hkeyword : renameVariables σ storage.keyword.toList = storage.keyword.toList := by
      apply renameVariables_of_variableWords_eq_nil
      cases storage <;> decide
    have hblank (rest : List Char) : renameVariables σ (' ' :: rest) = ' ' :: renameVariables σ rest :=
      renameFrom_append_cons σ [] [] rest (by decide)
    have hend : renameVariables σ [';'] = [';'] := rfl
    obtain ⟨hstart, hclose⟩ := typeText_border type (value.render ++ [';'])
    rw [rename, render_declare, render_declare, renameVariables_append σ _ _ (Or.inr rfl), hkeyword,
      hblank, renameVariables_append σ _ _ (Or.inr hstart),
      renameVariables_append σ _ _ (Or.inl hclose),
      renameVariables_append σ _ _ (Or.inr (by decide)), renameVariables_variableName,
      renameVariables_of_variableWords_eq_nil σ (variableWords_typeText h.1),
      h.2.render_rename σ, hend]

/-- Sound statements with other variables have renamed lines, if the variables that they declare are
renamed to consecutive ones. -/
theorem renderAll_rename {σ : Nat → Nat} {start target : Nat} {statements : List Statement}
    (h : SoundFrom start statements)
    (hσ : ∀ i < declared statements, σ (start + i) = target + i) :
    renderAll target (statements.map (rename σ)) =
      (renderAll start statements).map (renameLine σ) := by
  induction statements generalizing start target with
  | nil => rfl
  | cons s rest ih =>
    obtain ⟨hs, hrest⟩ := h
    rw [List.map_cons, renderAll, renderAll, List.map_cons, renameLine, String.toList_ofList]
    cases s with
    | line text =>
      have hcount : declared (line text :: rest) = declared rest :=
        List.countP_cons_of_neg (by simp [declares])
      rw [hcount] at hσ
      exact congrArg₂ _ (congrArg String.ofList (hs.render_rename σ start)) (ih hrest hσ)
    | declare storage type value =>
      have hcount : declared (declare storage type value :: rest) = declared rest + 1 :=
        List.countP_cons_of_pos rfl
      rw [hcount] at hσ
      have hfirst : σ start = target := hσ 0 (Nat.zero_lt_succ _)
      have hothers : ∀ i < declared rest, σ (start + 1 + i) = target + 1 + i := by
        intro i hi
        rw [Nat.add_right_comm, Nat.add_right_comm target]
        exact hσ (i + 1) (Nat.succ_lt_succ hi)
      rw [← hs.render_rename σ start, hfirst]
      exact congrArg _ (ih hrest hothers)

end Statement

end MaterialGraph
