import Mathlib.Data.List.Basic
import MaterialGraph.Shader.Phrase

/-!
# The words of shader text

A word is a longest run of letters, digits and underscores. The words of two texts one after the
other are the words of both, unless a word runs over the border. Variables have names of their own
form, and only these words are followed here: a text without the letter with which they begin names
none.
-/

namespace MaterialGraph

/-- Whether a character can stand in a word. -/
def isWordChar (c : Char) : Bool :=
  c.isAlphanum || c == '_'

/-- The words of a text in order. -/
def words (cs : List Char) : List (List Char) :=
  (cs.splitOnP fun c => !isWordChar c).filter fun word => !word.isEmpty

/-- Whether a word has the form of the name of a variable: the mark of variables and digits. -/
def isVariableName (word : List Char) : Bool :=
  word.take 3 == "var".toList && !(word.drop 3).isEmpty && (word.drop 3).all Char.isDigit

/-- The words of a text that have the form of the name of a variable, in order. -/
def variableWords (cs : List Char) : List (List Char) :=
  (words cs).filter isVariableName

/-- Whether a text begins with a character of a word. -/
def startsInWord (cs : List Char) : Bool :=
  cs.head?.any isWordChar

/-- Whether a text ends with a character of a word. -/
def endsInWord (cs : List Char) : Bool :=
  cs.getLast?.any isWordChar

/-- A character of no word separates the words before it from those after it. -/
theorem words_append_cons (xs ys : List Char) {c : Char} (h : isWordChar c = false) :
    words (xs ++ c :: ys) = words xs ++ words ys := by
  unfold words
  rw [List.splitOnP_append_cons xs ys (by simp [h]), List.filter_append]

/-- Texts have their words one after the other if no word runs over the border. -/
theorem words_append (xs ys : List Char) (h : endsInWord xs = false ∨ startsInWord ys = false) :
    words (xs ++ ys) = words xs ++ words ys := by
  have hnil : words [] = [] := rfl
  rcases h with hend | hstart
  · rcases List.eq_nil_or_concat xs with rfl | ⟨front, last, rfl⟩
    · rw [List.nil_append, hnil, List.nil_append]
    · have hlast : isWordChar last = false := by simpa [endsInWord] using hend
      rw [List.concat_eq_append, List.append_assoc, List.singleton_append,
        words_append_cons front ys hlast, words_append_cons front [] hlast, hnil, List.append_nil]
  · cases ys with
    | nil => rw [List.append_nil, hnil, List.append_nil]
    | cons c rest =>
      have hc : isWordChar c = false := by simpa [startsInWord] using hstart
      have hrest : words (c :: rest) = words rest := words_append_cons [] rest hc
      rw [words_append_cons xs rest hc, hrest]

/-- Texts name their variables one after the other if no word runs over the border. -/
theorem variableWords_append (xs ys : List Char)
    (h : endsInWord xs = false ∨ startsInWord ys = false) :
    variableWords (xs ++ ys) = variableWords xs ++ variableWords ys := by
  rw [variableWords, words_append xs ys h, List.filter_append]
  rfl

/-- A run of characters of words is a single word. -/
theorem words_of_forall {word : List Char} (hne : word ≠ [])
    (h : ∀ c ∈ word, isWordChar c = true) : words word = [word] := by
  unfold words
  rw [List.splitOnP_eq_singleton fun c hc => by simp [h c hc]]
  simp [hne]

/-- The parts of a split text together are the text without its separators. -/
theorem flatten_splitOnP (p : Char → Bool) (cs : List Char) :
    (cs.splitOnP p).flatten = cs.filter fun c => !p c := by
  induction cs with
  | nil => rfl
  | cons c rest ih =>
    rw [List.splitOnP_cons_eq_if_modifyHead, List.filter_cons]
    cases hc : p c with
    | true => simpa using ih
    | false =>
      cases hsplit : rest.splitOnP p with
      | nil => exact absurd hsplit (List.splitOnP_ne_nil p rest)
      | cons part parts =>
        rw [hsplit] at ih
        simpa using ih

/-- A text without the letter with which the names of variables begin names none. -/
theorem variableWords_of_not_mem {cs : List Char} (h : 'v' ∉ cs) : variableWords cs = [] := by
  unfold variableWords
  rw [List.filter_eq_nil_iff]
  intro word hword hname
  have hv : 'v' ∈ word := by
    simp only [isVariableName, Bool.and_eq_true, beq_iff_eq] at hname
    have hmem : 'v' ∈ word.take 3 := by rw [hname.1.1]; decide
    exact List.mem_of_mem_take hmem
  have hparts : 'v' ∈ (cs.splitOnP fun c => !isWordChar c).flatten :=
    List.mem_flatten_of_mem (List.mem_filter.mp hword).1 hv
  rw [flatten_splitOnP] at hparts
  exact h (List.mem_filter.mp hparts).1

namespace Phrase

/-- Every character of the name of a variable is one of words. -/
theorem isWordChar_of_mem_variableName {index : Nat} {c : Char} (h : c ∈ variableName index) :
    isWordChar c = true := by
  rcases List.mem_append.mp h with hmark | hdigit
  · have hall : "var".toList.all isWordChar = true := by decide
    exact List.all_eq_true.mp hall c hmark
  · have hc : c.isDigit = true := Nat.isDigit_of_mem_toDigits (by omega) (by omega) hdigit
    simp [isWordChar, Char.isAlphanum, hc]

/-- The name of a variable has the form of one. -/
theorem isVariableName_variableName (index : Nat) : isVariableName (variableName index) = true := by
  have htake : (variableName index).take 3 = "var".toList := rfl
  have hdrop : (variableName index).drop 3 = digitsOf index := rfl
  have hdigits : (digitsOf index).all Char.isDigit = true :=
    List.all_eq_true.mpr fun c hc => Nat.isDigit_of_mem_toDigits (by omega) (by omega) hc
  have hne : (digitsOf index).isEmpty = false := by simp [digitsOf]
  simp [isVariableName, htake, hdrop, hdigits, hne]

/-- The name of a variable names this variable. -/
theorem variableWords_variableName (index : Nat) :
    variableWords (variableName index) = [variableName index] := by
  have hword : words (variableName index) = [variableName index] := by
    apply words_of_forall
    · exact List.append_ne_nil_of_left_ne_nil (by decide) _
    · exact fun c hc => isWordChar_of_mem_variableName hc
  simp [variableWords, hword, isVariableName_variableName]

/-- Variables of different numbers have different names. -/
theorem variableName_injective : Function.Injective variableName := by
  intro i j h
  have hdigits : Nat.toDigits 10 i = Nat.toDigits 10 j := List.append_cancel_left h
  rw [← Nat.ofDigitChars_ten_toDigits (n := i), hdigits, Nat.ofDigitChars_ten_toDigits]

end Phrase

end MaterialGraph
