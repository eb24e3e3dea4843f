import MaterialGraph.Proofs.DeclaredUse
import MaterialGraph.Proofs.Digits
import MaterialGraph.Shader.Block

/-!
# Literals name no variables

The text of a number has digits and signs only, so a literal in shader text names no variable,
whatever its value. The same holds of the names of types and of the literals that stand for inputs
and outputs without a value.
-/

namespace MaterialGraph

/-- The characters of numbers with a fixed count of decimals: digits, signs and letters of what is
not finite. -/
def IsNumeralChar (c : Char) : Prop :=
  c.isDigit = true ∨ c ∈ "-.NaNinf".toList

instance : DecidablePred IsNumeralChar :=
  fun c => inferInstanceAs (Decidable (c.isDigit = true ∨ c ∈ "-.NaNinf".toList))

/-- The text of a number has only these characters. -/
theorem isNumeralChar_of_mem_fixed {c : Char} {places : Nat} {x : Single}
    (h : c ∈ x.fixed places) : IsNumeralChar c := by
  have hsign : (signText x.negative).Sublist "-.NaNinf".toList := by
    cases x.negative with
    | true => decide
    | false => decide
  have hnan : "NaN".toList.Sublist "-.NaNinf".toList := by decide
  have hinf : "inf".toList.Sublist "-.NaNinf".toList := by decide
  unfold Single.fixed at h
  split at h
  · exact Or.inr (hnan.subset h)
  · split at h
    · simp only [fixedText, List.mem_append, List.mem_cons, or_assoc] at h
      rcases h with hminus | hwhole | rfl | hzero | hfraction
      · exact Or.inr (hsign.subset hminus)
      · exact Or.inl (isDigit_of_mem_digitsOf hwhole)
      · decide
      · exact Or.inl (isDigit_of_mem_zeros hzero)
      · exact Or.inl (isDigit_of_mem_digitsOf hfraction)
    · rcases List.mem_append.mp h with hminus | hletter
      · exact Or.inr (hsign.subset hminus)
      · exact Or.inr (hinf.subset hletter)

/-- The text of a number is not empty. -/
theorem fixed_ne_nil (places : Nat) (x : Single) : x.fixed places ≠ [] := by
  unfold Single.fixed
  split
  · decide
  · split
    · simp [fixedText]
    · simp

/-- Texts with a separator between them have no letter that neither they nor the separator have. -/
theorem not_mem_intercalate {c : Char} {separator : String} (hseparator : c ∉ separator.toList)
    {parts : List String} (h : ∀ part ∈ parts, c ∉ part.toList) :
    c ∉ (separator.intercalate parts).toList := by
  induction parts with
  | nil => simp
  | cons part rest ih =>
    have hrest := ih fun other hother => h other (List.mem_cons_of_mem _ hother)
    have hpart := h part List.mem_cons_self
    cases rest with
    | nil => simpa using hpart
    | cons next others =>
      simp only [String.intercalate_cons_cons, String.toList_append, List.mem_append, not_or]
      exact ⟨⟨hpart, hseparator⟩, hrest⟩

/-- The name of a type in shader text names no variable. -/
theorem PortType.variableWords_shaderType (type : PortType) :
    variableWords type.shaderType.toList = [] := by
  cases type <;> decide

/-- The name of a type is a text that names no variable. -/
theorem PortType.sound_shaderType (bound : Nat) (type : PortType) :
    Fragment.Sound bound (.text type.shaderType) :=
  ⟨by cases type <;> decide, type.variableWords_shaderType⟩

namespace PortValue

/-- The components of a value with commas between them have only the characters of numbers and of
the separator. -/
theorem not_mem_components {c : Char} (hc : ¬ IsNumeralChar c) (hseparator : c ∉ ", ".toList)
    (xs : List Single) : c ∉ (", ".intercalate (xs.map componentText)).toList := by
  apply not_mem_intercalate hseparator
  intro part hpart hmem
  obtain ⟨x, -, rfl⟩ := List.mem_map.mp hpart
  rw [componentText, String.toList_ofList] at hmem
  exact hc (isNumeralChar_of_mem_fixed hmem)

/-- A construction of a type names no variable. -/
theorem variableWords_construction (type : PortType) (xs : List Single) :
    variableWords
      (type.shaderType ++ "(" ++ ", ".intercalate (xs.map componentText) ++ ")").toList = [] := by
  have hopen : variableWords "(".toList = [] := by decide
  have hrest : variableWords ((", ".intercalate (xs.map componentText)).toList ++ ")".toList) =
      [] := by
    apply variableWords_of_not_mem
    rw [List.mem_append, not_or]
    exact ⟨not_mem_components (by decide) (by decide) xs, by decide⟩
  simp only [String.toList_append, List.append_assoc]
  rw [variableWords_append _ _ (Or.inr rfl), variableWords_append _ _ (Or.inl (by decide)), hopen,
    hrest, type.variableWords_shaderType]
  rfl

/-- The literal of a value is a text that names no variable. -/
theorem sound_literal (bound : Nat) (v : PortValue) : Fragment.Sound bound (.text v.literal) := by
  cases v with
  | float x =>
    have htext : (literal (float x)).toList = x.fixed 4 := String.toList_ofList
    have hmem : 'v' ∉ x.fixed 4 :=
      fun h => absurd (isNumeralChar_of_mem_fixed h) (by decide)
    exact ⟨htext ▸ fixed_ne_nil 4 x, htext ▸ variableWords_of_not_mem hmem⟩
  | vec2 | vec3 | vec4 | color =>
    exact ⟨by simp [literal], variableWords_construction _ _⟩

end PortValue

/-- The literal that stands for an input that nothing feeds names no variable. -/
theorem Port.sound_defaultLiteral (bound : Nat) (port : Port) :
    Fragment.Sound bound (.text port.defaultLiteral) := by
  unfold Port.defaultLiteral
  cases port.default with
  | some v => exact v.sound_literal bound
  | none => cases port.type <;> exact ⟨by decide, by decide⟩

/-- The literal that stands for an output without a rule names no variable. -/
theorem PortType.sound_placeholder (bound : Nat) (type : PortType) :
    Fragment.Sound bound (.text type.placeholder) := by
  cases type <;> exact ⟨by decide, by decide⟩

end MaterialGraph
