import Mathlib.Data.List.Chain
import MaterialGraph.Proofs.Words
import MaterialGraph.Text.Basic

/-!
# Statements that use what is declared

Statements are sound if the variables they use have been declared by earlier statements, if their
text names no variable on the side, and if no word runs over the border between two parts. The lines
of sound statements then declare consecutive variables, and every other name of a variable in a line
was declared by a line before it.
-/

namespace MaterialGraph

namespace Fragment

/-- Whether a fragment may begin with a character of a word. -/
def opens : Fragment → Bool
  | text s => startsInWord s.toList
  | .variable _ => true

/-- Whether a fragment may end with a character of a word. -/
def closes : Fragment → Bool
  | text s => endsInWord s.toList
  | .variable _ => true

/-- The number of the variable that a fragment is. -/
def index? : Fragment → Option Nat
  | text _ => none
  | .variable index => some index

/-- No word runs over the border between two fragments. -/
def Apart (f g : Fragment) : Prop :=
  f.closes = false ∨ g.opens = false

/-- A fragment that names no variable but itself, which is below a bound. -/
def Sound (bound : Nat) : Fragment → Prop
  | text s => s.toList ≠ [] ∧ variableWords s.toList = []
  | .variable index => index < bound

instance (f g : Fragment) : Decidable (f.Apart g) :=
  inferInstanceAs (Decidable (_ ∨ _))

instance (bound : Nat) (f : Fragment) : Decidable (f.Sound bound) :=
  match f with
  | text _ => inferInstanceAs (Decidable (_ ∧ _))
  | .variable _ => inferInstanceAs (Decidable (_ < _))

/-- A sound fragment is sound below any larger bound. -/
theorem Sound.mono {bound larger : Nat} {f : Fragment} (h : f.Sound bound) (hle : bound ≤ larger) :
    f.Sound larger := by
  cases f with
  | text s => exact h
  | «variable» index => exact Nat.lt_of_lt_of_le h hle

/-- The characters of a sound fragment name the variable that it is. -/
theorem Sound.variableWords_eq {bound : Nat} {f : Fragment} (h : f.Sound bound) :
    variableWords (Phrase.fragmentText f) = f.index?.toList.map Phrase.variableName := by
  cases f with
  | text s => exact h.2
  | «variable» index => exact Phrase.variableWords_variableName index

end Fragment

namespace Phrase

/-- A phrase that names no variables but its own, which are below a bound. -/
def Sound (bound : Nat) (p : Phrase) : Prop :=
  (∀ f ∈ p, f.Sound bound) ∧ p.IsChain Fragment.Apart

instance (bound : Nat) (p : Phrase) : Decidable (p.Sound bound) :=
  inferInstanceAs (Decidable (_ ∧ _))

/-- The variables of a phrase in order. -/
def indices (p : Phrase) : List Nat :=
  p.filterMap Fragment.index?

/-- A sound phrase is sound below any larger bound. -/
theorem Sound.mono {bound larger : Nat} {p : Phrase} (h : p.Sound bound) (hle : bound ≤ larger) :
    p.Sound larger :=
  ⟨fun f hf => (h.1 f hf).mono hle, h.2⟩

/-- The variables of a sound phrase are below the bound. -/
theorem Sound.lt_of_mem_indices {bound : Nat} {p : Phrase} (h : p.Sound bound) {index : Nat}
    (hindex : index ∈ p.indices) : index < bound := by
  obtain ⟨f, hf, hsome⟩ := List.mem_filterMap.mp hindex
  cases f with
  | text s => simp [Fragment.index?] at hsome
  | «variable» i =>
    obtain rfl := Option.some.inj hsome
    exact h.1 _ hf

/-- Sound phrases one after the other are sound if no word runs over the border. -/
theorem Sound.append {bound : Nat} {p q : Phrase} (hp : p.Sound bound) (hq : q.Sound bound)
    (hborder : ∀ f ∈ p.getLast?, ∀ g ∈ q.head?, f.Apart g) : Sound bound (p ++ q) := by
  refine ⟨?_, hp.2.append hq.2 hborder⟩
  intro f hf
  rcases List.mem_append.mp hf with hf | hf
  · exact hp.1 f hf
  · exact hq.1 f hf

/-- The characters of a phrase are those of its fragments one after the other. -/
theorem render_cons (f : Fragment) (rest : Phrase) :
    render (f :: rest) = fragmentText f ++ render rest :=
  List.flatMap_cons

/-- What follows the first fragment of a sound phrase is sound. -/
theorem Sound.tail {bound : Nat} {f : Fragment} {rest : Phrase} (h : Sound bound (f :: rest)) :
    Sound bound rest :=
  ⟨fun g hg => h.1 g (List.mem_cons_of_mem _ hg), h.2.tail⟩

/-- No word runs over the border between the characters of the first fragment of a sound phrase and
those of the others. -/
theorem Sound.border {bound : Nat} {f : Fragment} {rest : Phrase} (h : Sound bound (f :: rest)) :
    endsInWord (fragmentText f) = false ∨ startsInWord (render rest) = false := by
  cases rest with
  | nil => exact Or.inr rfl
  | cons g others =>
    rcases (List.isChain_cons_cons.mp h.2).1 with hf | hg
    · cases f with
      | text s => exact Or.inl hf
      | «variable» index => simp [Fragment.closes] at hf
    · cases g with
      | «variable» index => simp [Fragment.opens] at hg
      | text s =>
        obtain ⟨c, cs, hs⟩ := List.exists_cons_of_ne_nil (h.tail.1 _ List.mem_cons_self).1
        rw [Fragment.opens, hs] at hg
        refine Or.inr ?_
        rw [render_cons, fragmentText, hs]
        exact hg

/-- The names of variables in the characters of a sound phrase are those of its variables. -/
theorem Sound.variableWords_render {bound : Nat} {p : Phrase} (h : p.Sound bound) :
    variableWords p.render = p.indices.map variableName := by
  induction p with
  | nil => rfl
  | cons f rest ih =>
    rw [render_cons, variableWords_append _ _ h.border, ih h.tail,
      (h.1 f List.mem_cons_self).variableWords_eq]
    cases f with
    | text s => rfl
    | «variable» index => rfl

/-- Whether the first character of a phrase shows that it is no declaration. -/
def startsPlain : Phrase → Bool
  | .text s :: _ => s.toList.head?.any fun c => c != 'l' && c != 'v'
  | _ => false

end Phrase

/-- The variable that a line declares: the name after the word that declares. -/
def declaredName? (line : List Char) : Option (List Char) :=
  ((dropStart? "let ".toList line <|> dropStart? "var ".toList line).map
    fun rest => rest.takeWhile isWordChar).filter isVariableName

/-- The variables that lines declare, in order. -/
def declaredNames (lines : List String) : List (List Char) :=
  lines.filterMap fun line => declaredName? line.toList

/-- The names of variables in a line other than the one that it declares. -/
def usedNames (line : List Char) : List (List Char) :=
  if (declaredName? line).isSome then (variableWords line).tail else variableWords line

/-- A text that does not begin with a character of a word begins with no word. -/
theorem takeWhile_of_not_startsInWord {cs : List Char} (h : startsInWord cs = false) :
    cs.takeWhile isWordChar = [] := by
  cases cs with
  | nil => rfl
  | cons c rest =>
    have hc : isWordChar c = false := by simpa [startsInWord] using h
    rw [List.takeWhile_cons, hc]
    rfl

namespace Statement

/-- A statement that uses only variables below a bound. -/
def Sound (bound : Nat) : Statement → Prop
  | declare _ type value =>
    (type.all fun t => variableWords t.toList = []) = true ∧ value.Sound bound
  | line text => text.Sound bound ∧ text.startsPlain = true

instance (bound : Nat) (s : Statement) : Decidable (s.Sound bound) :=
  match s with
  | declare .. => inferInstanceAs (Decidable (_ ∧ _))
  | line _ => inferInstanceAs (Decidable (_ ∧ _))

/-- Statements of which each uses only variables below a bound that grows with every declaration. -/
def SoundFrom (bound : Nat) : List Statement → Prop
  | [] => True
  | s :: rest => s.Sound bound ∧ SoundFrom (if s.declares then bound + 1 else bound) rest

instance decidableSoundFrom : (bound : Nat) → (statements : List Statement) →
    Decidable (SoundFrom bound statements)
  | _, [] => inferInstanceAs (Decidable True)
  | bound, s :: rest =>
    have : Decidable (SoundFrom (if s.declares then bound + 1 else bound) rest) :=
      decidableSoundFrom _ rest
    inferInstanceAs (Decidable (_ ∧ _))

/-- Changes that keep what declares keep the number of variables. -/
theorem declared_map {change : Statement → Statement}
    (h : ∀ s, (change s).declares = s.declares) (statements : List Statement) :
    declared (statements.map change) = declared statements := by
  rw [declared, List.countP_map]
  exact List.countP_congr fun s _ => by rw [Function.comp_apply, h s]

/-- A sound statement is sound below any larger bound. -/
theorem Sound.mono {bound larger : Nat} {s : Statement} (h : s.Sound bound) (hle : bound ≤ larger) :
    s.Sound larger := by
  cases s with
  | declare storage type value => exact ⟨h.1, h.2.mono hle⟩
  | line text => exact ⟨h.1.mono hle, h.2⟩

/-- Statements that use only variables below the first bound are sound one after the other. -/
theorem soundFrom_of_forall {bound : Nat} {statements : List Statement}
    (h : ∀ s ∈ statements, s.Sound bound) : SoundFrom bound statements := by
  suffices hall : ∀ larger, bound ≤ larger → SoundFrom larger statements from hall bound le_rfl
  intro larger hle
  induction statements generalizing larger with
  | nil => trivial
  | cons s rest ih =>
    refine ⟨(h s List.mem_cons_self).mono hle, ?_⟩
    apply ih fun t ht => h t (List.mem_cons_of_mem _ ht)
    split
    · omega
    · exact hle

/-- The second of two sequences is sound from the number after the variables of the first. -/
theorem soundFrom_append {bound : Nat} {s t : List Statement} :
    SoundFrom bound (s ++ t) ↔ SoundFrom bound s ∧ SoundFrom (bound + declared s) t := by
  induction s generalizing bound with
  | nil => simp [SoundFrom, declared]
  | cons first rest ih =>
    simp only [List.cons_append, SoundFrom, ih, and_assoc, declared, List.countP_cons]
    cases first.declares with
    | true => simp [Nat.add_comm, Nat.add_left_comm]
    | false => simp

/-- The text between the name of a declared variable and its value. -/
def typeText (type : Option String) : List Char :=
  type.elim [] (fun t => ':' :: ' ' :: t.toList) ++ " = ".toList

/-- The parts of the text of a declaration. -/
theorem render_declare (index : Nat) (storage : Storage) (type : Option String) (value : Phrase) :
    (declare storage type value).render index =
      storage.keyword.toList ++ ' ' :: (Phrase.variableName index ++
        (typeText type ++ (value.render ++ [';']))) := by
  simp [render, typeText]

/-- The text before a value is set off from the name before it and from the value. -/
theorem typeText_border (type : Option String) (rest : List Char) :
    startsInWord (typeText type ++ rest) = false ∧ endsInWord (typeText type) = false := by
  have hend : endsInWord (typeText type) = endsInWord " = ".toList := by
    rw [endsInWord, typeText, List.getLast?_append]
    rfl
  refine ⟨?_, hend.trans (by decide)⟩
  cases type with
  | none => rfl
  | some t => rfl

/-- The text before a value names no variable if the type names none. -/
theorem variableWords_typeText {type : Option String}
    (h : (type.all fun t => variableWords t.toList = []) = true) :
    variableWords (typeText type) = [] := by
  cases type with
  | none => decide
  | some t =>
    have ht : variableWords t.toList = [] := by simpa using h
    have hcolon : variableWords [':', ' '] = [] := by decide
    have hequals : variableWords " = ".toList = [] := by decide
    change variableWords ([':', ' '] ++ t.toList ++ " = ".toList) = []
    rw [variableWords_append _ _ (Or.inr (by decide)),
      variableWords_append _ _ (Or.inl (by decide)), ht, hcolon, hequals]
    rfl

/-- A declaration names the variable that it declares, and then those of its value. -/
theorem variableWords_declare {bound : Nat} {storage : Storage} {type : Option String}
    {value : Phrase} (h : (declare storage type value).Sound bound) (index : Nat) :
    variableWords ((declare storage type value).render index) =
      Phrase.variableName index :: value.indices.map Phrase.variableName := by
  have hkeyword : variableWords storage.keyword.toList = [] := by cases storage <;> decide
  have hblank (rest : List Char) : variableWords (' ' :: rest) = variableWords rest := by
    have hsplit := variableWords_append [' '] rest (Or.inl (by decide))
    have hnone : variableWords [' '] = [] := by decide
    rwa [hnone, List.nil_append] at hsplit
  have hend : variableWords [';'] = [] := by decide
  obtain ⟨hstart, hclose⟩ := typeText_border type (value.render ++ [';'])
  rw [render_declare, variableWords_append _ _ (Or.inr rfl), hkeyword, hblank, List.nil_append,
    variableWords_append _ _ (Or.inr hstart), variableWords_append _ _ (Or.inl hclose),
    variableWords_append _ _ (Or.inr (by decide)), Phrase.variableWords_variableName,
    variableWords_typeText h.1, h.2.variableWords_render, hend]
  simp

/-- A declaration declares the variable of the next number. -/
theorem declaredName?_declare (index : Nat) (storage : Storage) (type : Option String)
    (value : Phrase) :
    declaredName? ((declare storage type value).render index) =
      some (Phrase.variableName index) := by
  have hname : (Phrase.variableName index ++ (typeText type ++ (value.render ++ [';']))).takeWhile
      isWordChar = Phrase.variableName index := by
    rw [List.takeWhile_append_of_pos fun c hc => Phrase.isWordChar_of_mem_variableName hc,
      takeWhile_of_not_startsInWord (typeText_border type _).1, List.append_nil]
  have hdrop : (dropStart? "let ".toList ((declare storage type value).render index) <|>
      dropStart? "var ".toList ((declare storage type value).render index)) =
        some (Phrase.variableName index ++ (typeText type ++ (value.render ++ [';']))) := by
    rw [render_declare]
    cases storage with
    | fixed => rfl
    | assignable => rfl
  rw [declaredName?, hdrop, Option.map_some, hname, Option.filter_some,
    Phrase.isVariableName_variableName, if_pos rfl]

/-- A line that starts plainly declares nothing. -/
theorem declaredName?_line (index : Nat) {text : Phrase} (h : text.startsPlain = true) :
    declaredName? ((line text).render index) = none := by
  unfold Phrase.startsPlain at h
  split at h
  · next s rest =>
    rw [declaredName?, render, Phrase.render_cons, Phrase.fragmentText]
    cases hs : s.toList with
    | nil => simp [hs] at h
    | cons c cs =>
      have hc : c ≠ 'l' ∧ c ≠ 'v' := by simpa [hs] using h
      have hlet : dropStart? "let ".toList (c :: cs ++ Phrase.render rest) = none :=
        if_neg (Ne.symm hc.1)
      have hvar : dropStart? "var ".toList (c :: cs ++ Phrase.render rest) = none :=
        if_neg (Ne.symm hc.2)
      rw [hlet, hvar]
      rfl
  · contradiction

/-- The names that a sound statement uses are those of variables below the bound. -/
theorem exists_of_mem_usedNames {bound : Nat} {s : Statement} (h : s.Sound bound) {index : Nat}
    {name : List Char} (hname : name ∈ usedNames (s.render index)) :
    ∃ i < bound, name = Phrase.variableName i := by
  have hindices : ∀ p : Phrase, p.Sound bound → name ∈ p.indices.map Phrase.variableName →
      ∃ i < bound, name = Phrase.variableName i := by
    intro p hp hmem
    obtain ⟨i, hi, rfl⟩ := List.mem_map.mp hmem
    exact ⟨i, hp.lt_of_mem_indices hi, rfl⟩
  cases s with
  | declare storage type value =>
    rw [usedNames, declaredName?_declare, variableWords_declare h] at hname
    exact hindices value h.2 hname
  | line text =>
    rw [usedNames, declaredName?_line index h.2, render, h.1.variableWords_render] at hname
    exact hindices text h.1 hname

example :
    declaredName? "let var2: f32 = pow(var0, var1);".toList = some "var2".toList ∧
      usedNames "let var2: f32 = pow(var0, var1);".toList = ["var0".toList, "var1".toList] := by
  decide

/-- A declaration adds the variable that it declares. -/
theorem declaredNames_declare (index : Nat) (storage : Storage) (type : Option String)
    (value : Phrase) (rest : List String) :
    declaredNames (String.ofList ((declare storage type value).render index) :: rest) =
      Phrase.variableName index :: declaredNames rest := by
  apply List.filterMap_cons_some
  rw [String.toList_ofList, declaredName?_declare]

/-- A line that starts plainly adds no variable. -/
theorem declaredNames_line (index : Nat) {text : Phrase} (h : text.startsPlain = true)
    (rest : List String) :
    declaredNames (String.ofList ((line text).render index) :: rest) = declaredNames rest := by
  apply List.filterMap_cons_none
  rw [String.toList_ofList, declaredName?_line index h]

/-- The lines of sound statements declare consecutive variables. -/
theorem declaredNames_renderAll {bound : Nat} {statements : List Statement}
    (h : SoundFrom bound statements) :
    declaredNames (renderAll bound statements) =
      (List.range' bound (declared statements)).map Phrase.variableName := by
  induction statements generalizing bound with
  | nil => rfl
  | cons s rest ih =>
    obtain ⟨hs, hrest⟩ := h
    have htail := ih hrest
    rw [renderAll]
    cases s with
    | declare storage type value =>
      have hcount : declared (declare storage type value :: rest) = declared rest + 1 :=
        List.countP_cons_of_pos rfl
      rw [declaredNames_declare, htail, hcount, List.range'_succ]
      rfl
    | line text =>
      have hcount : declared (line text :: rest) = declared rest :=
        List.countP_cons_of_neg (by simp [declares])
      rw [declaredNames_line bound hs.2, htail, hcount]
      rfl

/-- Every name that a line of sound statements uses is below the first bound or was declared by a
line before it. -/
theorem mem_declaredNames_of_used {bound : Nat} {statements : List Statement}
    (h : SoundFrom bound statements) {before after : List String} {line : String}
    (hsplit : renderAll bound statements = before ++ line :: after) {name : List Char}
    (hname : name ∈ usedNames line.toList) :
    (∃ i < bound, name = Phrase.variableName i) ∨ name ∈ declaredNames before := by
  induction statements generalizing bound before with
  | nil => simp [renderAll] at hsplit
  | cons s rest ih =>
    obtain ⟨hs, hrest⟩ := h
    rw [renderAll] at hsplit
    cases before with
    | nil =>
      obtain ⟨rfl, -⟩ := List.cons.inj hsplit
      rw [String.toList_ofList] at hname
      exact Or.inl (exists_of_mem_usedNames hs hname)
    | cons first others =>
      obtain ⟨rfl, htail⟩ := List.cons.inj hsplit
      have hnext := ih hrest htail
      cases s with
      | line text => rwa [declaredNames_line bound hs.2]
      | declare storage type value =>
        rw [declaredNames_declare, List.mem_cons]
        -- A name below the next bound is below this one, or is the one declared here.
        rcases hnext with ⟨i, hi, rfl⟩ | hmem
        · rcases Nat.lt_succ_iff_lt_or_eq.mp hi with hlt | rfl
          · exact Or.inl ⟨i, hlt, rfl⟩
          · exact Or.inr (Or.inl rfl)
        · exact Or.inr (Or.inr hmem)

end Statement

end MaterialGraph
