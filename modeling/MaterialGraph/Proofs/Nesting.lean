import Mathlib.Data.List.Basic
import Mathlib.Order.Defs.LinearOrder

/-!
# Brackets in shader text

Reading a text from left to right leaves brackets open, which have to be closed in reverse order. A
text is balanced if it never closes a bracket that is not the last open one and leaves none open.
Round brackets also group: what stands inside them does not take part in what is around them. A text
is enclosed if it is balanced and has spaces and commas only inside round brackets. Such texts can
be put one after the other with spaces or commas between them, and splitting at the separators
outside brackets gives them back.
-/

namespace MaterialGraph

/-! ### Balanced texts -/

/-- The characters that open and close brackets. -/
def brackets : List Char :=
  "()\x7b\x7d".toList

/-- The brackets that are awaited after a character, the innermost first. -/
def awaitedAfterChar : List Char → Char → Option (List Char)
  | awaited, '(' => some (')' :: awaited)
  | awaited, '\x7b' => some ('\x7d' :: awaited)
  | ')' :: awaited, ')' => some awaited
  | '\x7d' :: awaited, '\x7d' => some awaited
  | _, ')' => none
  | _, '\x7d' => none
  | awaited, _ => some awaited

/-- The brackets that are awaited after a text. -/
def awaitedAfter (awaited cs : List Char) : Option (List Char) :=
  cs.foldlM awaitedAfterChar awaited

/-- All brackets of a text are closed in it in reverse order, and no others. -/
def Balanced (cs : List Char) : Prop :=
  awaitedAfter [] cs = some []

instance (cs : List Char) : Decidable (Balanced cs) :=
  inferInstanceAs (Decidable (awaitedAfter [] cs = some []))

/-- Two texts are read one after the other. -/
theorem awaitedAfter_append (awaited xs ys : List Char) :
    awaitedAfter awaited (xs ++ ys) =
      (awaitedAfter awaited xs).bind fun next => awaitedAfter next ys :=
  List.foldlM_append

/-- Other characters change nothing. -/
theorem awaitedAfterChar_of_not_mem {c : Char} (h : c ∉ brackets)
    (awaited : List Char) : awaitedAfterChar awaited c = some awaited := by
  fun_cases awaitedAfterChar awaited c with
  | case1 | case2 | case3 | case4 | case5 | case6 => exact absurd (by decide) h
  | case7 => rfl

/-- What reading a character can do: open a bracket, close the innermost one, or nothing. -/
theorem awaitedAfterChar_cases {awaited next : List Char} {c : Char}
    (h : awaitedAfterChar awaited c = some next) :
    c = '(' ∧ next = ')' :: awaited ∨ c = '\x7b' ∧ next = '\x7d' :: awaited ∨
      (c = ')' ∨ c = '\x7d') ∧ awaited = c :: next ∨
      c ∉ brackets ∧ next = awaited := by
  revert h
  fun_cases awaitedAfterChar awaited c with
  | case1 | case2 | case3 | case4 => simp [brackets, eq_comm]
  | case5 | case6 => simp
  | case7 => simp_all [brackets]

/-- What is awaited from further out does not matter while a character is read. -/
theorem awaitedAfterChar_append {awaited next : List Char} {c : Char} (outer : List Char)
    (h : awaitedAfterChar awaited c = some next) :
    awaitedAfterChar (awaited ++ outer) c = some (next ++ outer) := by
  rcases awaitedAfterChar_cases h with ⟨rfl, rfl⟩ | ⟨rfl, rfl⟩ | ⟨rfl | rfl, rfl⟩ | ⟨hc, rfl⟩
  · rfl
  · rfl
  · rfl
  · rfl
  · exact awaitedAfterChar_of_not_mem hc _

/-- Nor does it while a text is read. -/
theorem awaitedAfter_append_awaited {awaited next cs : List Char} (outer : List Char)
    (h : awaitedAfter awaited cs = some next) :
    awaitedAfter (awaited ++ outer) cs = some (next ++ outer) := by
  induction cs generalizing awaited with
  | nil =>
    obtain rfl := Option.some.inj h
    rfl
  | cons c rest ih =>
    obtain ⟨middle, hchar, hrest⟩ := Option.bind_eq_some_iff.mp h
    exact Option.bind_eq_some_iff.mpr ⟨_, awaitedAfterChar_append outer hchar, ih hrest⟩

/-- The same brackets are awaited before and after a balanced text. -/
theorem Balanced.awaitedAfter_eq {cs : List Char} (h : Balanced cs) (awaited : List Char) :
    awaitedAfter awaited cs = some awaited :=
  awaitedAfter_append_awaited awaited h

/-- Balanced texts one after the other are balanced. -/
theorem Balanced.append {xs ys : List Char} (hxs : Balanced xs) (hys : Balanced ys) :
    Balanced (xs ++ ys) := by
  rw [Balanced, awaitedAfter_append, hxs.awaitedAfter_eq]
  exact hys

/-- A text without brackets is balanced. -/
theorem balanced_of_not_mem {cs : List Char} (h : ∀ c ∈ cs, c ∉ brackets) :
    Balanced cs := by
  induction cs with
  | nil => rfl
  | cons c rest ih =>
    have hc := awaitedAfterChar_of_not_mem (h c List.mem_cons_self) []
    have hrest := ih fun other hother => h other (List.mem_cons_of_mem _ hother)
    exact Option.bind_eq_some_iff.mpr ⟨[], hc, hrest⟩

/-- A balanced text in round brackets is balanced. -/
theorem Balanced.bracketed {cs : List Char} (h : Balanced cs) :
    Balanced ('(' :: (cs ++ [')'])) := by
  change awaitedAfter [')'] (cs ++ [')']) = some []
  rw [awaitedAfter_append, h.awaitedAfter_eq]
  rfl

/-! ### Depth -/

/-- How many more round brackets a text opens than it closes. -/
def depth (cs : List Char) : Int :=
  cs.count '(' - cs.count ')'

theorem depth_append (xs ys : List Char) : depth (xs ++ ys) = depth xs + depth ys := by
  simp only [depth, List.count_append]
  omega

theorem depth_cons (c : Char) (cs : List Char) : depth (c :: cs) = depth [c] + depth cs :=
  depth_append [c] cs

/-- Only round brackets lead deeper or less deep. -/
theorem depth_singleton_of_ne {c : Char} (hopen : c ≠ '(') (hclose : c ≠ ')') : depth [c] = 0 := by
  simp [depth, hopen, hclose]

/-- A character leads as much deeper as it adds awaited brackets. -/
theorem depth_of_awaitedAfterChar {awaited next : List Char} {c : Char}
    (h : awaitedAfterChar awaited c = some next) :
    depth [c] = next.count ')' - awaited.count ')' := by
  rcases awaitedAfterChar_cases h with ⟨rfl, rfl⟩ | ⟨rfl, rfl⟩ | ⟨rfl | rfl, rfl⟩ | ⟨hc, rfl⟩
  · have hdepth : depth ['('] = 1 := rfl
    rw [hdepth, List.count_cons_self]
    omega
  · simp [depth]
  · have hdepth : depth [')'] = -1 := rfl
    rw [hdepth, List.count_cons_self]
    omega
  · simp [depth]
  · have hopen : c ≠ '(' := by
      rintro rfl
      exact hc (by decide)
    have hclose : c ≠ ')' := by
      rintro rfl
      exact hc (by decide)
    rw [depth_singleton_of_ne hopen hclose]
    omega

/-- A text leads as much deeper as it adds awaited brackets. -/
theorem depth_of_awaitedAfter {awaited next cs : List Char}
    (h : awaitedAfter awaited cs = some next) :
    depth cs = next.count ')' - awaited.count ')' := by
  induction cs generalizing awaited with
  | nil =>
    obtain rfl := Option.some.inj h
    simp [depth]
  | cons c rest ih =>
    obtain ⟨middle, hchar, hrest⟩ := Option.bind_eq_some_iff.mp h
    rw [depth_cons, depth_of_awaitedAfterChar hchar, ih hrest]
    omega

namespace Balanced

/-- A balanced text closes as many round brackets as it opens. -/
theorem depth_eq {cs : List Char} (h : Balanced cs) : depth cs = 0 := by
  simpa using depth_of_awaitedAfter h

/-- A balanced text closes no round bracket before it opens it. -/
theorem depth_nonneg {cs before after : List Char} (h : Balanced cs) (hcs : cs = before ++ after) :
    0 ≤ depth before := by
  rw [Balanced, hcs, awaitedAfter_append] at h
  obtain ⟨next, hbefore, -⟩ := Option.bind_eq_some_iff.mp h
  have hdepth := depth_of_awaitedAfter hbefore
  rw [hdepth, List.count_nil]
  omega

/-- Inside of the brackets around a balanced text, some are open. -/
theorem depth_pos {cs before after : List Char} (h : Balanced cs)
    (hcs : '(' :: (cs ++ [')']) = before ++ after) (hbefore : before ≠ []) (hafter : after ≠ []) :
    0 < depth before := by
  obtain ⟨first, inner, rfl⟩ := List.exists_cons_of_ne_nil hbefore
  rw [List.cons_append, List.cons.injEq] at hcs
  obtain ⟨rfl, hrest⟩ := hcs
  have hcs : cs = inner ++ after.dropLast := by
    rw [← List.dropLast_append_of_ne_nil hafter, ← hrest, List.dropLast_concat]
  have hinner := h.depth_nonneg hcs
  have hopen : depth ['('] = 1 := rfl
  rw [depth_cons, hopen]
  omega

end Balanced

/-! ### Enclosed texts -/

/-- A text that is not empty, is balanced, and has spaces and commas only inside round brackets. -/
structure Enclosed (cs : List Char) : Prop where
  ne_nil : cs ≠ []
  balanced : Balanced cs
  inside : ∀ before c after, cs = before ++ c :: after → c = ' ' ∨ c = ',' → 0 < depth before

/-- It is enough to look at every place of a text. -/
theorem enclosed_iff (cs : List Char) :
    Enclosed cs ↔ cs ≠ [] ∧ Balanced cs ∧
      ∀ i (hi : i < cs.length), cs[i] = ' ' ∨ cs[i] = ',' → 0 < depth (cs.take i) := by
  constructor
  · intro h
    refine ⟨h.ne_nil, h.balanced, fun i hi => ?_⟩
    apply h.inside (cs.take i) cs[i] (cs.drop (i + 1))
    rw [← List.drop_eq_getElem_cons hi, List.take_append_drop]
  · rintro ⟨hne, hbalanced, hplaces⟩
    refine ⟨hne, hbalanced, ?_⟩
    rintro before c after rfl hc
    have hplace := hplaces before.length (by simp)
    simp only [List.getElem_append_right, Nat.le_refl, Nat.sub_self, List.getElem_cons_zero,
      List.take_left] at hplace
    exact hplace hc

instance (cs : List Char) : Decidable (Enclosed cs) :=
  decidable_of_iff' _ (enclosed_iff cs)

/-- The characters by which a text is grouped: brackets and separators. -/
def groupingChars : List Char :=
  brackets ++ " ,".toList

/-- A text without brackets, spaces and commas is enclosed. -/
theorem enclosed_of_not_mem {cs : List Char} (hne : cs ≠ [])
    (h : ∀ c ∈ cs, c ∉ groupingChars) : Enclosed cs := by
  refine ⟨hne, balanced_of_not_mem fun c hc hbracket => h c hc ?_, ?_⟩
  · exact List.mem_append_left " ,".toList hbracket
  · rintro before c after rfl hc
    rcases hc with rfl | rfl
    · exact absurd (by decide) (h ' ' (by simp))
    · exact absurd (by decide) (h ',' (by simp))

/-- A balanced text in round brackets is enclosed after a name. -/
theorem enclosed_applied {name cs : List Char} (hname : ∀ c ∈ name, c ∉ groupingChars)
    (hcs : Balanced cs) : Enclosed (name ++ '(' :: (cs ++ [')'])) := by
  have hplain : Balanced name :=
    balanced_of_not_mem fun c hc hbracket => hname c hc (List.mem_append_left " ,".toList hbracket)
  refine ⟨by simp, hplain.append hcs.bracketed, ?_⟩
  rintro before c after hsplit hc
  have hother : c ≠ '(' := by
    rintro rfl
    exact absurd hc (by decide)
  have hseparator : c ∈ groupingChars := by
    rcases hc with rfl | rfl
    · decide
    · decide
  rcases List.append_eq_append_iff.mp hsplit with ⟨inner, rfl, hinner⟩ | ⟨rest, rfl, hrest⟩
  · -- The separator stands after the name, and it is not the opening bracket.
    cases inner with
    | nil => exact absurd (List.cons.inj hinner).1.symm hother
    | cons first inner =>
      rw [depth_append, hplain.depth_eq, Int.zero_add]
      exact hcs.depth_pos hinner (by simp) (by simp)
  · cases rest with
    | nil => exact absurd (List.cons.inj hrest).1 hother
    | cons first rest =>
      obtain rfl := (List.cons.inj hrest).1
      exact absurd hseparator (hname c (by simp))

/-! ### Splitting -/

/-- The parts of a text between the separators outside brackets, from a given depth on. -/
def splitOutside (separator : Char) : Int → List Char → List (List Char)
  | _, [] => [[]]
  | level, c :: rest =>
    if c = separator ∧ level = 0 then [] :: splitOutside separator level rest
    else (splitOutside separator (level + depth [c]) rest).modifyHead (c :: ·)

/-- There is always a part. -/
theorem splitOutside_ne_nil (separator : Char) (level : Int) (cs : List Char) :
    splitOutside separator level cs ≠ [] := by
  induction cs generalizing level with
  | nil => simp [splitOutside]
  | cons c rest ih =>
    rw [splitOutside]
    split
    · simp
    · simpa using ih _

/-- A text that has no separator outside brackets belongs to the first part. -/
theorem splitOutside_append {separator : Char} {level : Int} {xs : List Char}
    (h : ∀ before after, xs = before ++ separator :: after → level + depth before ≠ 0)
    (ys : List Char) :
    splitOutside separator level (xs ++ ys) =
      (splitOutside separator (level + depth xs) ys).modifyHead (xs ++ ·) := by
  induction xs generalizing level with
  | nil =>
    have hfirst : splitOutside separator level ys ≠ [] := splitOutside_ne_nil separator level ys
    obtain ⟨first, parts, hparts⟩ := List.exists_cons_of_ne_nil hfirst
    simp [depth, hparts]
  | cons c rest ih =>
    have hc : ¬ (c = separator ∧ level = 0) := by
      rintro ⟨rfl, rfl⟩
      exact h [] rest rfl rfl
    have hrest : ∀ before after, rest = before ++ separator :: after →
        level + depth [c] + depth before ≠ 0 := by
      intro before after hsplit
      rw [Int.add_assoc, ← depth_cons]
      exact h (c :: before) after (by rw [hsplit, List.cons_append])
    rw [List.cons_append, splitOutside, if_neg hc, ih hrest, List.modifyHead_modifyHead,
      Int.add_assoc, ← depth_cons]
    rfl

/-- A separator outside brackets splits a text in two. -/
theorem splitOutside_append_cons {separator : Char} (hseparator : depth [separator] = 0)
    {level : Int} {xs : List Char} (h : level + depth xs = 0) (ys : List Char) :
    splitOutside separator level (xs ++ separator :: ys) =
      splitOutside separator level xs ++ splitOutside separator 0 ys := by
  induction xs generalizing level with
  | nil =>
    obtain rfl : level = 0 := by simpa [depth] using h
    simp [splitOutside]
  | cons c rest ih =>
    rw [depth_cons, ← Int.add_assoc] at h
    rw [List.cons_append, splitOutside, splitOutside]
    split
    · next hc =>
      rw [hc.1, hseparator, Int.add_zero] at h
      rw [ih h, List.cons_append]
    · obtain ⟨first, parts, hparts⟩ :=
        List.exists_cons_of_ne_nil (splitOutside_ne_nil separator (level + depth [c]) rest)
      rw [ih h, hparts]
      rfl

/-- A single part is the whole text. -/
theorem eq_of_splitOutside_eq {separator : Char} {level : Int} {cs part : List Char}
    (h : splitOutside separator level cs = [part]) : cs = part := by
  induction cs generalizing level part with
  | nil => exact (List.cons.inj h).1
  | cons c rest ih =>
    rw [splitOutside] at h
    split at h
    · exact absurd (List.cons.inj h).2 (splitOutside_ne_nil separator level rest)
    · obtain ⟨first, parts, hparts⟩ :=
        List.exists_cons_of_ne_nil (splitOutside_ne_nil separator (level + depth [c]) rest)
      rw [hparts, List.modifyHead_cons, List.cons.injEq] at h
      obtain ⟨rfl, rfl⟩ := h
      rw [ih hparts]

namespace Enclosed

variable {a b : List Char}

/-- An enclosed text belongs to the first part. -/
theorem splitOutside_append (h : Enclosed a) {separator : Char}
    (hseparator : separator = ' ' ∨ separator = ',') (rest : List Char) :
    splitOutside separator 0 (a ++ rest) =
      (splitOutside separator 0 rest).modifyHead (a ++ ·) := by
  have houtside : ∀ before after, a = before ++ separator :: after → 0 + depth before ≠ 0 := by
    intro before after hsplit
    have hinside := h.inside before separator after hsplit hseparator
    omega
  rw [MaterialGraph.splitOutside_append houtside, h.balanced.depth_eq, Int.add_zero]

/-- An enclosed text is a part of its own before a separator. -/
theorem splitOutside_append_cons (h : Enclosed a) {separator : Char}
    (hseparator : separator = ' ' ∨ separator = ',') (rest : List Char) :
    splitOutside separator 0 (a ++ separator :: rest) =
      a :: splitOutside separator 0 rest := by
  rw [h.splitOutside_append hseparator, splitOutside, if_pos ⟨rfl, rfl⟩, List.modifyHead_cons,
    List.append_nil]

/-- An enclosed text is a single part. -/
theorem splitOutside_eq (h : Enclosed a) {separator : Char}
    (hseparator : separator = ' ' ∨ separator = ',') : splitOutside separator 0 a = [a] := by
  have hparts := h.splitOutside_append hseparator []
  rw [List.append_nil] at hparts
  rw [hparts]
  simp [splitOutside]

end Enclosed

/-! ### Operations and arguments -/

/-- The text of an operation. -/
def operationText (left symbol right : List Char) : List Char :=
  left ++ ' ' :: (symbol ++ ' ' :: right)

/-- Outside brackets, an operation between enclosed texts can be read in one way only. -/
theorem operationText_eq_iff {a b symbol left right other : List Char} (ha : Enclosed a)
    (hb : Enclosed b) (hsymbol : Enclosed symbol) (hother : Enclosed other) :
    operationText a symbol b = operationText left other right ∧ depth left = 0 ↔
      left = a ∧ other = symbol ∧ right = b := by
  have hspace : depth [' '] = 0 := rfl
  have hparts : splitOutside ' ' 0 (operationText a symbol b) = [a, symbol, b] := by
    rw [operationText, ha.splitOutside_append_cons (Or.inl rfl),
      hsymbol.splitOutside_append_cons (Or.inl rfl), hb.splitOutside_eq (Or.inl rfl)]
  constructor
  · rintro ⟨htext, hleft⟩
    rw [htext, operationText, splitOutside_append_cons hspace (by omega),
      hother.splitOutside_append_cons (Or.inl rfl)] at hparts
    obtain ⟨x, xs, hx⟩ := List.exists_cons_of_ne_nil (splitOutside_ne_nil ' ' 0 left)
    obtain ⟨y, ys, hy⟩ := List.exists_cons_of_ne_nil (splitOutside_ne_nil ' ' 0 right)
    rw [hx, hy] at hparts
    -- There are three parts in all, so there is one before the symbol and one after it.
    have hlength := congrArg List.length hparts
    simp only [List.length_append, List.length_cons, List.length_nil] at hlength
    obtain rfl : xs = [] := List.length_eq_zero_iff.mp (by omega)
    obtain rfl : ys = [] := List.length_eq_zero_iff.mp (by omega)
    rw [eq_of_splitOutside_eq hx, eq_of_splitOutside_eq hy]
    simpa using hparts
  · rintro ⟨rfl, rfl, rfl⟩
    exact ⟨rfl, ha.balanced.depth_eq⟩

/-- The arguments in a text: what stands between commas outside brackets, without the spaces before
it. -/
def argumentsOf (cs : List Char) : List (List Char) :=
  if cs = [] then [] else (splitOutside ',' 0 cs).map (List.dropWhile (· == ' '))

/-- A space before a text does not belong to its first argument. -/
theorem map_dropWhile_splitOutside_space (cs : List Char) :
    (splitOutside ',' 0 (' ' :: cs)).map (List.dropWhile (· == ' ')) =
      (splitOutside ',' 0 cs).map (List.dropWhile (· == ' ')) := by
  obtain ⟨first, parts, hparts⟩ := List.exists_cons_of_ne_nil (splitOutside_ne_nil ',' 0 cs)
  have hspace : splitOutside ',' 0 (' ' :: cs) = (' ' :: first) :: parts := by
    rw [splitOutside, if_neg (by decide)]
    exact congrArg (List.modifyHead (' ' :: ·)) hparts
  rw [hspace, hparts]
  rfl

/-- An enclosed text does not begin with a space. -/
theorem Enclosed.dropWhile_eq {a : List Char} (h : Enclosed a) :
    a.dropWhile (· == ' ') = a := by
  obtain ⟨c, rest, rfl⟩ := List.exists_cons_of_ne_nil h.ne_nil
  have hc : (c == ' ') = false := by
    rw [beq_eq_false_iff_ne]
    intro hspace
    exact absurd (h.inside [] c rest rfl (Or.inl hspace)) (by decide)
  rw [List.dropWhile_cons, hc]
  rfl

/-- Enclosed texts are the arguments that they make with commas between them. -/
theorem argumentsOf_intercalate {parts : List (List Char)} (h : ∀ part ∈ parts, Enclosed part) :
    argumentsOf (", ".toList.intercalate parts) = parts := by
  induction parts with
  | nil => rfl
  | cons part rest ih =>
    have hpart := h part List.mem_cons_self
    have hrest := ih fun other hother => h other (List.mem_cons_of_mem _ hother)
    cases rest with
    | nil =>
      rw [List.intercalate_singleton, argumentsOf, if_neg hpart.ne_nil,
        hpart.splitOutside_eq (Or.inr rfl), List.map_singleton, hpart.dropWhile_eq]
    | cons next others =>
      have htext : ", ".toList.intercalate (part :: next :: others) =
          part ++ ',' :: ' ' :: ", ".toList.intercalate (next :: others) := by
        rw [List.intercalate_cons_cons, List.append_assoc]
        rfl
      have hne : ", ".toList.intercalate (next :: others) ≠ [] := by
        intro hnil
        rw [hnil] at hrest
        contradiction
      rw [argumentsOf, if_neg hne] at hrest
      rw [htext, argumentsOf, if_neg (by simp), hpart.splitOutside_append_cons (Or.inr rfl),
        List.map_cons, hpart.dropWhile_eq, map_dropWhile_splitOutside_space, hrest]

end MaterialGraph
