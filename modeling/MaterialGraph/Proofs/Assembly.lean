import Mathlib.Data.List.Chain
import MaterialGraph.Shader.Template

/-!
# The parts of an assembled shader

A slot is replaced where it occurs first. The slot of the assignments is looked for after the
statements have been put in, so it is found in its own place only if no statement has it in its
text. Then the shader is the text before the slots, a block of statements, a block of assignments
and the text after the slots. Otherwise the assignments are put into a statement and their slot is
left over, which no choice of assignments makes up for.

Texts without a mark are such that no slot begins in them: they have no two opening braces in a row.
Since they do not begin with one either, this is kept when they are put together.
-/

namespace MaterialGraph

/-! ### The first occurrence of a text -/

/-- A text begins with another exactly when it is this other and a rest. -/
theorem dropStart?_eq_some_iff {start cs rest : List Char} :
    dropStart? start cs = some rest ↔ cs = start ++ rest := by
  fun_induction dropStart? start cs with
  | case1 cs => simp [eq_comm]
  | case2 e start cs ih => simp [ih]
  | case3 e start c cs hne => simp [Ne.symm hne]
  | case4 => simp

/-- A part is replaced at its place if it does not begin earlier. -/
theorem replaceFirst_append {part : List Char} (hpart : part ≠ []) (replacement : List Char)
    {before : List Char} (after : List Char) (h : ¬ part <:+: before ++ part.dropLast) :
    replaceFirst part replacement (before ++ part ++ after) = before ++ replacement ++ after := by
  induction before with
  | nil =>
    obtain ⟨c, rest, rfl⟩ := List.exists_cons_of_ne_nil hpart
    have hstart : dropStart? (c :: rest) (c :: (rest ++ after)) = some after :=
      dropStart?_eq_some_iff.mpr rfl
    simp only [List.nil_append, List.cons_append, replaceFirst, hstart]
  | cons c before ih =>
    have hnone : dropStart? part (c :: (before ++ part ++ after)) = none := by
      rw [Option.eq_none_iff_forall_ne_some]
      intro rest hrest
      -- An occurrence that begins here ends before the part does, so it needs no more than
      -- what comes before the last character of the part.
      apply h
      apply List.IsPrefix.isInfix
      apply List.prefix_of_prefix_length_le ⟨rest, (dropStart?_eq_some_iff.mp hrest).symm⟩
      · rw [List.append_assoc, List.cons_append, List.cons_prefix_cons,
          List.prefix_append_right_inj]
        exact ⟨rfl, (List.dropLast_prefix part).trans (List.prefix_append part after)⟩
      · have hpos := List.length_pos_of_ne_nil hpart
        simp only [List.cons_append, List.length_cons, List.length_append, List.length_dropLast]
        omega
    have hrest := ih fun hfound => h (List.infix_cons hfound)
    simp only [List.cons_append, replaceFirst, hnone, hrest]

/-- A text is no part of itself without its end. -/
theorem not_infix_dropLast {part : List Char} (hpart : part ≠ []) : ¬ part <:+: part.dropLast := by
  intro h
  have hle := h.length_le
  have hpos := List.length_pos_of_ne_nil hpart
  rw [List.length_dropLast] at hle
  omega

/-- A part that occurs in a text occurs somewhere first. -/
theorem exists_first_occurrence {part text : List Char} (hpart : part ≠ []) (h : part <:+: text) :
    ∃ before after, text = before ++ part ++ after ∧ ¬ part <:+: before ++ part.dropLast := by
  induction text with
  | nil => exact absurd (List.eq_nil_of_infix_nil h) hpart
  | cons c rest ih =>
    by_cases hstart : part <+: c :: rest
    · obtain ⟨after, hafter⟩ := hstart
      exact ⟨[], after, hafter.symm, not_infix_dropLast hpart⟩
    · have hrest : part <:+: rest := (List.infix_cons_iff.mp h).resolve_left hstart
      obtain ⟨before, after, hsplit, hfirst⟩ := ih hrest
      refine ⟨c :: before, after, by rw [hsplit]; rfl, ?_⟩
      intro hfound
      rcases List.infix_cons_iff.mp hfound with hearly | hlate
      · -- An occurrence at the start of the text was ruled out.
        have hwithin : before ++ part.dropLast <+: rest := by
          rw [hsplit, List.append_assoc, List.prefix_append_right_inj]
          exact (List.dropLast_prefix part).trans (List.prefix_append part after)
        exact hstart (hearly.trans (List.cons_prefix_cons.mpr ⟨rfl, hwithin⟩))
      · exact hfirst hlate

/-- A part that occurs in the first of two texts is replaced there. -/
theorem replaceFirst_append_of_infix {part : List Char} (hpart : part ≠ [])
    (replacement : List Char) {xs : List Char} (ys : List Char) (h : part <:+: xs) :
    replaceFirst part replacement (xs ++ ys) = replaceFirst part replacement xs ++ ys := by
  obtain ⟨before, after, rfl, hfirst⟩ := exists_first_occurrence hpart h
  rw [List.append_assoc (before ++ part), replaceFirst_append hpart _ _ hfirst,
    replaceFirst_append hpart _ _ hfirst, ← List.append_assoc]

/-- A text without a given character lies before or after it. -/
theorem infix_append_cons_iff {part xs ys : List Char} {c : Char} (hc : c ∉ part) :
    part <:+: xs ++ c :: ys ↔ part <:+: xs ∨ part <:+: ys := by
  have hstarts : ∀ front : List Char, part <+: front ++ c :: ys → part <+: front := by
    intro front hfront
    have hend : front ++ [c] <+: front ++ c :: ys := by simp [List.prefix_append_right_inj]
    rcases List.prefix_or_prefix_of_prefix hfront hend with hshort | hlong
    · rcases List.prefix_concat_iff.mp hshort with heq | hshort
      · exact absurd (heq ▸ by simp) hc
      · exact hshort
    · exact absurd (hlong.subset (by simp)) hc
  constructor
  · intro h
    induction xs with
    | nil =>
      rcases List.infix_cons_iff.mp h with hstart | hrest
      · exact Or.inl (hstarts [] hstart).isInfix
      · exact Or.inr hrest
    | cons x xs ih =>
      rcases List.infix_cons_iff.mp h with hstart | hrest
      · exact Or.inl (hstarts (x :: xs) hstart).isInfix
      · rcases ih hrest with hxs | hys
        · exact Or.inl (List.infix_cons hxs)
        · exact Or.inr hys
  · intro h
    rcases h with hxs | hys
    · exact hxs.trans (List.prefix_append xs _).isInfix
    · exact hys.trans ((List.suffix_cons c ys).trans (List.suffix_append xs _)).isInfix

/-! ### Texts without a mark -/

/-- A text in which no slot begins: it has no two opening braces in a row, and does not begin with
one. -/
def Unmarked (cs : List Char) : Prop :=
  cs.head? ≠ some '\x7b' ∧ cs.IsChain fun a b => a ≠ '\x7b' ∨ b ≠ '\x7b'

instance (cs : List Char) : Decidable (Unmarked cs) :=
  inferInstanceAs (Decidable (_ ∧ _))

/-- A text without braces has no mark. -/
theorem unmarked_of_not_mem {cs : List Char} (h : '\x7b' ∉ cs) : Unmarked cs := by
  refine ⟨fun hhead => h (List.mem_of_mem_head? hhead), ?_⟩
  induction cs with
  | nil => exact List.isChain_nil
  | cons c rest ih =>
    rw [List.mem_cons, not_or] at h
    rw [List.isChain_cons]
    exact ⟨fun _ _ => Or.inl (Ne.symm h.1), ih h.2⟩

/-- Texts without a mark have none when they are put together. -/
theorem Unmarked.append {xs ys : List Char} (hxs : Unmarked xs) (hys : Unmarked ys) :
    Unmarked (xs ++ ys) := by
  constructor
  · cases xs with
    | nil => exact hys.1
    | cons c rest => exact hxs.1
  · rw [List.isChain_append]
    refine ⟨hxs.2, hys.2, ?_⟩
    intro x _ y hy
    right
    intro hbrace
    exact hys.1 (hbrace ▸ hy)

namespace Template

/-! ### Blocks of lines -/

/-- A block of lines as a text: nothing without lines, and otherwise an empty line and the lines,
each indented by four spaces and ended. -/
def blockText (lines : List String) : String :=
  if lines = [] then "" else "\n" ++ String.join (lines.map fun line => "    " ++ line ++ "\n")

/-- The characters of a block. -/
theorem toList_blockText (lines : List String) : (blockText lines).toList = renderBlock lines := by
  cases lines with
  | nil => rfl
  | cons line rest =>
    have hline : ∀ line : String, ("    " ++ line ++ "\n").toList = renderLine line := by
      intro line
      rw [String.toList_append, String.toList_append]
      rfl
    simp only [blockText, reduceCtorEq, if_false, String.toList_append, String.toList_join,
      List.flatMap_map, hline]
    rfl

/-- A part that begins with no space lies in an indented line exactly if it lies in the line. -/
theorem infix_indent_iff {part : List Char} (hpart : part ≠ []) (hspace : part.head? ≠ some ' ')
    (cs : List Char) : part <:+: "    ".toList ++ cs ↔ part <:+: cs := by
  have hcons : ∀ rest, part <:+: ' ' :: rest ↔ part <:+: rest := by
    intro rest
    rw [List.infix_cons_iff, or_iff_right_iff_imp]
    intro hstart
    obtain ⟨c, others, rfl⟩ := List.exists_cons_of_ne_nil hpart
    rw [List.cons_prefix_cons] at hstart
    exact absurd (congrArg some hstart.1) hspace
  have hindent : "    ".toList ++ cs = ' ' :: ' ' :: ' ' :: ' ' :: cs := rfl
  rw [hindent, hcons, hcons, hcons, hcons]

/-- A line is indented and ended. -/
theorem renderLine_eq (line : String) :
    renderLine line = "    ".toList ++ line.toList ++ ['\n'] := by
  delta renderLine
  rfl

/-- A part that neither begins with a space nor runs over lines lies in rendered lines exactly if it
lies in one of the lines. -/
theorem infix_lines_append_iff {part : List Char} (hpart : part ≠ [])
    (hspace : part.head? ≠ some ' ') (hline : '\n' ∉ part) (lines : List String)
    (rest : List Char) :
    part <:+: lines.flatMap renderLine ++ rest ↔
      (∃ line ∈ lines, part <:+: line.toList) ∨ part <:+: rest := by
  induction lines with
  | nil => simp
  | cons line others ih =>
    have hsplit : (line :: others).flatMap renderLine ++ rest =
        ("    ".toList ++ line.toList) ++ '\n' :: (others.flatMap renderLine ++ rest) := by
      simp only [List.flatMap_cons, renderLine_eq, List.append_assoc, List.cons_append,
        List.nil_append]
    rw [hsplit, infix_append_cons_iff hline, infix_indent_iff hpart hspace, ih,
      List.exists_mem_cons_iff, or_assoc]

/-- The same holds of a block. -/
theorem infix_block_append_iff {part : List Char} (hpart : part ≠ [])
    (hspace : part.head? ≠ some ' ') (hline : '\n' ∉ part) (lines : List String)
    (rest : List Char) :
    part <:+: renderBlock lines ++ rest ↔
      (∃ line ∈ lines, part <:+: line.toList) ∨ part <:+: rest := by
  cases lines with
  | nil => simp [renderBlock]
  | cons line others =>
    have hnil : ¬ part <:+: [] := fun h => hpart (List.eq_nil_of_infix_nil h)
    have hblock : renderBlock (line :: others) ++ rest =
        [] ++ '\n' :: ((line :: others).flatMap renderLine ++ rest) := rfl
    rw [hblock, infix_append_cons_iff hline, or_iff_right hnil,
      infix_lines_append_iff hpart hspace hline]

/-- The slots. -/
def slots : List String :=
  [statementsSlot, assignmentsSlot]

/-- No slot occurs in a text without a mark. -/
theorem not_infix_of_unmarked {cs : List Char} (h : Unmarked cs) {slot : String}
    (hslot : slot ∈ slots) : ¬ slot.toList <:+: cs := by
  have hmarked : ∀ slot ∈ slots, ¬ slot.toList.IsChain fun a b => a ≠ '\x7b' ∨ b ≠ '\x7b' := by
    decide
  intro hfound
  have hchain := List.IsChain.infix h.2 hfound
  exact hmarked slot hslot hchain

/-- The text before the slots has no mark. -/
theorem unmarked_before : Unmarked before.toList := by
  -- The lines are read one by one, since reading a text takes time quadratic in its length.
  delta before
  repeat rewrite [String.toList_append]
  decide +kernel

/-- The text before the slots ends a line. -/
theorem newline_suffix_before : ['\n'] <:+ before.toList := by
  delta before
  rewrite [String.toList_append]
  exact List.suffix_append_of_suffix (by decide +kernel)

/-- No slot begins in the text before the slots. -/
theorem infix_before_append_iff {slot : String} (hslot : slot ∈ slots) (rest : List Char) :
    slot.toList <:+: before.toList ++ rest ↔ slot.toList <:+: rest := by
  obtain ⟨lines, hlines⟩ := newline_suffix_before
  have hnewline : ∀ slot ∈ slots, '\n' ∉ slot.toList := by decide
  have hnone : ¬ slot.toList <:+: lines := by
    intro hfound
    apply not_infix_of_unmarked unmarked_before hslot
    exact hfound.trans (hlines ▸ List.prefix_append lines _).isInfix
  rw [← hlines, List.append_assoc, List.singleton_append,
    infix_append_cons_iff (hnewline slot hslot), or_iff_right hnone]

/-- The statements are put in their own slot, whatever they are. -/
theorem fill_statements (statements : List String) :
    replaceFirst statementsSlot.toList (renderBlock statements) text.toList =
      before.toList ++ renderBlock statements ++ assignmentsSlot.toList ++ after.toList := by
  have htext : text.toList = before.toList ++ statementsSlot.toList ++
      (assignmentsSlot.toList ++ after.toList) := by
    delta text
    rw [String.toList_append, String.toList_append, String.toList_append, List.append_assoc]
  have hfirst : ¬ statementsSlot.toList <:+: before.toList ++ statementsSlot.toList.dropLast := by
    rw [infix_before_append_iff List.mem_cons_self]
    exact not_infix_dropLast (by decide)
  rw [htext, replaceFirst_append (by decide) _ _ hfirst, ← List.append_assoc]

/-- The slot of the assignments is looked for behind the text before the slots, and found at the
latest in its own place. -/
theorem toList_assemble (statements assignments : List String) :
    (assemble statements assignments).toList =
      before.toList ++ replaceFirst assignmentsSlot.toList (renderBlock assignments)
        (renderBlock statements ++ assignmentsSlot.toList) ++ after.toList := by
  have hfound : assignmentsSlot.toList <:+: renderBlock statements ++ assignmentsSlot.toList :=
    (List.suffix_append _ _).isInfix
  obtain ⟨front, back, hsplit, hfirst⟩ := exists_first_occurrence (by decide) hfound
  have hfirst' : ¬ assignmentsSlot.toList <:+:
      before.toList ++ front ++ assignmentsSlot.toList.dropLast := by
    rw [List.append_assoc, infix_before_append_iff (by decide)]
    exact hfirst
  have hwhole : before.toList ++ renderBlock statements ++ assignmentsSlot.toList ++ after.toList =
      before.toList ++ front ++ assignmentsSlot.toList ++ (back ++ after.toList) := by
    rw [List.append_assoc before.toList, hsplit]
    simp only [List.append_assoc]
  rw [assemble, String.toList_ofList, fill_statements, hwhole,
    replaceFirst_append (by decide) _ _ hfirst', hsplit,
    replaceFirst_append (by decide) _ _ hfirst]
  simp only [List.append_assoc]

/-- If no statement has the slot of the assignments in its text, the shader consists of the text
before the slots, both blocks and the text after the slots. -/
theorem assemble_eq {statements : List String} (assignments : List String)
    (h : ∀ line ∈ statements, ¬ assignmentsSlot.toList <:+: line.toList) :
    assemble statements assignments =
      before ++ blockText statements ++ blockText assignments ++ after := by
  have hfirst : ¬ assignmentsSlot.toList <:+:
      renderBlock statements ++ assignmentsSlot.toList.dropLast := by
    rw [infix_block_append_iff (by decide) (by decide) (by decide), not_or]
    constructor
    · intro hfound
      obtain ⟨line, hline, hslot⟩ := hfound
      exact h line hline hslot
    · exact not_infix_dropLast (by decide)
  have hassignments := replaceFirst_append (by decide) (renderBlock assignments) [] hfirst
  rw [List.append_nil, List.append_nil] at hassignments
  rw [← String.toList_inj, toList_assemble, hassignments, String.toList_append,
    String.toList_append, String.toList_append, toList_blockText, toList_blockText,
    ← List.append_assoc before.toList]

/-- A block that has lines ends with the end of a line. -/
theorem newline_suffix_renderBlock {lines : List String} (h : lines ≠ []) :
    ['\n'] <:+ renderBlock lines := by
  have hblock : renderBlock lines = '\n' :: lines.flatMap renderLine := by
    cases lines with
    | nil => contradiction
    | cons line rest => rfl
  obtain ⟨init, last, rfl⟩ := lines.eq_nil_or_concat.resolve_left h
  rw [hblock, List.concat_eq_append, List.flatMap_append, List.flatMap_singleton, renderLine_eq,
    ← List.append_assoc, ← List.cons_append]
  exact List.suffix_append _ _

/-- Two blocks end with the end of a line if the first has lines. -/
theorem getLast?_renderBlock_append {lines : List String} (h : lines ≠ []) (others : List String) :
    (renderBlock lines ++ renderBlock others).getLast? = some '\n' := by
  have hlast : ['\n'] <:+ renderBlock lines ++ renderBlock others := by
    by_cases hothers : others = []
    · rw [hothers, renderBlock, List.append_nil]
      exact newline_suffix_renderBlock h
    · exact (newline_suffix_renderBlock hothers).trans (List.suffix_append _ _)
  obtain ⟨front, hfront⟩ := hlast
  rw [← hfront, List.getLast?_append, List.getLast?_singleton, Option.some_or]

/-- If some statement has the slot of the assignments in its text, the shader does not consist of
these parts. -/
theorem assemble_ne {statements : List String} (assignments : List String) {line : String}
    (hline : line ∈ statements) (hslot : assignmentsSlot.toList <:+: line.toList) :
    assemble statements assignments ≠
      before ++ blockText statements ++ blockText assignments ++ after := by
  intro heq
  have hfound : assignmentsSlot.toList <:+: renderBlock statements ++ [] :=
    (infix_block_append_iff (by decide) (by decide) (by decide) statements []).mpr
      (Or.inl ⟨line, hline, hslot⟩)
  rw [List.append_nil] at hfound
  have hmiddle : replaceFirst assignmentsSlot.toList (renderBlock assignments)
      (renderBlock statements) ++ assignmentsSlot.toList =
        renderBlock statements ++ renderBlock assignments := by
    have hchars := congrArg String.toList heq
    rwa [toList_assemble, replaceFirst_append_of_infix (by decide) _ _ hfound,
      String.toList_append, String.toList_append, String.toList_append, toList_blockText,
      toList_blockText, List.append_assoc before.toList (renderBlock statements),
      List.append_cancel_right_eq, List.append_cancel_left_eq] at hchars
  -- The slot that is left over ends in a brace, and two blocks end in the end of a line.
  have hbrace : assignmentsSlot.toList.getLast? = some '\x7d' := by decide
  have hlast := congrArg List.getLast? hmiddle
  rw [getLast?_renderBlock_append (List.ne_nil_of_mem hline), List.getLast?_append, hbrace,
    Option.some_or, Option.some.injEq] at hlast
  exact absurd hlast (by decide)

/-- The shader consists of the text before the slots, both blocks and the text after the slots
exactly if no statement has the slot of the assignments in its text. This holds for any assignments,
and in every case the shader begins with the text before the slots and ends with the text after
them. -/
theorem assemble_fills_slots (statements assignments : List String) :
    (assemble statements assignments =
        before ++ blockText statements ++ blockText assignments ++ after ↔
      ∀ line ∈ statements, ¬ assignmentsSlot.toList <:+: line.toList) ∧
    ∃ middle, assemble statements assignments = before ++ middle ++ after := by
  refine ⟨⟨?_, assemble_eq assignments⟩, ?_⟩
  · intro heq line hline hslot
    exact assemble_ne assignments hline hslot heq
  · refine ⟨String.ofList (replaceFirst assignmentsSlot.toList (renderBlock assignments)
      (renderBlock statements ++ assignmentsSlot.toList)), ?_⟩
    rw [← String.toList_inj, toList_assemble, String.toList_append, String.toList_append,
      String.toList_ofList]

end Template

end MaterialGraph
