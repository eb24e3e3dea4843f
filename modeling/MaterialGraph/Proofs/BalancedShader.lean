import MaterialGraph.Proofs.Assignments
import MaterialGraph.Proofs.Layout
import MaterialGraph.Proofs.Nesting

/-!
# Brackets of a shader

Every operand is enclosed: a variable, an expression of the shader, a literal of any value or a
stand-in has spaces and commas only inside round brackets. The texts that rules put around operands
are balanced, though not always on one line: the braces of a loop are closed on later lines of the
same node. So the lines of one node are balanced together, and with them the lines of all nodes and
the shader.
-/

namespace MaterialGraph

/-! ### Operands -/

/-- The name of a variable is enclosed. -/
theorem Phrase.enclosed_variableName (index : Nat) : Enclosed (variableName index) := by
  apply enclosed_of_not_mem (by simp [variableName])
  intro c hc
  rcases List.mem_append.mp hc with hletter | hdigit
  · exact of_mem_of_all hletter (by decide)
  · intro hmark
    have hother : ¬ c.isDigit = true := of_mem_of_all hmark (by decide)
    exact hother (isDigit_of_mem_digitsOf hdigit)

namespace PortValue

/-- The literal of a value is enclosed. -/
theorem enclosed_literal (v : PortValue) : Enclosed v.literal.toList := by
  have hconstruction (type : PortType) (xs : List Single) :
      Enclosed
        (type.shaderType ++ "(" ++ ", ".intercalate (xs.map componentText) ++ ")").toList := by
    have hname : ∀ c ∈ type.shaderType.toList, c ∉ groupingChars := by
      intro c hc
      cases type <;> exact of_mem_of_all hc (by decide)
    have hcomponents : Balanced (", ".intercalate (xs.map componentText)).toList := by
      apply balanced_of_not_mem
      intro c hc hbracket
      have hother : ¬ IsNumeralChar c ∧ c ∉ ", ".toList := of_mem_of_all hbracket (by decide)
      exact not_mem_components hother.1 hother.2 xs hc
    have henclosed := enclosed_applied hname hcomponents
    simpa [String.toList_append] using henclosed
  cases v with
  | float x =>
    have htext : (literal (float x)).toList = x.fixed 4 := String.toList_ofList
    rw [htext]
    apply enclosed_of_not_mem (fixed_ne_nil 4 x)
    intro c hc hmark
    have hother : ¬ IsNumeralChar c := of_mem_of_all hmark (by decide)
    exact hother (isNumeralChar_of_mem_fixed hc)
  | vec2 | vec3 | vec4 | color => exact hconstruction _ _

end PortValue

/-- The literal that stands for an input that nothing feeds is enclosed. -/
theorem Port.enclosed_defaultLiteral (port : Port) : Enclosed port.defaultLiteral.toList := by
  unfold Port.defaultLiteral
  cases port.default with
  | some v => exact v.enclosed_literal
  | none => cases port.type <;> decide +kernel

/-- The literal that stands for an output without a rule is enclosed. -/
theorem PortType.enclosed_placeholder (type : PortType) : Enclosed type.placeholder.toList := by
  cases type <;> decide +kernel

/-- The texts of every kind are enclosed. -/
theorem NodeKind.enclosed_texts (kind : NodeKind) :
    ∀ s ∈ kind.emission.texts, Enclosed s.toList := by
  have hall : ∀ kind ∈ NodeKind.all, ∀ s ∈ kind.emission.texts, Enclosed s.toList := by
    decide +kernel
  exact hall kind kind.mem_all

/-- An operand is enclosed. -/
theorem Fragment.Operand.enclosed {catalog : Catalog} {f : Fragment} (h : f.Operand catalog) :
    Enclosed (Phrase.fragmentText f) := by
  cases h with
  | declared index => exact Phrase.enclosed_variableName index
  | @source kind expression hsource =>
    exact kind.enclosed_texts expression (by simp [hsource, Emission.texts])
  | @literal value _ => exact value.enclosed_literal
  | placeholder type => exact type.enclosed_placeholder
  | @unfed _ _ port _ _ => exact port.enclosed_defaultLiteral

/-! ### Phrases -/

namespace Phrase

/-- A phrase that is an operand is enclosed. -/
theorem Single.enclosed {catalog : Catalog} {p : Phrase} (h : p.Single (Fragment.Operand catalog)) :
    Enclosed p.render := by
  obtain ⟨f, rfl, hf⟩ := h
  simpa [render] using hf.enclosed

/-- The text of an operation. -/
theorem render_operation (a b : Phrase) (symbol : String) :
    render (join [a, " ", symbol, " ", b]) = operationText a.render symbol.toList b.render := by
  simp [join, render, fragmentText, operationText]

/-- The text of a phrase in brackets after a name. -/
theorem render_applied (name : String) (p : Phrase) :
    render (join [name, "(", p, ")"]) = name.toList ++ '(' :: (p.render ++ [')']) := by
  simp [join, render, fragmentText]

/-- The text of a component of a phrase. -/
theorem render_component (p : Phrase) (name : String) :
    render (join [p, ".", name]) = p.render ++ '.' :: name.toList := by
  simp [join, render, fragmentText]

/-- The text of phrases with a separator between them. -/
theorem render_separate (separator : String) (parts : List Phrase) :
    render (separate separator parts) = separator.toList.intercalate (parts.map render) := by
  induction parts with
  | nil => rfl
  | cons part rest ih =>
    cases rest with
    | nil => simp [separate]
    | cons next others =>
      rw [separate, List.map_cons, List.map_cons, List.intercalate_cons_cons, ← List.map_cons, ← ih]
      · simp [render, fragmentText]
      · simp

end Phrase

/-- The text of all inputs as arguments. -/
theorem Inputs.render_arguments (inputs : Inputs) :
    inputs.arguments.render =
      ", ".toList.intercalate (inputs.map fun input => input.2.phrase.render) := by
  rw [arguments, Phrase.render_separate, List.map_map]
  rfl

/-! ### Statements -/

/-- Lines that are balanced one by one are balanced together. -/
theorem Template.balanced_lines {lines : List String} (h : ∀ line ∈ lines, Balanced line.toList) :
    Balanced (lines.flatMap renderLine) := by
  have hindent : Balanced "    ".toList := by decide
  have hend : Balanced ['\n'] := by decide
  induction lines with
  | nil => rfl
  | cons line rest ih =>
    rw [List.flatMap_cons, renderLine_eq]
    apply ((hindent.append (h line List.mem_cons_self)).append hend).append
    exact ih fun other hother => h other (List.mem_cons_of_mem _ hother)

namespace Statement

/-- The characters of a statement on a line of its own. -/
def lineText (index : Nat) (s : Statement) : List Char :=
  [' ', ' ', ' ', ' '] ++ s.render index ++ ['\n']

/-- The characters of the lines of statements. -/
def linesText (index : Nat) : List Statement → List Char
  | [] => []
  | s :: rest => s.lineText index ++ linesText (if s.declares then index + 1 else index) rest

/-- They are the characters of the rendered lines. -/
theorem linesText_eq (index : Nat) (statements : List Statement) :
    linesText index statements = (renderAll index statements).flatMap Template.renderLine := by
  induction statements generalizing index with
  | nil => rfl
  | cons s rest ih =>
    have hline : s.lineText index = Template.renderLine (String.ofList (s.render index)) := by
      simp [lineText, Template.renderLine_eq]
    rw [linesText, ih, renderAll, List.flatMap_cons, hline]

/-- Statements whose lines are balanced together, whatever their variables are. -/
def BalancedLines (statements : List Statement) : Prop :=
  ∀ index, Balanced (linesText index statements)

/-- Balanced lines one after the other are balanced. -/
theorem BalancedLines.append {s t : List Statement} (hs : BalancedLines s) (ht : BalancedLines t) :
    BalancedLines (s ++ t) := by
  intro index
  rw [linesText_eq, renderAll_append, List.flatMap_append, ← linesText_eq, ← linesText_eq]
  exact (hs index).append (ht _)

/-- Every line is that of a statement. -/
theorem exists_of_mem_renderAll {index : Nat} {statements : List Statement} {line : String}
    (h : line ∈ renderAll index statements) :
    ∃ s ∈ statements, ∃ i, line.toList = s.render i := by
  induction statements generalizing index with
  | nil => cases h
  | cons s rest ih =>
    rcases List.mem_cons.mp h with rfl | hrest
    · exact ⟨s, List.mem_cons_self, index, String.toList_ofList⟩
    · obtain ⟨other, hother, hline⟩ := ih hrest
      exact ⟨other, List.mem_cons_of_mem _ hother, hline⟩

/-- Statements that are balanced one by one are balanced together. -/
theorem balancedLines_of_forall {statements : List Statement}
    (h : ∀ s ∈ statements, ∀ index, Balanced (s.render index)) : BalancedLines statements := by
  intro index
  rw [linesText_eq]
  apply Template.balanced_lines
  intro line hline
  obtain ⟨s, hs, i, htext⟩ := exists_of_mem_renderAll hline
  rw [htext]
  exact h s hs i

/-- A declaration of a balanced value is balanced. -/
theorem balanced_declare {type : Option String} (htype : ∀ t ∈ type, Balanced t.toList)
    {value : Phrase} (hvalue : Balanced value.render) (storage : Storage) (index : Nat) :
    Balanced ((declare storage type value).render index) := by
  have hkeyword : Balanced storage.keyword.toList := by cases storage <;> decide
  have hspace : Balanced [' '] := by decide
  have hcolon : Balanced [':', ' '] := by decide
  have hequals : Balanced " = ".toList := by decide
  have hend : Balanced [';'] := by decide
  have hname := hspace.append (Phrase.enclosed_variableName index).balanced
  have hannotation : Balanced (type.elim [] fun t => ':' :: ' ' :: t.toList) := by
    cases type with
    | none => decide
    | some t => exact hcolon.append (htype t rfl)
  exact ((((hkeyword.append hname).append hannotation).append hequals).append hvalue).append hend

end Statement

/-! ### Expansions -/

section Fill

variable {args : List Fragment} (hargs : ∀ f ∈ args, Balanced (Phrase.fragmentText f)) (start : Nat)

include hargs

/-- Filling the holes of a phrase with balanced texts leaves its brackets as they are. -/
theorem Phrase.awaitedAfter_fill (p : Phrase) (awaited : List Char) :
    awaitedAfter awaited (render (p.map (Fragment.fill args start))) =
      awaitedAfter awaited p.render := by
  induction p generalizing awaited with
  | nil => rfl
  | cons f rest ih =>
    have hf : awaitedAfter awaited (fragmentText (f.fill args start)) =
        awaitedAfter awaited (fragmentText f) := by
      cases f with
      | text s => rfl
      | «variable» index =>
        have hvariable (i : Nat) : Balanced (fragmentText (.variable i)) :=
          (enclosed_variableName i).balanced
        have hfilled : Balanced (fragmentText (Fragment.fill args start (.variable index))) := by
          rw [Fragment.fill]
          cases hi : args[index]? with
          | none => exact hvariable _
          | some f => exact hargs f (List.mem_of_getElem? hi)
        rw [hfilled.awaitedAfter_eq, (hvariable index).awaitedAfter_eq]
    change awaitedAfter awaited (fragmentText (f.fill args start) ++ _) =
      awaitedAfter awaited (fragmentText f ++ _)
    rw [awaitedAfter_append, awaitedAfter_append, hf]
    congr 1
    funext next
    exact ih next

/-- Filling a statement and numbering it anew leaves its brackets as they are. -/
theorem Statement.awaitedAfter_fill (s : Statement) (index other : Nat) (awaited : List Char) :
    awaitedAfter awaited ((s.fill args start).render index) =
      awaitedAfter awaited (s.render other) := by
  cases s with
  | line text => exact Phrase.awaitedAfter_fill hargs start text awaited
  | declare storage type value =>
    have hspace : Balanced [' '] := by decide
    have hname (i : Nat) : Balanced (' ' :: Phrase.variableName i) :=
      hspace.append (Phrase.enclosed_variableName i).balanced
    simp only [fill, render, awaitedAfter_append, (hname _).awaitedAfter_eq,
      Phrase.awaitedAfter_fill hargs]

/-- Filling statements and numbering them anew leaves the brackets of their lines as they are. -/
theorem Statement.awaitedAfter_linesText_fill (statements : List Statement) (index other : Nat)
    (awaited : List Char) :
    awaitedAfter awaited (linesText index (statements.map (fill args start))) =
      awaitedAfter awaited (linesText other statements) := by
  induction statements generalizing index other awaited with
  | nil => rfl
  | cons s rest ih =>
    simp only [List.map_cons, linesText, lineText, awaitedAfter_append,
      awaitedAfter_fill hargs start s index other]
    congr 1
    funext next
    exact ih _ _ next

end Fill

/-- The lines of an expansion are balanced together if its inputs are balanced. -/
theorem Expansion.balancedLines {inputs : Inputs}
    (h : inputs.Each fun f => Balanced (Phrase.fragmentText f)) (node : Node) (start : Nat)
    (expansion : Expansion) :
    Yields (expansion.block node inputs start) fun block =>
      Statement.BalancedLines block.statements := by
  have hskeletons : ∀ skeleton ∈ skeletons,
      Balanced (Statement.linesText 0 skeleton.2.statements) := by decide +kernel
  have hnormal : Balanced (Phrase.fragmentText (.text Builtin.worldNormal)) := by decide
  have huv : Balanced (Phrase.fragmentText (.text Builtin.uv)) := by decide
  intro block hblock index
  obtain ⟨skeleton, hmem, args, -, hargs, rfl⟩ :=
    expansion.filled_block h hnormal huv node start block hblock
  rw [Balanced, Block.fill, Statement.awaitedAfter_linesText_fill hargs start _ index 0]
  exact hskeletons skeleton hmem

/-! ### Rules -/

/-- Balanced texts with a balanced separator between them are balanced. -/
theorem balanced_intercalate {separator : List Char} (hseparator : Balanced separator)
    {parts : List (List Char)} (h : ∀ part ∈ parts, Balanced part) :
    Balanced (separator.intercalate parts) := by
  induction parts with
  | nil => rfl
  | cons part rest ih =>
    have hpart := h part List.mem_cons_self
    have hrest := ih fun other hother => h other (List.mem_cons_of_mem _ hother)
    cases rest with
    | nil => simpa using hpart
    | cons next others =>
      rw [List.intercalate_cons_cons]
      exact (hpart.append hseparator).append hrest

/-- The lines of a node are balanced together if its inputs and the names of its outputs are
balanced. -/
theorem Node.balancedLines {inputs : Inputs}
    (h : inputs.Each fun f => Balanced (Phrase.fragmentText f)) (node : Node) (start : Nat)
    (kind : NodeKind) {type : NodeType}
    (hnames : ∀ output ∈ type.outputs, Balanced output.id.toList) :
    Yields (node.block kind type inputs start) fun block =>
      Statement.BalancedLines block.statements := by
  have hmain := Yields.any (type.mainOutput kind)
  have hnone : Statement.BalancedLines [] := fun _ => rfl
  have htype (t : PortType) : Balanced t.shaderType.toList := by cases t <;> decide
  have hrender {f : Fragment} (hf : Balanced (Phrase.fragmentText f)) :
      Balanced (Phrase.render [f]) := by
    simpa [Phrase.render] using hf
  have hsingle {t : Option String} {value : Phrase} (ht : ∀ name ∈ t, Balanced name.toList)
      (hvalue : Balanced value.render) :
      Statement.BalancedLines [.declare .fixed t value] := by
    apply Statement.balancedLines_of_forall
    intro s hs index
    obtain rfl := List.mem_singleton.mp hs
    exact Statement.balanced_declare ht hvalue .fixed index
  have harguments (name : String) (hname : Balanced name.toList) :
      Balanced (Phrase.render (Phrase.join [name, "(", inputs.arguments, ")"])) := by
    rw [Phrase.render_applied, Inputs.render_arguments]
    apply hname.append
    apply Balanced.bracketed
    apply balanced_intercalate (by decide)
    intro part hpart
    obtain ⟨input, hinput, rfl⟩ := List.mem_map.mp hpart
    obtain ⟨f, hf, hbalanced⟩ := h input hinput
    rw [hf]
    exact hrender hbalanced
  unfold Node.block
  cases hemission : kind.emission with
  | output | placeholder => exact Yields.ok hnone
  | source expression => exact Yields.bind hmain fun output _ => Yields.ok hnone
  | constant =>
    refine Yields.bind (Yields.any _) fun literal _ => ?_
    exact Yields.bind hmain fun output _ => Yields.ok hnone
  | binary op =>
    have hspace : Balanced [' '] := by decide
    have hsymbol := (kind.enclosed_texts op.symbol (by simp [hemission, Emission.texts])).balanced
    refine Yields.bind hmain fun output _ => ?_
    refine h.bind_phrase fun a ha => h.bind_phrase fun b hb => Yields.ok ?_
    refine hsingle (by simp) ?_
    rw [Phrase.render_operation]
    exact (hrender ha).append (hspace.append (hsymbol.append (hspace.append (hrender hb))))
  | call function =>
    have hfunction := (kind.enclosed_texts function (by simp [hemission, Emission.texts])).balanced
    refine Yields.bind hmain fun output _ => Yields.ok ?_
    exact hsingle (by simp [htype]) (harguments function hfunction)
  | compose =>
    refine Yields.bind hmain fun output _ => Yields.ok ?_
    exact hsingle (by simp) (harguments _ (htype output.type))
  | decompose =>
    refine h.bind_phrase fun vector hvector => Yields.ok ?_
    apply Statement.balancedLines_of_forall
    intro s hs index
    obtain ⟨output, houtput, rfl⟩ := List.mem_map.mp hs
    have hpoint : Balanced ['.'] := by decide
    apply Statement.balanced_declare (by simp [htype])
    rw [Phrase.render_component]
    exact (hrender hvector).append (hpoint.append (hnames output houtput))
  | expand expansion =>
    refine Yields.bind (expansion.balancedLines h node start) fun block hblock => ?_
    exact Yields.ok hblock

/-! ### The shader -/

/-- A catalog in which the names of outputs are balanced. -/
def Catalog.BalancedNames (catalog : Catalog) : Prop :=
  ∀ kind type, catalog.find? kind = some type →
    ∀ output ∈ type.outputs, Balanced output.id.toList

/-- The names of outputs in the standard catalog are balanced. -/
theorem Catalog.balancedNames_standard : standard.BalancedNames := by
  have hall : ∀ type ∈ standardTypes, ∀ output ∈ type.outputs, Balanced output.id.toList := by
    decide +kernel
  intro kind type htype
  exact hall type (mem_standardTypes_of_find? htype).1

namespace Generation

variable {g : Graph} {catalog : Catalog} {generation next final : Generation}

/-- A generation whose lines are balanced together and whose outputs are bound to operands. -/
structure Grouped (catalog : Catalog) (generation : Generation) : Prop where
  lines : Statement.BalancedLines generation.statements
  references : generation.references.Each (Fragment.Operand catalog)

/-- Adding a node adds balanced lines and binds its outputs to operands. -/
theorem Grouped.add (hcatalog : catalog.BalancedNames) {node : Node}
    (h : generation.Grouped catalog) (hadd : generation.add g catalog node = .ok next) :
    next.Grouped catalog := by
  refine ⟨?_, operand_add h.references hadd⟩
  obtain ⟨block, hblock, rfl⟩ := add_eq_ok_iff.mp hadd
  apply h.lines.append
  unfold Node.contribution at hblock
  split at hblock
  · next kind type _ htype =>
    have hinputs : (Inputs.ofNode g generation.references node.id type).Each
        fun f => Balanced (Phrase.fragmentText f) := by
      intro input hinput
      obtain ⟨f, hf, hoperand⟩ := operand_inputs h.references g node.id htype input hinput
      exact ⟨f, hf, hoperand.enclosed.balanced⟩
    exact node.balancedLines hinputs _ kind (hcatalog node.kind type htype) block hblock
  · obtain rfl := Except.ok.inj hblock
    exact fun _ => rfl

/-- Whatever has been generated has balanced lines and outputs that are bound to operands. -/
theorem grouped_addAll (hcatalog : catalog.BalancedNames) {nodes : List Node}
    (hall : start.addAll g catalog nodes = .ok final) : final.Grouped catalog := by
  have hstart : start.Grouped catalog := ⟨fun _ => rfl, by simp [start, References.Each]⟩
  exact addAll_invariant (Grouped.add hcatalog) hstart hall

end Generation

namespace Template

/-- A block is balanced if its lines are. -/
theorem balanced_renderBlock {lines : List String} (h : Balanced (lines.flatMap renderLine)) :
    Balanced (renderBlock lines) := by
  have hnewline : Balanced ['\n'] := by decide
  cases lines with
  | nil => rfl
  | cons line rest => exact hnewline.append h

/-- The text before the slots leaves a brace open. -/
theorem awaitedAfter_before : awaitedAfter [] before.toList = some ['\x7d'] := by
  delta before
  repeat rewrite [String.toList_append]
  decide +kernel

/-- The text after the slots closes it. -/
theorem awaitedAfter_after : awaitedAfter ['\x7d'] after.toList = some [] := by
  delta after
  repeat rewrite [String.toList_append]
  decide +kernel

/-- Balanced blocks between the texts before and after the slots make a balanced shader. -/
theorem balanced_blocks {statements assignments : List String}
    (hstatements : Balanced (statements.flatMap renderLine))
    (hassignments : Balanced (assignments.flatMap renderLine)) :
    Balanced (before ++ blockText statements ++ blockText assignments ++ after).toList := by
  rw [Balanced, String.toList_append, String.toList_append, String.toList_append,
    toList_blockText, toList_blockText, awaitedAfter_append, awaitedAfter_append,
    awaitedAfter_append, awaitedAfter_before, Option.bind_some,
    (balanced_renderBlock hstatements).awaitedAfter_eq, Option.bind_some,
    (balanced_renderBlock hassignments).awaitedAfter_eq, Option.bind_some]
  exact awaitedAfter_after

end Template

namespace Graph

variable {g : Graph} {catalog : Catalog} {generation : Generation}

/-- The lines of the assignments are balanced if the references are to operands. -/
theorem balanced_assignmentLines (h : generation.references.Each (Fragment.Operand catalog))
    (g : Graph) (output : Node) :
    Balanced ((g.assignmentLines catalog generation.references output).flatMap
      Template.renderLine) := by
  apply Template.balanced_lines
  intro line hline
  obtain ⟨p, hp, rfl⟩ := List.mem_map.mp hline
  cases htype : catalog.find? output.kind with
  | none =>
    rw [htype] at hp
    cases hp
  | some type =>
    rw [htype] at hp
    obtain ⟨⟨port, resolved⟩, hinput, hassigned⟩ := List.mem_filterMap.mp hp
    have hvalue : Enclosed resolved.phrase.render :=
      (Generation.operand_inputs h g output.id htype _ hinput).enclosed
    obtain ⟨field, -, hfield⟩ := Option.bind_eq_some_iff.mp hassigned
    have htarget : Balanced field.target.toList := by cases field <;> decide
    have hequals : Balanced " = ".toList := by decide
    have hend : Balanced ";".toList := by decide
    split at hfield
    · cases hfield
    · obtain rfl := Option.some.inj hfield
      have htext : Balanced (String.ofList resolved.phrase.render).toList := by
        rw [String.toList_ofList]
        exact hvalue.balanced
      rw [field.render_assignment, String.toList_append, String.toList_append,
        String.toList_append]
      exact ((htarget.append hequals).append htext).append hend

end Graph

end MaterialGraph
