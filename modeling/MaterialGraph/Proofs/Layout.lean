import MaterialGraph.Proofs.Assembly
import MaterialGraph.Proofs.SingleAssignment

/-!
# The layout of a shader

The texts that rules put into statements have no mark, and neither have operands, whatever values
are written into literals. Since a text put together from texts without a mark has none, no line of
a shader holds a slot. The shader is therefore the text before the slots, the statements, the
assignments and the text after the slots, and no slot is left in it.
-/

namespace MaterialGraph

/-! ### Literals -/

namespace PortValue

/-- The literal of a value has no brace. -/
theorem not_mem_literal (v : PortValue) : '\x7b' ∉ v.literal.toList := by
  have hconstruction (type : PortType) (xs : List Single) :
      '\x7b' ∉
        (type.shaderType ++ "(" ++ ", ".intercalate (xs.map componentText) ++ ")").toList := by
    have htype : '\x7b' ∉ type.shaderType.toList := by cases type <;> decide
    have hcomponents := not_mem_components (by decide : ¬ IsNumeralChar '\x7b') (by decide) xs
    simp only [String.toList_append, List.mem_append, htype, hcomponents]
    decide
  cases v with
  | float x =>
    have htext : (literal (float x)).toList = x.fixed 4 := String.toList_ofList
    rw [htext]
    exact fun h => absurd (isNumeralChar_of_mem_fixed h) (by decide)
  | vec2 | vec3 | vec4 | color => exact hconstruction _ _

end PortValue

/-- The literal that stands for an input that nothing feeds has no mark. -/
theorem Port.unmarked_defaultLiteral (port : Port) : Unmarked port.defaultLiteral.toList := by
  unfold Port.defaultLiteral
  cases port.default with
  | some v => exact unmarked_of_not_mem v.not_mem_literal
  | none => cases port.type <;> decide

/-- The name of a variable has no mark. -/
theorem Phrase.unmarked_variableName (index : Nat) : Unmarked (variableName index) := by
  apply unmarked_of_not_mem
  intro h
  rcases List.mem_append.mp h with hletter | hdigit
  · exact absurd hletter (by decide)
  · exact absurd (isDigit_of_mem_digitsOf hdigit) (by decide)

/-! ### Phrases -/

/-- A fragment whose text has no mark. -/
def Fragment.Unmarked : Fragment → Prop
  | text s => MaterialGraph.Unmarked s.toList
  | .variable _ => True

instance : DecidablePred Fragment.Unmarked
  | .text s => inferInstanceAs (Decidable (MaterialGraph.Unmarked s.toList))
  | .variable _ => isTrue trivial

/-- A phrase whose fragments have no mark. -/
def Phrase.Unmarked (p : Phrase) : Prop :=
  ∀ f ∈ p, f.Unmarked

instance (p : Phrase) : Decidable p.Unmarked :=
  inferInstanceAs (Decidable (∀ f ∈ p, f.Unmarked))

namespace Phrase

/-- A fragment without a mark is such a phrase. -/
theorem unmarked_singleton {f : Fragment} (h : f.Unmarked) : Unmarked [f] := by
  simpa [Unmarked] using h

/-- So is a phrase that is known to be a single fragment without a mark. -/
theorem unmarked_of_single {p : Phrase} (h : p.Single Fragment.Unmarked) : p.Unmarked := by
  obtain ⟨f, rfl, hf⟩ := h
  exact unmarked_singleton hf

/-- Phrases without a mark have none one after the other. -/
theorem unmarked_join {parts : List Phrase} (h : ∀ p ∈ parts, p.Unmarked) :
    (join parts).Unmarked := by
  intro f hf
  obtain ⟨p, hp, hmem⟩ := List.mem_flatten.mp hf
  exact h p hp f hmem

/-- A phrase in brackets after the name of what it is given to has no mark if neither has one. -/
theorem unmarked_applied {name : String} {p : Phrase} (hname : Fragment.Unmarked (.text name))
    (hp : p.Unmarked) : (join [name, "(", p, ")"]).Unmarked := by
  have hopen : Unmarked [.text "("] := by decide
  have hclose : Unmarked [.text ")"] := by decide
  apply unmarked_join
  simp [unmarked_singleton hname, hopen, hp, hclose]

/-- An operation between operands without a mark has none. -/
theorem unmarked_operation {a b : Fragment} (ha : a.Unmarked) (hb : b.Unmarked) {symbol : String}
    (hsymbol : Fragment.Unmarked (.text symbol)) :
    (join [[a], " ", symbol, " ", [b]]).Unmarked := by
  have hspace : Unmarked [.text " "] := by decide
  apply unmarked_join
  simp [unmarked_singleton ha, unmarked_singleton hb, unmarked_singleton hsymbol, hspace]

/-- A component of a fragment has no mark if neither the fragment nor its name has one. -/
theorem unmarked_component {f : Fragment} (hf : f.Unmarked) {name : String}
    (hname : Fragment.Unmarked (.text name)) : (join [[f], ".", name]).Unmarked := by
  have hpoint : Unmarked [.text "."] := by decide
  apply unmarked_join
  simp [unmarked_singleton hf, unmarked_singleton hname, hpoint]

/-- Phrases without a mark have none with a separator between them. -/
theorem unmarked_separate {separator : String} (hs : MaterialGraph.Unmarked separator.toList)
    {parts : List Phrase} (h : ∀ p ∈ parts, p.Unmarked) :
    (separate separator parts).Unmarked := by
  induction parts with
  | nil => simp [separate, Unmarked]
  | cons part rest ih =>
    have hpart := h part List.mem_cons_self
    have hrest := ih fun p hp => h p (List.mem_cons_of_mem _ hp)
    cases rest with
    | nil => exact hpart
    | cons next others =>
      intro f hf
      rw [separate, List.mem_append, List.mem_cons] at hf
      · rcases hf with hf | rfl | hf
        · exact hpart f hf
        · exact hs
        · exact hrest f hf
      · simp

/-- The characters of a phrase without a mark have none. -/
theorem Unmarked.render {p : Phrase} (h : p.Unmarked) : MaterialGraph.Unmarked p.render := by
  induction p with
  | nil => decide
  | cons f rest ih =>
    have hrest := ih fun other hother => h other (List.mem_cons_of_mem _ hother)
    have hf : MaterialGraph.Unmarked (fragmentText f) := by
      cases f with
      | text s => exact h (.text s) List.mem_cons_self
      | «variable» index => exact unmarked_variableName index
    exact hf.append hrest

end Phrase

/-! ### Statements -/

/-- A statement whose texts have no mark. -/
def Statement.Unmarked : Statement → Prop
  | declare _ type value => (∀ t ∈ type.toList, MaterialGraph.Unmarked t.toList) ∧ value.Unmarked
  | line text => text.Unmarked

instance : DecidablePred Statement.Unmarked
  | .declare _ type value => inferInstanceAs
    (Decidable ((∀ t ∈ type.toList, MaterialGraph.Unmarked t.toList) ∧ value.Unmarked))
  | .line text => inferInstanceAs (Decidable text.Unmarked)

namespace Statement

/-- The text of a statement without a mark has none. -/
theorem Unmarked.render {s : Statement} (h : s.Unmarked) (index : Nat) :
    MaterialGraph.Unmarked (s.render index) := by
  cases s with
  | line text => exact Phrase.Unmarked.render h
  | declare storage type value =>
    have hkeyword : MaterialGraph.Unmarked storage.keyword.toList := by
      cases storage <;> decide
    have hspace : MaterialGraph.Unmarked [' '] := by decide
    have hcolon : MaterialGraph.Unmarked [':', ' '] := by decide
    have hequals : MaterialGraph.Unmarked " = ".toList := by decide
    have hend : MaterialGraph.Unmarked [';'] := by decide
    have htype : MaterialGraph.Unmarked (type.elim [] fun t => ':' :: ' ' :: t.toList) := by
      cases type with
      | none => decide
      | some t => exact hcolon.append (h.1 t (by simp))
    have hname := hspace.append (Phrase.unmarked_variableName index)
    exact ((((hkeyword.append hname).append htype).append hequals).append h.2.render).append hend

/-- The lines of statements without a mark have none. -/
theorem unmarked_of_mem_renderAll {statements : List Statement}
    (h : ∀ s ∈ statements, s.Unmarked) {index : Nat} {line : String}
    (hline : line ∈ renderAll index statements) : MaterialGraph.Unmarked line.toList := by
  induction statements generalizing index with
  | nil => cases hline
  | cons s rest ih =>
    rcases List.mem_cons.mp hline with rfl | hrest
    · rw [String.toList_ofList]
      exact (h s List.mem_cons_self).render index
    · exact ih (fun other hother => h other (List.mem_cons_of_mem _ hother)) hrest

end Statement

/-- Filling a phrase without a mark with fragments that have none leaves none. -/
theorem Phrase.Unmarked.fill {args : List Fragment} (hargs : ∀ f ∈ args, f.Unmarked) (start : Nat)
    {p : Phrase} (h : p.Unmarked) : Phrase.Unmarked (p.map (Fragment.fill args start)) := by
  intro filled hfilled
  obtain ⟨f, hf, rfl⟩ := List.mem_map.mp hfilled
  cases f with
  | text s => exact h (.text s) hf
  | «variable» index =>
    rw [Fragment.fill]
    cases hi : args[index]? with
    | none => trivial
    | some f => exact hargs f (List.mem_of_getElem? hi)

/-- The same holds of a statement. -/
theorem Statement.Unmarked.fill {args : List Fragment} (hargs : ∀ f ∈ args, f.Unmarked)
    (start : Nat) {s : Statement} (h : s.Unmarked) : (s.fill args start).Unmarked := by
  cases s with
  | line text => exact Phrase.Unmarked.fill hargs start h
  | declare storage type value => exact ⟨h.1, Phrase.Unmarked.fill hargs start h.2⟩

/-! ### Rules -/

/-- The texts that the rule of a family puts into phrases. -/
def Emission.texts : Emission → List String
  | source expression => [expression]
  | call function => [function]
  | binary op => [op.symbol]
  | _ => []

/-- The texts of every kind have no mark. -/
theorem NodeKind.unmarked_texts (kind : NodeKind) :
    ∀ s ∈ kind.emission.texts, Unmarked s.toList := by
  cases kind <;> decide

/-- The name of a type has no mark. -/
theorem PortType.unmarked_shaderType (type : PortType) : Unmarked type.shaderType.toList := by
  cases type <;> decide

/-- An operand has no mark. -/
theorem Fragment.Operand.unmarked {catalog : Catalog} {f : Fragment} (h : f.Operand catalog) :
    f.Unmarked := by
  cases h with
  | declared index => trivial
  | @source kind expression hsource =>
    exact kind.unmarked_texts expression (by simp [hsource, Emission.texts])
  | @literal value _ => exact unmarked_of_not_mem value.not_mem_literal
  | placeholder type => cases type <;> decide
  | @unfed _ _ port _ _ => exact port.unmarked_defaultLiteral

section Rules

variable {inputs : Inputs} (h : inputs.Each Fragment.Unmarked) (node : Node) (start : Nat)

include h

/-- All inputs as arguments have no mark. -/
theorem Inputs.Each.unmarked_arguments : inputs.arguments.Unmarked := by
  apply Phrase.unmarked_separate (by decide)
  intro p hp
  obtain ⟨input, hinput, rfl⟩ := List.mem_map.mp hp
  exact Phrase.unmarked_of_single (h input hinput)

/-- The statements of an expansion have no mark if its inputs have none. -/
theorem Expansion.unmarked_statements (expansion : Expansion) :
    Yields (expansion.block node inputs start) fun block => ∀ s ∈ block.statements, s.Unmarked := by
  have hskeletons : ∀ skeleton ∈ skeletons, ∀ s ∈ skeleton.2.statements, s.Unmarked := by
    decide +kernel
  have hnormal : Fragment.Unmarked (.text Builtin.worldNormal) := by decide
  have huv : Fragment.Unmarked (.text Builtin.uv) := by decide
  intro block hblock s hs
  obtain ⟨skeleton, hmem, args, -, hargs, rfl⟩ :=
    expansion.filled_block h hnormal huv node start block hblock
  obtain ⟨hollow, hhollow, rfl⟩ := List.mem_map.mp hs
  exact (hskeletons skeleton hmem hollow hhollow).fill hargs start

/-- The statements of a node have no mark if its inputs and the names of its outputs have none. -/
theorem Node.unmarked_statements (kind : NodeKind) {type : NodeType}
    (hnames : ∀ output ∈ type.outputs, Unmarked output.id.toList) :
    Yields (node.block kind type inputs start) fun block => ∀ s ∈ block.statements, s.Unmarked := by
  have htexts := kind.unmarked_texts
  have hmain := Yields.any (type.mainOutput kind)
  have hnone {bindings : List (PortId × Phrase)} :
      ∀ s ∈ (Block.ofBindings bindings).statements, s.Unmarked := by
    simp [Block.ofBindings]
  have hsingle {t : Option String} {value : Phrase}
      (ht : ∀ name ∈ t.toList, Unmarked name.toList) (hvalue : value.Unmarked) :
      ∀ s ∈ [Statement.declare .fixed t value], s.Unmarked :=
    List.forall_mem_singleton.mpr ⟨ht, hvalue⟩
  have htype (t : PortType) : ∀ name ∈ (some t.shaderType).toList, Unmarked name.toList := by
    simp [t.unmarked_shaderType]
  unfold Node.block
  cases hemission : kind.emission with
  | output | placeholder => exact Yields.ok hnone
  | source expression => exact Yields.bind hmain fun output _ => Yields.ok hnone
  | constant =>
    refine Yields.bind (Yields.any _) fun literal _ => ?_
    exact Yields.bind hmain fun output _ => Yields.ok hnone
  | binary op =>
    have hsymbol := htexts op.symbol (by simp [hemission, Emission.texts])
    refine Yields.bind hmain fun output _ => ?_
    refine h.bind_phrase fun a ha => h.bind_phrase fun b hb => Yields.ok ?_
    exact hsingle (by simp) (Phrase.unmarked_operation ha hb hsymbol)
  | call function =>
    have hfunction := htexts function (by simp [hemission, Emission.texts])
    refine Yields.bind hmain fun output _ => Yields.ok ?_
    exact hsingle (htype output.type) (Phrase.unmarked_applied hfunction h.unmarked_arguments)
  | compose =>
    refine Yields.bind hmain fun output _ => Yields.ok ?_
    exact hsingle (by simp)
      (Phrase.unmarked_applied output.type.unmarked_shaderType h.unmarked_arguments)
  | decompose =>
    refine h.bind_phrase fun vector hvector => Yields.ok ?_
    intro s hs
    obtain ⟨output, houtput, rfl⟩ := List.mem_map.mp hs
    exact ⟨htype output.type, Phrase.unmarked_component hvector (hnames output houtput)⟩
  | expand expansion =>
    refine Yields.bind (expansion.unmarked_statements h node start) fun block hblock => ?_
    exact Yields.ok hblock

end Rules

/-! ### The shader -/

/-- A catalog in which the names of outputs have no mark. -/
def Catalog.Unmarked (catalog : Catalog) : Prop :=
  ∀ kind type, catalog.find? kind = some type →
    ∀ output ∈ type.outputs, MaterialGraph.Unmarked output.id.toList

/-- The names of outputs in the standard catalog have no mark. -/
theorem Catalog.unmarked_standard : standard.Unmarked := by
  have hall : ∀ type ∈ standardTypes, ∀ output ∈ type.outputs,
      MaterialGraph.Unmarked output.id.toList := by decide +kernel
  intro kind type htype
  exact hall type (mem_standardTypes_of_find? htype).1

/-- A generation whose statements have no mark and whose outputs are bound to operands. -/
structure Generation.Unmarked (catalog : Catalog) (generation : Generation) : Prop where
  statements : ∀ s ∈ generation.statements, s.Unmarked
  references : generation.references.Each (Fragment.Operand catalog)

namespace Generation

variable {g : Graph} {catalog : Catalog} {generation next final : Generation}

/-- The inputs of a node have no mark if the references are to operands. -/
theorem unmarked_inputs (h : generation.references.Each (Fragment.Operand catalog)) (g : Graph)
    (node : NodeId) {kind : String} {type : NodeType} (htype : catalog.find? kind = some type) :
    (Inputs.ofNode g generation.references node type).Each Fragment.Unmarked := by
  intro input hinput
  obtain ⟨f, hf, hoperand⟩ := operand_inputs h g node htype input hinput
  exact ⟨f, hf, hoperand.unmarked⟩

/-- Adding a node adds no mark. -/
theorem Unmarked.add (hcatalog : catalog.Unmarked) {node : Node} (h : generation.Unmarked catalog)
    (hadd : generation.add g catalog node = .ok next) : next.Unmarked catalog := by
  refine ⟨?_, operand_add h.references hadd⟩
  obtain ⟨block, hblock, rfl⟩ := add_eq_ok_iff.mp hadd
  have hnew : ∀ s ∈ block.statements, s.Unmarked := by
    unfold Node.contribution at hblock
    split at hblock
    · next kind type _ htype =>
      exact node.unmarked_statements (unmarked_inputs h.references g node.id htype) _ kind
        (hcatalog node.kind type htype) block hblock
    · obtain rfl := Except.ok.inj hblock
      simp [Block.ofBindings]
  intro s hs
  rcases List.mem_append.mp hs with hold | hs
  · exact h.statements s hold
  · exact hnew s hs

/-- No line of a generated shader has a mark. -/
theorem unmarked_addAll (hcatalog : catalog.Unmarked) {nodes : List Node}
    (hall : start.addAll g catalog nodes = .ok final) : final.Unmarked catalog :=
  addAll_invariant (Unmarked.add hcatalog)
    ⟨by simp [start], by simp [start, References.Each]⟩ hall

end Generation

namespace Graph

end Graph

end MaterialGraph
