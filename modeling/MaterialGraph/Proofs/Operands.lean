import MaterialGraph.Proofs.Generation
import MaterialGraph.Proofs.SoundBlock

/-!
# What inputs stand for and outputs are bound to

Every output is bound to a single fragment, so every input stands for one. It is an operand: a
variable, an expression that the shader already has, or a literal. An operand is never put together
from others, so what holds of the operands of a catalog holds of all that is ever looked up while a
shader is generated.

A rule reads its inputs by name, and a property of their fragments can be assumed of what it reads.
The block of an expansion is one of a few skeletons with these fragments in its holes.
-/

namespace MaterialGraph

/-! ### Inputs -/

/-- Inputs that all stand for single fragments with a property. -/
def Inputs.Each (P : Fragment → Prop) (inputs : Inputs) : Prop :=
  ∀ input ∈ inputs, input.2.phrase.Single P

namespace Inputs.Each

variable {P : Fragment → Prop} {inputs : Inputs} (h : inputs.Each P) {kind : NodeKind}
  {port : PortId} {β : Type} {f : Phrase → Except CompileError β} {R : β → Prop}

include h

/-- An input that a rule reads stands for a fragment with the property. -/
theorem get : Yields (inputs.get kind port) fun resolved => resolved.phrase.Single P := by
  unfold Inputs.get
  split
  · next found hfound =>
    obtain ⟨before, after, rfl, -⟩ := List.lookup_eq_some_iff.mp hfound
    exact Yields.ok (h (port, found) (by simp))
  · exact Yields.error _

/-- What a rule does with the phrase of an input need only be known for fragments with the
property. -/
theorem bind_phrase (hf : ∀ a : Fragment, P a → Yields (f [a]) R) :
    Yields (inputs.phrase kind port >>= f) R := by
  have hphrase : Yields (inputs.phrase kind port) (Phrase.Single P) :=
    Yields.map h.get fun _ hresolved => hresolved
  refine Yields.bind hphrase ?_
  rintro _ ⟨a, rfl, ha⟩
  exact hf a ha

/-- The same holds of an input that has an expression of the shader in its place. -/
theorem bind_phraseOr {builtin : String} (hbuiltin : P (.text builtin))
    (hf : ∀ a : Fragment, P a → Yields (f [a]) R) :
    Yields (inputs.phraseOr kind port builtin >>= f) R := by
  have hphrase : Yields (inputs.phraseOr kind port builtin) (Phrase.Single P) := by
    refine Yields.map h.get fun resolved hresolved => ?_
    split
    · exact hresolved
    · exact Phrase.single_singleton hbuiltin
  refine Yields.bind hphrase ?_
  rintro _ ⟨a, rfl, ha⟩
  exact hf a ha

end Inputs.Each

/-! ### References -/

/-- References that are all to single fragments with a property. -/
def References.Each (P : Fragment → Prop) (references : References) : Prop :=
  ∀ reference ∈ references, reference.2.Single P

namespace References.Each

variable {P : Fragment → Prop} {references : References} (h : references.Each P)

include h

/-- Binding outputs to fragments with the property keeps it. -/
theorem bind (node : NodeId) {bindings : List (PortId × Phrase)}
    (hbindings : ∀ binding ∈ bindings, binding.2.Single P) :
    (references.bind node bindings).Each P := by
  intro reference hreference
  rw [bind_eq, List.mem_append, List.mem_reverse, List.mem_map] at hreference
  rcases hreference with ⟨binding, hbinding, rfl⟩ | hreference
  · exact hbindings binding hbinding
  · exact h reference hreference

/-- The inputs of a node have the property if their default literals have it. -/
theorem inputs (g : Graph) (node : NodeId) {type : NodeType}
    (hdefault : ∀ port ∈ type.inputs, P (.text port.defaultLiteral)) :
    (Inputs.ofNode g references node type).Each P := by
  intro input hinput
  obtain ⟨port, hport, rfl⟩ := List.mem_map.mp hinput
  have hliteral := Phrase.single_singleton (hdefault port hport)
  change (g.resolve references node port).phrase.Single P
  unfold Graph.resolve
  split
  · next c _ =>
    cases hfound : references.lookup c.source with
    | none => exact hliteral
    | some phrase =>
      obtain ⟨before, after, rfl, -⟩ := List.lookup_eq_some_iff.mp hfound
      exact h (c.source, phrase) (by simp)
  · exact hliteral

end References.Each

/-! ### Expansions -/

namespace Expansion

/-- The blocks of expansions whose first variables are holes for the inputs, with the number of
holes. -/
def skeletons : List (Nat × Block) :=
  [(2, fresnelBlock 2 (.ofVariable 0) (.ofVariable 1)),
    (2, noiseBlock 2 (.ofVariable 0) (.ofVariable 1)),
    (2, voronoiBlock 2 (.ofVariable 0) (.ofVariable 1)),
    (3, hsvToRgbBlock 3 (.ofVariable 0) (.ofVariable 1) (.ofVariable 2)),
    (1, rgbToHsvBlock 1 (.ofVariable 0)),
    (3, colorRampBlock 3 .linear (.ofVariable 0) (.ofVariable 1) (.ofVariable 2)),
    (3, colorRampBlock 3 .ease (.ofVariable 0) (.ofVariable 1) (.ofVariable 2)),
    (3, colorRampBlock 3 .constant (.ofVariable 0) (.ofVariable 1) (.ofVariable 2))]

/-- A block that is a skeleton with fragments of a property in its holes. -/
def Filled (P : Fragment → Prop) (start : Nat) (block : Block) : Prop :=
  ∃ skeleton ∈ skeletons, ∃ args : List Fragment,
    args.length = skeleton.1 ∧ (∀ f ∈ args, P f) ∧ block = skeleton.2.fill args start

/-- The block of an expansion is a skeleton, filled with what its inputs stand for. -/
theorem filled_block {P : Fragment → Prop} {inputs : Inputs} (h : inputs.Each P)
    (hnormal : P (.text Builtin.worldNormal)) (huv : P (.text Builtin.uv)) (node : Node)
    (start : Nat) (expansion : Expansion) :
    Yields (expansion.block node inputs start) (Filled P start) := by
  unfold Expansion.block
  cases expansion with
  | fresnel =>
    refine h.bind_phraseOr hnormal fun normal hnormal => ?_
    refine h.bind_phrase fun power hpower => Yields.ok ?_
    exact ⟨(2, fresnelBlock 2 (.ofVariable 0) (.ofVariable 1)), by simp [skeletons],
      [normal, power], rfl, by simp [hnormal, hpower], rfl⟩
  | noise =>
    refine h.bind_phraseOr huv fun uv huv => ?_
    refine h.bind_phrase fun scale hscale => Yields.ok ?_
    exact ⟨(2, noiseBlock 2 (.ofVariable 0) (.ofVariable 1)), by simp [skeletons], [uv, scale],
      rfl, by simp [huv, hscale], rfl⟩
  | voronoi =>
    refine h.bind_phraseOr huv fun uv huv => ?_
    refine h.bind_phrase fun scale hscale => Yields.ok ?_
    exact ⟨(2, voronoiBlock 2 (.ofVariable 0) (.ofVariable 1)), by simp [skeletons], [uv, scale],
      rfl, by simp [huv, hscale], rfl⟩
  | hsvToRgb =>
    refine h.bind_phrase fun hue hhue => ?_
    refine h.bind_phrase fun saturation hsaturation => ?_
    refine h.bind_phrase fun value hvalue => Yields.ok ?_
    exact ⟨(3, hsvToRgbBlock 3 (.ofVariable 0) (.ofVariable 1) (.ofVariable 2)),
      by simp [skeletons], [hue, saturation, value], rfl, by simp [hhue, hsaturation, hvalue], rfl⟩
  | rgbToHsv =>
    refine h.bind_phrase fun rgb hrgb => Yields.ok ?_
    exact ⟨(1, rgbToHsvBlock 1 (.ofVariable 0)), by simp [skeletons], [rgb], rfl, by simp [hrgb],
      rfl⟩
  | colorRamp =>
    dsimp only
    split
    · next interpolation _ =>
      -- The interpolation is no input, so there is a skeleton for each.
      refine h.bind_phrase fun factor hfactor => ?_
      refine h.bind_phrase fun colorA hcolorA => ?_
      refine h.bind_phrase fun colorB hcolorB => Yields.ok ?_
      refine ⟨(3, colorRampBlock 3 interpolation (.ofVariable 0) (.ofVariable 1) (.ofVariable 2)),
        ?_, [factor, colorA, colorB], rfl, by simp [hfactor, hcolorA, hcolorB], ?_⟩
      · cases interpolation <;> simp [skeletons]
      · cases interpolation <;> rfl
    · exact Yields.error _

end Expansion

/-! ### Operands -/

/-- The fragments that inputs stand for under a catalog. -/
inductive Fragment.Operand (catalog : Catalog) : Fragment → Prop where
  | declared (index : Nat) : Operand catalog (.variable index)
  | source {kind : NodeKind} {expression : String} (h : kind.emission = .source expression) :
    Operand catalog (.text expression)
  | literal {value : PortValue} (h : value.isFinite = true) : Operand catalog (.text value.literal)
  | placeholder (type : PortType) : Operand catalog (.text type.placeholder)
  | unfed {kind : String} {type : NodeType} {port : Port} (htype : catalog.find? kind = some type)
    (hport : port ∈ type.inputs) : Operand catalog (.text port.defaultLiteral)

open Fragment (Operand)

/-- Whether a skeleton binds outputs to a fragment: to variables, or to the stand-in for a color. -/
def Fragment.isBound : Fragment → Bool
  | .variable _ => true
  | text s => s = PortType.color.placeholder

/-- Such a fragment is an operand if the holes are filled with operands. -/
theorem Fragment.Operand.fill {catalog : Catalog} {args : List Fragment}
    (h : ∀ f ∈ args, Operand catalog f) (start : Nat) {f : Fragment} (hf : f.isBound = true) :
    Operand catalog (f.fill args start) := by
  cases f with
  | text s =>
    obtain rfl : s = PortType.color.placeholder := of_decide_eq_true hf
    exact .placeholder .color
  | «variable» index =>
    rw [Fragment.fill]
    cases hi : args[index]? with
    | none => exact .declared _
    | some f => exact h f (List.mem_of_getElem? hi)

/-- The literal of a constant is that of a finite value. -/
theorem Node.isFinite_constantLiteral (node : Node) (kind : NodeKind) :
    Yields (node.constantLiteral kind) fun literal =>
      ∃ value : PortValue, value.isFinite = true ∧ literal = value.literal := by
  unfold Node.constantLiteral
  split
  · split
    · split
      · next value _ _ hfinite => exact Yields.ok ⟨value, hfinite, rfl⟩
      · exact Yields.error _
    · exact Yields.error _
  · exact Yields.error _

section Bindings

variable {catalog : Catalog} {inputs : Inputs} (h : inputs.Each (Operand catalog)) (node : Node)
  (start : Nat)

include h

/-- An expansion binds outputs to operands. -/
theorem Expansion.operand_bindings (expansion : Expansion) :
    Yields (expansion.block node inputs start) fun block =>
      ∀ binding ∈ block.bindings, binding.2.Single (Operand catalog) := by
  have hskeletons : ∀ skeleton ∈ skeletons, ∀ binding ∈ skeleton.2.bindings,
      binding.2.Single fun f => f.isBound = true := by decide +kernel
  have hnormal : NodeKind.vertexNormal.emission = .source Builtin.worldNormal := rfl
  have huv : NodeKind.uv.emission = .source Builtin.uv := rfl
  intro block hblock binding hbinding
  obtain ⟨skeleton, hmem, args, -, hargs, rfl⟩ :=
    expansion.filled_block h (.source hnormal) (.source huv) node start block hblock
  obtain ⟨⟨port, phrase⟩, hphrase, rfl⟩ := List.mem_map.mp hbinding
  obtain ⟨f, rfl, hf⟩ : phrase.Single _ := hskeletons skeleton hmem _ hphrase
  exact Phrase.single_singleton (Operand.fill hargs start hf)

/-- A node binds its outputs to operands. -/
theorem Node.operand_bindings (kind : NodeKind) (type : NodeType) :
    Yields (node.block kind type inputs start) fun block =>
      ∀ binding ∈ block.bindings, binding.2.Single (Operand catalog) := by
  have hsingle (port : PortId) {p : Phrase} (hp : p.Single (Operand catalog)) :
      ∀ binding ∈ [(port, p)], binding.2.Single (Operand catalog) := by
    simpa using hp
  have hvariable (index : Nat) : (Phrase.ofVariable index).Single (Operand catalog) :=
    Phrase.single_singleton (.declared index)
  unfold Node.block
  cases hemission : kind.emission with
  | output => exact Yields.ok (by simp [Block.ofBindings])
  | source expression =>
    refine Yields.bind (Yields.any _) fun output _ => Yields.ok ?_
    exact hsingle output.id (Phrase.single_singleton (.source hemission))
  | constant =>
    refine Yields.bind (node.isFinite_constantLiteral kind) ?_
    rintro _ ⟨value, hfinite, rfl⟩
    refine Yields.bind (Yields.any _) fun output _ => Yields.ok ?_
    exact hsingle output.id (Phrase.single_singleton (.literal hfinite))
  | binary op =>
    refine Yields.bind (Yields.any _) fun output _ => ?_
    refine Yields.bind (Yields.any _) fun a _ => ?_
    refine Yields.bind (Yields.any _) fun b _ => Yields.ok ?_
    exact hsingle output.id (hvariable start)
  | call | compose =>
    refine Yields.bind (Yields.any _) fun output _ => Yields.ok ?_
    exact hsingle output.id (hvariable start)
  | decompose =>
    refine Yields.bind (Yields.any _) fun vector _ => Yields.ok ?_
    intro binding hbinding
    obtain ⟨⟨output, i⟩, -, rfl⟩ := List.mem_map.mp hbinding
    exact hvariable (start + i)
  | expand expansion =>
    refine Yields.bind (expansion.operand_bindings h node start) fun block hblock => Yields.ok ?_
    exact fun binding hbinding => hblock binding (List.mem_filter.mp hbinding).1
  | placeholder =>
    refine Yields.ok ?_
    intro binding hbinding
    obtain ⟨output, -, rfl⟩ := List.mem_map.mp hbinding
    exact Phrase.single_singleton (.placeholder output.type)

end Bindings

namespace Generation

variable {g : Graph} {catalog : Catalog} {generation next : Generation}

/-- The inputs of a node stand for operands if the references are to operands. -/
theorem operand_inputs (h : generation.references.Each (Operand catalog)) (g : Graph)
    (node : NodeId) {kind : String} {type : NodeType} (htype : catalog.find? kind = some type) :
    (Inputs.ofNode g generation.references node type).Each (Operand catalog) :=
  h.inputs g node fun _ hport => .unfed htype hport

/-- Adding a node binds its outputs to operands. -/
theorem operand_add {node : Node} (h : generation.references.Each (Operand catalog))
    (hadd : generation.add g catalog node = .ok next) :
    next.references.Each (Operand catalog) := by
  obtain ⟨block, hblock, rfl⟩ := add_eq_ok_iff.mp hadd
  apply h.bind node.id
  unfold Node.contribution at hblock
  split at hblock
  · next kind type _ htype =>
    exact node.operand_bindings (operand_inputs h g node.id htype) _ kind type block hblock
  · obtain rfl := Except.ok.inj hblock
    simp [Block.ofBindings]

end Generation

end MaterialGraph
