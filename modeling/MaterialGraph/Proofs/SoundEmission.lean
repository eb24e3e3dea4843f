import MaterialGraph.Proofs.Operands
import MaterialGraph.Proofs.StandardCatalog

/-!
# Rules that use what is declared

Every rule that gives a block at all gives a sound one, provided that its inputs stand for sound
fragments. The names of outputs appear in the text only where a vector is taken apart, so a catalog
matters only through the names of these outputs, and those of the standard catalog name no variable.
-/

namespace MaterialGraph

/-! ### Inputs and expansions -/

/-- Inputs that all stand for atomic phrases. -/
def Inputs.Sound (bound : Nat) (inputs : Inputs) : Prop :=
  ∀ input ∈ inputs, input.2.phrase.Atomic bound

/-- All inputs as arguments are sound. -/
theorem Inputs.Sound.arguments {bound : Nat} {inputs : Inputs} (h : inputs.Sound bound) :
    inputs.arguments.Sound bound := by
  apply Phrase.sound_separate (by decide)
  intro p hp
  obtain ⟨input, hinput, rfl⟩ := List.mem_map.mp hp
  exact (h input hinput).sound

/-- The block of an expansion is sound if its inputs are. -/
theorem Expansion.sound_block {start : Nat} {inputs : Inputs} (h : inputs.Sound start) (node : Node)
    (expansion : Expansion) : Yields (expansion.block node inputs start) (Block.Sound start) := by
  have hskeletons : ∀ skeleton ∈ skeletons, skeleton.2.Sound skeleton.1 := by decide +kernel
  intro block hblock
  obtain ⟨⟨count, skeleton⟩, hmem, args, rfl, hargs, rfl⟩ :=
    expansion.filled_block h ⟨by decide, by decide⟩ ⟨by decide, by decide⟩ node start block hblock
  exact (hskeletons _ hmem).fill args hargs

/-! ### Families -/

/-- The texts that a family puts into its phrases name no variable. -/
def Emission.Plain : Emission → Prop
  | source expression => Fragment.Sound 0 (.text expression)
  | call function => Fragment.Sound 0 (.text function)
  | _ => True

/-- The texts of every kind name no variable. -/
theorem NodeKind.plain_emission (kind : NodeKind) : kind.emission.Plain := by
  cases kind <;> trivial

/-- A catalog in which the outputs of kinds that take vectors apart have names that name no
variable. -/
def Catalog.Plain (catalog : Catalog) : Prop :=
  ∀ kind : NodeKind, kind.emission = .decompose → ∀ type, catalog.find? kind.id = some type →
    ∀ output ∈ type.outputs, Fragment.Sound 0 (.text output.id)

/-- The literal of a constant names no variable. -/
theorem Node.sound_constantLiteral (node : Node) (kind : NodeKind) (bound : Nat) :
    Yields (node.constantLiteral kind) fun literal => Fragment.Sound bound (.text literal) := by
  intro literal hliteral
  obtain ⟨value, -, rfl⟩ := node.isFinite_constantLiteral kind literal hliteral
  exact value.sound_literal bound

/-- The declarations of the components of a vector are sound. -/
theorem Block.sound_components {start : Nat} {vector : Phrase} (hvector : vector.Sound start)
    {outputs : List Port} (h : ∀ output ∈ outputs, Fragment.Sound 0 (.text output.id)) :
    Block.Sound start
      ⟨outputs.map fun output => define output.type (Phrase.join [vector, ".", output.id]),
        outputs.zipIdx.map fun (output, i) => (output.id, Phrase.ofVariable (start + i))⟩ := by
  constructor
  · apply Statement.soundFrom_of_forall
    intro s hs
    obtain ⟨output, houtput, rfl⟩ := List.mem_map.mp hs
    have hname := (h output houtput).mono (Nat.zero_le start)
    exact ⟨by simp [PortType.variableWords_shaderType], Phrase.sound_component hvector hname⟩
  · intro binding hbinding
    obtain ⟨⟨output, i⟩, hi, rfl⟩ := List.mem_map.mp hbinding
    have hlt : i < outputs.length := by simpa using (List.mem_zipIdx hi).2.1
    rw [declared_map_define]
    exact Phrase.atomic_ofVariable (Nat.add_lt_add_left hlt start)

/-- The block of a node is sound if its inputs are. -/
theorem Node.sound_block {start : Nat} {inputs : Inputs} (h : inputs.Sound start) (node : Node)
    (kind : NodeKind) (type : NodeType)
    (hnames : kind.emission = .decompose →
      ∀ output ∈ type.outputs, Fragment.Sound 0 (.text output.id)) :
    Yields (node.block kind type inputs start) (Block.Sound start) := by
  have heach : inputs.Each (Fragment.Sound start) := h
  have hplain := kind.plain_emission
  have hmain := Yields.any (type.mainOutput kind)
  have htype (t : PortType) :
      ((some t.shaderType).all fun t => variableWords t.toList = []) = true := by
    simp [PortType.variableWords_shaderType]
  unfold Node.block
  cases hemission : kind.emission with
  | output => exact Yields.ok (Block.sound_ofBindings (by simp))
  | source expression =>
    have hexpression : Fragment.Sound 0 (.text expression) := by rwa [hemission] at hplain
    refine Yields.bind hmain fun output _ => Yields.ok (Block.sound_ofBindings ?_)
    simpa using Phrase.atomic_singleton (hexpression.mono (Nat.zero_le start))
  | constant =>
    refine Yields.bind (node.sound_constantLiteral kind start) fun literal hliteral => ?_
    refine Yields.bind hmain fun output _ => Yields.ok (Block.sound_ofBindings ?_)
    simpa using Phrase.atomic_singleton hliteral
  | binary op =>
    refine Yields.bind hmain fun output _ => ?_
    refine heach.bind_phrase fun a ha => heach.bind_phrase fun b hb => Yields.ok ?_
    apply Block.sound_single rfl
    exact Phrase.sound_operation (Phrase.atomic_singleton ha).sound
      (Phrase.atomic_singleton hb).sound op
  | call function =>
    have hfunction : Fragment.Sound 0 (.text function) := by rwa [hemission] at hplain
    refine Yields.bind hmain fun output _ => Yields.ok ?_
    apply Block.sound_single (htype output.type)
    exact Phrase.sound_applied (hfunction.mono (Nat.zero_le start)) h.arguments
  | decompose =>
    refine heach.bind_phrase fun vector hvector => Yields.ok ?_
    exact Block.sound_components (Phrase.atomic_singleton hvector).sound (hnames hemission)
  | compose =>
    refine Yields.bind hmain fun output _ => Yields.ok ?_
    apply Block.sound_single rfl
    exact Phrase.sound_applied (output.type.sound_shaderType start) h.arguments
  | expand expansion =>
    refine Yields.bind (expansion.sound_block h node) fun block hblock => ?_
    exact Yields.ok (hblock.declaredOnly type)
  | placeholder =>
    refine Yields.ok (Block.sound_ofBindings ?_)
    intro binding hbinding
    obtain ⟨output, -, rfl⟩ := List.mem_map.mp hbinding
    exact Phrase.atomic_singleton (output.type.sound_placeholder start)

/-- What a node contributes is sound if its inputs are. -/
theorem Node.sound_contribution {catalog : Catalog} (hcatalog : catalog.Plain) {start : Nat}
    {inputs : NodeType → Inputs} (h : ∀ type, (inputs type).Sound start) (node : Node) :
    Yields (node.contribution catalog inputs start) (Block.Sound start) := by
  unfold Node.contribution
  split
  · next kind type hkind htype =>
    apply Node.sound_block (h type)
    intro hemission
    rw [(NodeKind.ofId?_eq_some_iff node.kind kind).mp hkind] at htype
    exact hcatalog kind hemission type htype
  · exact Yields.ok (Block.sound_ofBindings (by simp))

namespace Catalog

/-- The standard catalog has only outputs whose names name no variable. -/
theorem plain_standard : standard.Plain := by
  have hall : ∀ type ∈ standardTypes, ∀ output ∈ type.outputs,
      Fragment.Sound 0 (.text output.id) := by decide +kernel
  intro kind _ type htype output houtput
  exact hall type (mem_standardTypes_of_find? htype).1 output houtput

end Catalog

end MaterialGraph
