import Mathlib.Data.List.Basic
import MaterialGraph.Shader.Compile

/-!
# What a block does not depend on

The rule of a kind takes from a node its parameters if it is a constant or a color ramp, and its
identity for errors only. From the type of the kind it takes the ports, but none of the texts that
are there to be shown. So a node under another identity, in another place and with other parameters
that are not read has the same block, or the same error under the other identity, and this also with
a type that is presented in another way.
-/

namespace MaterialGraph

/-! ### Types without their texts -/

/-- A port without its label. -/
def Port.bare (p : Port) : Port :=
  { p with label := "" }

/-- A type without what is only shown: its name, category and description, and the labels of its
ports. -/
def NodeType.bare (type : NodeType) : NodeType :=
  { type with
    name := ""
    category := .input
    description := ""
    inputs := type.inputs.map Port.bare
    outputs := type.outputs.map Port.bare }

/-- The output of a single value is the same but for its label. -/
theorem NodeType.mainOutput_bare (type : NodeType) (kind : NodeKind) :
    type.bare.mainOutput kind = (type.mainOutput kind).map Port.bare := by
  unfold mainOutput bare
  cases type.outputs with
  | nil => rfl
  | cons output rest => rfl

/-- The same outputs are declared. -/
theorem Block.declaredOnly_bare (type : NodeType) (bindings : List (PortId × Phrase)) :
    declaredOnly type.bare bindings = declaredOnly type bindings := by
  unfold declaredOnly
  apply List.filter_congr
  intro binding _
  change ((type.outputs.map Port.bare).find? (·.id == binding.1)).isSome = _
  rw [List.find?_map, Option.isSome_map]
  rfl

/-- What follows the choice of the output may ignore its label. -/
theorem NodeType.mainOutput_bare_bind {α : Type} (type : NodeType) (kind : NodeKind)
    {next : Port → Except CompileError α} (h : ∀ output, next output.bare = next output) :
    type.bare.mainOutput kind >>= next = type.mainOutput kind >>= next := by
  rw [mainOutput_bare]
  cases type.mainOutput kind with
  | error e => rfl
  | ok output => exact h output

/-- A block does not depend on texts of the type. -/
theorem Node.block_bare (node : Node) (kind : NodeKind) (type : NodeType) (inputs : Inputs)
    (start : Nat) : node.block kind type.bare inputs start = node.block kind type inputs start := by
  unfold Node.block
  cases kind.emission with
  | output => rfl
  | source expression | call function | compose | binary op =>
    exact type.mainOutput_bare_bind kind fun _ => rfl
  | constant => exact bind_congr fun _ => type.mainOutput_bare_bind kind fun _ => rfl
  | decompose =>
    refine bind_congr fun vector => ?_
    simp only [NodeType.bare, List.map_map, List.zipIdx_map]
    rfl
  | expand expansion => simp only [Block.declaredOnly_bare]
  | placeholder =>
    simp only [NodeType.bare, List.map_map]
    rfl

/-- What the inputs of a node stand for does not depend on texts of the type. -/
theorem Inputs.ofNode_bare (g : Graph) (references : References) (node : NodeId)
    (type : NodeType) : ofNode g references node type.bare = ofNode g references node type := by
  rw [ofNode, ofNode, NodeType.bare, List.map_map]
  rfl

/-- The contribution of a node can be read off the type without its texts. -/
theorem Node.contribution_eq_bare (node : Node) (catalog : Catalog) (g : Graph)
    (references : References) (id : NodeId) (start : Nat) :
    node.contribution catalog (Inputs.ofNode g references id) start =
      match node.kind?, (catalog.find? node.kind).map NodeType.bare with
      | some kind, some type => node.block kind type (Inputs.ofNode g references id type) start
      | _, _ => .ok (.ofBindings []) := by
  unfold contribution
  cases node.kind? with
  | none => rfl
  | some kind =>
    cases catalog.find? node.kind with
    | none => rfl
    | some type =>
      change _ = node.block kind type.bare (Inputs.ofNode g references id type.bare) start
      rw [Inputs.ofNode_bare, node.block_bare]

/-- The assignments can be read off the type without its texts. -/
theorem MaterialField.assignments_bare (g : Graph) (references : References) (output : NodeId)
    (type : Option NodeType) :
    assignments g references output (type.map NodeType.bare) =
      assignments g references output type := by
  cases type with
  | none => rfl
  | some type => simp only [Option.map_some, assignments, Inputs.ofNode_bare]

/-! ### Nodes under other identities -/

/-- An error that names a node by another identity. -/
def CompileError.relabel (f : NodeId → NodeId) : CompileError → CompileError
  | noOutputNode => noOutputNode
  | cyclicDependency => cyclicDependency
  | invalidParameters node kind expected found => invalidParameters (f node) kind expected found
  | nonFiniteLiteral node kind => nonFiniteLiteral (f node) kind
  | missingPort kind port => missingPort kind port

/-- Whether the rule of a kind reads parameters: that of constants and that of color ramps do. -/
def NodeKind.readsParams (kind : NodeKind) : Bool :=
  kind.emission == .constant || kind == .colorRamp

/-- Parameters that differ in the asset of a texture at most. -/
def Params.SameButAsset : Params → Params → Prop
  | texture _, texture _ => True
  | p, q => p = q

/-- Parameters that differ in an asset at most are the same or those of two textures. -/
theorem Params.SameButAsset.eq_or {p q : Params} (h : p.SameButAsset q) :
    p = q ∨ ∃ a b, p = .texture a ∧ q = .texture b := by
  unfold SameButAsset at h
  split at h
  · exact Or.inr ⟨_, _, rfl, rfl⟩
  · exact Or.inl h

/-- A node of the same kind under another identity, with the same parameters if they are read. -/
structure Node.Relabeled (f : NodeId → NodeId) (n m : Node) : Prop where
  id : m.id = f n.id
  kind : m.kind = n.kind
  params : ∀ kind, n.kind? = some kind → kind.readsParams = true → n.params.SameButAsset m.params

section Errors

variable (f : NodeId → NodeId)

/-- The error of a sequence is renamed where it arises. -/
theorem mapError_bind {α β : Type} (x : Except CompileError α) (next : α → Except CompileError β) :
    (x >>= next).mapError (CompileError.relabel f) =
      x.mapError (CompileError.relabel f) >>= fun a =>
        (next a).mapError (CompileError.relabel f) := by
  cases x with
  | error e => rfl
  | ok a => rfl

/-- A result has no error to rename. -/
theorem mapError_pure {α : Type} (a : α) :
    (pure a : Except CompileError α).mapError (CompileError.relabel f) = pure a :=
  rfl

/-- A port that is missing is not missing in a single node. -/
theorem mapError_phrase (inputs : Inputs) (kind : NodeKind) (port : PortId) :
    (inputs.phrase kind port).mapError (CompileError.relabel f) = inputs.phrase kind port := by
  unfold Inputs.phrase Inputs.get
  cases inputs.lookup port with
  | none => rfl
  | some resolved => rfl

/-- A port that is missing is not missing in a single node, with a stand-in either. -/
theorem mapError_phraseOr (inputs : Inputs) (kind : NodeKind) (port : PortId) (builtin : String) :
    (inputs.phraseOr kind port builtin).mapError (CompileError.relabel f) =
      inputs.phraseOr kind port builtin := by
  unfold Inputs.phraseOr Inputs.get
  cases inputs.lookup port with
  | none => rfl
  | some resolved => rfl

/-- An output that is missing is not missing in a single node. -/
theorem mapError_mainOutput (type : NodeType) (kind : NodeKind) :
    (type.mainOutput kind).mapError (CompileError.relabel f) = type.mainOutput kind := by
  unfold NodeType.mainOutput
  cases type.outputs with
  | nil => rfl
  | cons output rest => rfl

end Errors

namespace Node.Relabeled

variable {f : NodeId → NodeId} {n m : Node} (h : n.Relabeled f m)

include h

/-- The nodes have the same kind. -/
theorem kind?_eq : m.kind? = n.kind? := by
  rw [Node.kind?, Node.kind?, h.kind]

/-- One is an output node if the other is. -/
theorem isOutput_eq : m.isOutput = n.isOutput := by
  rw [Node.isOutput, Node.isOutput, h.kind?_eq]

/-- A constant has the same literal, or the same fault under the other identity. -/
theorem constantLiteral_eq {kind : NodeKind} (hparams : n.params.SameButAsset m.params) :
    m.constantLiteral kind = (n.constantLiteral kind).mapError (CompileError.relabel f) := by
  unfold Node.constantLiteral
  rw [h.id]
  rcases hparams.eq_or with hsame | ⟨a, b, hn, hm⟩
  · rw [← hsame]
    cases n.params with
    | constant value =>
      change (if value.shape = kind.paramShape then _ else _) =
        Except.mapError _ (if value.shape = kind.paramShape then _ else _)
      split
      · split <;> rfl
      · rfl
    | none | colorRamp _ | texture _ => rfl
  · rw [hn, hm]
    rfl

/-- An expansion has the same block, or the same fault under the other identity. -/
theorem expansion_eq {expansion : Expansion}
    (hparams : expansion = .colorRamp → n.params.SameButAsset m.params) (inputs : Inputs)
    (start : Nat) :
    expansion.block m inputs start =
      (expansion.block n inputs start).mapError (CompileError.relabel f) := by
  unfold Expansion.block
  cases expansion with
  | fresnel | noise | voronoi | hsvToRgb | rgbToHsv =>
    simp only [mapError_bind, mapError_phrase, mapError_phraseOr, mapError_pure]
  | colorRamp =>
    rcases (hparams rfl).eq_or with hsame | ⟨a, b, hn, hm⟩
    · rw [← hsame]
      cases n.params with
      | colorRamp interpolation => simp only [mapError_bind, mapError_phrase, mapError_pure]
      | none | constant _ | texture _ =>
        rw [h.id]
        rfl
    · rw [hn, hm, h.id]
      rfl

/-- A node has the same block, or the same fault under the other identity. -/
theorem block_eq {kind : NodeKind} (hkind : n.kind? = some kind) (type : NodeType)
    (inputs : Inputs) (start : Nat) :
    m.block kind type inputs start =
      (n.block kind type inputs start).mapError (CompileError.relabel f) := by
  have hparams := h.params kind hkind
  unfold Node.block
  cases hemission : kind.emission with
  | output | placeholder => rfl
  | source expression | call function | compose | binary op | decompose =>
    simp only [mapError_bind, mapError_mainOutput, mapError_phrase, mapError_pure]
  | constant =>
    have hread : kind.readsParams = true := by simp [NodeKind.readsParams, hemission]
    simp only [mapError_bind, mapError_mainOutput, mapError_pure,
      h.constantLiteral_eq (hparams hread)]
  | expand expansion =>
    have hread : expansion = .colorRamp → kind.readsParams = true := by
      rintro rfl
      cases kind <;> simp_all [NodeKind.emission, NodeKind.readsParams]
    simp only [mapError_bind, mapError_pure,
      h.expansion_eq (fun hramp => hparams (hread hramp)) inputs start]

end Node.Relabeled

end MaterialGraph
