import Mathlib.Data.List.Basic
import MaterialGraph.Proofs.Failing
import MaterialGraph.Shader.Compile

/-!
# When a node has no block

Whether a node has a block is decided by its parameters and by the ports that the type of its kind
declares. A rule first looks at the parameters, if it reads them at all, and then reads ports one
after the other; the first thing that does not fit is the fault. What the inputs stand for and how
many variables there are already play no part.
-/

namespace MaterialGraph

/-- A port that a rule reads from the type of its kind. -/
inductive PortNeed where
  | mainOutput
  | input (port : PortId)
deriving DecidableEq

/-- The fault of a type that lacks a port. -/
def PortNeed.fault? (kind : NodeKind) (type : NodeType) : PortNeed → Option CompileError
  | mainOutput => if type.outputs = [] then some (.missingPort kind "<output>") else none
  | input port =>
    if port ∈ type.inputs.map Port.id then none else some (.missingPort kind port)

/-- The inputs that an expansion reads, in order. -/
def Expansion.inputNames : Expansion → List PortId
  | fresnel => ["normal", "power"]
  | noise | voronoi => ["uv", "scale"]
  | hsvToRgb => ["hue", "saturation", "value"]
  | rgbToHsv => ["rgb"]
  | colorRamp => ["factor", "color_a", "color_b"]

/-- The ports that the rules of a family read, in order. -/
def Emission.needs : Emission → List PortNeed
  | output | placeholder => []
  | source _ | constant | call _ | compose => [.mainOutput]
  | binary _ => [.mainOutput, .input "a", .input "b"]
  | decompose => [.input "vector"]
  | expand expansion => expansion.inputNames.map .input

/-- The fault of parameters of another shape than a kind takes. -/
def shapeFault? (id : NodeId) (kind : NodeKind) (params : Params) : Option CompileError :=
  if params.shape = kind.paramShape then none
  else some (.invalidParameters id kind kind.paramShape params.shape)

/-- The fault of the parameters of a node, if its kind reads them. -/
def paramsFault? (id : NodeId) (kind : NodeKind) (params : Params) : Option CompileError :=
  match kind.emission with
  | .constant =>
    (shapeFault? id kind params).or
      (if params.isFinite then none else some (.nonFiniteLiteral id kind))
  | .expand .colorRamp => shapeFault? id kind params
  | _ => none

/-- The fault of the first port in a list that a type lacks. -/
def missingFault? (kind : NodeKind) (type : NodeType) : List PortNeed → Option CompileError
  | [] => none
  | need :: rest => (need.fault? kind type).or (missingFault? kind type rest)

/-- The fault for which a node has no block, given the type of its kind in a catalog. -/
def emissionFault? (id : NodeId) (kind : String) (params : Params) (type : Option NodeType) :
    Option CompileError :=
  match NodeKind.ofId? kind, type with
  | some kind, some type =>
    (paramsFault? id kind params).or (missingFault? kind type kind.emission.needs)
  | _, _ => none

section Rules

variable {inputs : Inputs} {type : NodeType}

/-- Reading an input fails exactly when it is not declared. -/
theorem faultOf_get (kind : NodeKind) (port : PortId)
    (h : inputs.map Prod.fst = type.inputs.map Port.id) :
    faultOf (inputs.get kind port) = (PortNeed.input port).fault? kind type := by
  simp only [Inputs.get, PortNeed.fault?]
  rw [← h]
  cases hlookup : inputs.lookup port with
  | none =>
    have hmem : port ∉ inputs.map Prod.fst := by
      intro hmem
      obtain ⟨entry, hentry, rfl⟩ := List.mem_map.mp hmem
      simpa using List.lookup_eq_none_iff.mp hlookup entry hentry
    rw [if_neg hmem]
    rfl
  | some resolved =>
    obtain ⟨before, after, hsplit, -⟩ := List.lookup_eq_some_iff.mp hlookup
    have hmem : port ∈ inputs.map Prod.fst := by simp [hsplit]
    rw [if_pos hmem]
    rfl

/-- Reading the phrase of an input fails exactly when the input is not declared. -/
theorem faultOf_phrase (kind : NodeKind) (port : PortId)
    (h : inputs.map Prod.fst = type.inputs.map Port.id) :
    faultOf (inputs.phrase kind port) = (PortNeed.input port).fault? kind type := by
  rw [Inputs.phrase, faultOf_map, faultOf_get kind port h]

/-- Reading the phrase of an input with a stand-in fails exactly when the input is not declared. -/
theorem faultOf_phraseOr (kind : NodeKind) (port : PortId) (builtin : String)
    (h : inputs.map Prod.fst = type.inputs.map Port.id) :
    faultOf (inputs.phraseOr kind port builtin) = (PortNeed.input port).fault? kind type := by
  rw [Inputs.phraseOr, faultOf_map, faultOf_get kind port h]

/-- Reading the output fails exactly when there is none. -/
theorem faultOf_mainOutput (kind : NodeKind) :
    faultOf (type.mainOutput kind) = PortNeed.mainOutput.fault? kind type := by
  unfold NodeType.mainOutput PortNeed.fault?
  cases type.outputs with
  | nil => rfl
  | cons output rest => rfl

/-- The literal of a constant exists exactly when the parameters fit and are finite. -/
theorem faultOf_constantLiteral (node : Node) {kind : NodeKind} (h : kind.emission = .constant) :
    faultOf (node.constantLiteral kind) = paramsFault? node.id kind node.params := by
  -- Constants take parameters that hold a value, so parameters of their shape do.
  have hshape : ∀ params : Params, params.value? = none → params.shape ≠ kind.paramShape := by
    intro params hnone
    cases params with
    | constant value => simp [Params.value?] at hnone
    | none | colorRamp _ | texture _ =>
      cases kind <;> simp_all [NodeKind.emission, NodeKind.paramShape, Params.shape]
  simp only [Node.constantLiteral, paramsFault?, shapeFault?, h]
  cases node.params with
  | constant value =>
    change faultOf
        (if value.shape = kind.paramShape then
          if value.isFinite then .ok value.literal else .error (.nonFiniteLiteral node.id kind)
        else .error (.invalidParameters node.id kind kind.paramShape value.shape) :
          Except CompileError String) =
      Option.or
        (if value.shape = kind.paramShape then none
        else some (.invalidParameters node.id kind kind.paramShape value.shape))
        (if value.isFinite then none else some (.nonFiniteLiteral node.id kind))
    by_cases hfits : value.shape = kind.paramShape
    · rw [if_pos hfits, if_pos hfits, Option.none_or]
      cases value.isFinite with
      | true => rfl
      | false => rfl
    · rw [if_neg hfits, if_neg hfits]
      rfl
  | none | colorRamp _ | texture _ =>
    rw [if_neg (hshape _ rfl)]
    rfl

/-- An expansion fails with the fault of the parameters, or else with the first input that its type
does not declare. -/
theorem faultOf_expansion (node : Node) (expansion : Expansion) (start : Nat)
    (h : inputs.map Prod.fst = type.inputs.map Port.id) :
    faultOf (expansion.block node inputs start) =
      (paramsFault? node.id expansion.kind node.params).or
        (missingFault? expansion.kind type (expansion.inputNames.map .input)) := by
  have hread (port : PortId) := faultOf_phrase expansion.kind port h
  have hreadOr (port : PortId) (builtin : String) := faultOf_phraseOr expansion.kind port builtin h
  unfold Expansion.block
  cases expansion with
  | fresnel | noise | voronoi =>
    rw [faultOf_bind fun _ => faultOf_bind fun _ => faultOf_pure _, hreadOr, hread]
    rfl
  | hsvToRgb =>
    rw [faultOf_bind fun _ => faultOf_bind fun _ => faultOf_bind fun _ => faultOf_pure _, hread,
      hread, hread]
    rfl
  | rgbToHsv =>
    rw [faultOf_bind fun _ => faultOf_pure _, hread]
    rfl
  | colorRamp =>
    cases node.params with
    | colorRamp interpolation =>
      rw [faultOf_bind fun _ => faultOf_bind fun _ => faultOf_bind fun _ => faultOf_pure _, hread,
        hread, hread]
      rfl
    | none | texture _ => rfl
    | constant value => cases value <;> rfl

/-- The kind that expands in a given way is told by its expansion. -/
theorem kind_eq_of_emission {kind : NodeKind} {expansion : Expansion}
    (h : kind.emission = .expand expansion) : expansion.kind = kind := by
  cases kind <;> simp_all [NodeKind.emission] <;> subst h <;> rfl

/-- A node of a known kind fails with the fault of its parameters, or else with the first port that
the type of its kind does not declare. -/
theorem faultOf_block (node : Node) (kind : NodeKind) (start : Nat)
    (h : inputs.map Prod.fst = type.inputs.map Port.id) :
    faultOf (node.block kind type inputs start) =
      (paramsFault? node.id kind node.params).or (missingFault? kind type kind.emission.needs) := by
  have hread (port : PortId) := faultOf_phrase kind port h
  have houtput : faultOf (type.mainOutput kind) = _ := faultOf_mainOutput kind
  unfold Node.block
  cases hemission : kind.emission with
  | output | placeholder => simp [paramsFault?, hemission, Emission.needs, missingFault?, faultOf]
  | source expression | call function | compose =>
    simp only [paramsFault?, hemission]
    rw [faultOf_bind fun _ => faultOf_pure _, houtput]
    rfl
  | constant =>
    rw [faultOf_bind fun _ => faultOf_bind fun _ => faultOf_pure _, houtput,
      faultOf_constantLiteral node hemission]
    rfl
  | binary op =>
    simp only [paramsFault?, hemission]
    rw [faultOf_bind fun _ => faultOf_bind fun _ => faultOf_bind fun _ => faultOf_pure _, houtput,
      hread, hread]
    rfl
  | decompose =>
    simp only [paramsFault?, hemission]
    rw [faultOf_bind fun _ => faultOf_pure _, hread]
    rfl
  | expand expansion =>
    rw [faultOf_bind fun _ => faultOf_pure _, faultOf_expansion node expansion start h,
      kind_eq_of_emission hemission, Option.or_none]
    rfl

end Rules

/-- Whether a node can be added to a shader depends on the node and the type of its kind only. -/
theorem faultOf_add (g : Graph) (catalog : Catalog) (generation : Generation) (node : Node) :
    faultOf (generation.add g catalog node) =
      emissionFault? node.id node.kind node.params (catalog.find? node.kind) := by
  have hinputs (type : NodeType) :
      (Inputs.ofNode g generation.references node.id type).map Prod.fst =
        type.inputs.map Port.id := by
    rw [Inputs.ofNode, List.map_map]
    rfl
  rw [Generation.add, faultOf_map]
  unfold Node.contribution emissionFault? Node.kind?
  cases NodeKind.ofId? node.kind with
  | none => rfl
  | some kind =>
    cases catalog.find? node.kind with
    | none => rfl
    | some type => exact faultOf_block node kind _ (hinputs type)

/-- Adding nodes fails with the fault of the first node that has one. -/
theorem faultOf_addAll (g : Graph) (catalog : Catalog) (generation : Generation)
    (nodes : List Node) :
    faultOf (generation.addAll g catalog nodes) =
      nodes.findSome? fun node =>
        emissionFault? node.id node.kind node.params (catalog.find? node.kind) := by
  induction nodes generalizing generation with
  | nil => rfl
  | cons node rest ih =>
    rw [Generation.addAll, List.findSome?_cons, ← faultOf_add g catalog generation node]
    cases generation.add g catalog node with
    | error e => rfl
    | ok next => exact ih next

/-- Ports are missing for no other reason than that a type does not declare them. -/
theorem missingFault?_eq_some {kind : NodeKind} {type : NodeType} {needs : List PortNeed}
    {e : CompileError} (h : missingFault? kind type needs = some e) :
    ∃ port, e = .missingPort kind port := by
  induction needs with
  | nil => simp [missingFault?] at h
  | cons need rest ih =>
    rw [missingFault?, Option.or_eq_some_iff] at h
    rcases h with hneed | ⟨-, hrest⟩
    · cases need with
      | mainOutput =>
        simp only [PortNeed.fault?, Option.ite_none_right_eq_some, Option.some.injEq] at hneed
        exact ⟨_, hneed.2.symm⟩
      | input port =>
        simp only [PortNeed.fault?, Option.ite_none_left_eq_some, Option.some.injEq] at hneed
        exact ⟨_, hneed.2.symm⟩
    · exact ih hrest

/-- Parameters of another shape than a kind takes are named with both shapes. -/
theorem shapeFault?_eq_some_iff {id : NodeId} {kind : NodeKind} {params : Params}
    {e : CompileError} :
    shapeFault? id kind params = some e ↔
      params.shape ≠ kind.paramShape ∧
        e = .invalidParameters id kind kind.paramShape params.shape := by
  rw [shapeFault?, Option.ite_none_left_eq_some, Option.some.injEq]
  exact and_congr_right fun _ => eq_comm

/-- Parameters are at fault for the shape or a number of a constant, or the shape of a ramp. -/
theorem paramsFault?_eq_some_iff {id : NodeId} {kind : NodeKind} {params : Params}
    {e : CompileError} :
    paramsFault? id kind params = some e ↔
      (kind.emission = .constant ∧ params.shape ≠ kind.paramShape ∧
          e = .invalidParameters id kind kind.paramShape params.shape) ∨
        (kind.emission = .constant ∧ params.shape = kind.paramShape ∧ params.isFinite = false ∧
          e = .nonFiniteLiteral id kind) ∨
        (kind.emission = .expand .colorRamp ∧ params.shape ≠ kind.paramShape ∧
          e = .invalidParameters id kind kind.paramShape params.shape) := by
  unfold paramsFault?
  split
  · next hconstant =>
    rw [Option.or_eq_some_iff, shapeFault?_eq_some_iff]
    simp only [shapeFault?, hconstant, ite_eq_left_iff, reduceCtorEq, imp_false, not_not]
    by_cases hfinite : params.isFinite = true
    · simp [hfinite]
    · simp [hfinite, eq_comm]
  · next hramp => simp [shapeFault?_eq_some_iff, hramp]
  · next hconstant hramp =>
    have hnot : kind.emission ≠ .constant := hconstant
    have hnotRamp : kind.emission ≠ .expand .colorRamp := hramp
    simp [hnot, hnotRamp]

/-- The fault of a node is none of those of a whole graph. -/
theorem emissionFault?_ne {id : NodeId} {kind : String} {params : Params} {type : Option NodeType}
    {e : CompileError} (h : emissionFault? id kind params type = some e) :
    e ≠ .noOutputNode ∧ e ≠ .cyclicDependency := by
  unfold emissionFault? at h
  split at h
  · rw [Option.or_eq_some_iff, paramsFault?_eq_some_iff] at h
    rcases h with (⟨-, -, rfl⟩ | ⟨-, -, -, rfl⟩ | ⟨-, -, rfl⟩) | ⟨-, hmissing⟩
    · simp
    · simp
    · simp
    · obtain ⟨port, rfl⟩ := missingFault?_eq_some hmissing
      simp
  · contradiction

end MaterialGraph
