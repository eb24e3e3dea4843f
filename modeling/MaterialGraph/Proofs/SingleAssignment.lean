import MaterialGraph.Proofs.FinalReferences
import MaterialGraph.Proofs.SoundEmission

/-!
# Variables are declared once and before they are used

While nodes are added, the statements stay sound and every output is bound to a fragment that names
declared variables only. What a node reads is bound before its block is made, so each block keeps
this. The lines of a shader therefore declare consecutive variables, each line uses variables of
lines before it, and the assignments use variables that some line declares.
-/

namespace MaterialGraph

/-- References that are all to atomic phrases. -/
def References.Sound (bound : Nat) (references : References) : Prop :=
  ∀ reference ∈ references, reference.2.Atomic bound

namespace References

/-- References are sound below any larger bound. -/
theorem Sound.mono {bound larger : Nat} {references : References} (h : references.Sound bound)
    (hle : bound ≤ larger) : references.Sound larger :=
  fun reference hreference => (h reference hreference).mono hle

/-- The inputs of a node are sound if the references are. -/
theorem Sound.inputs {bound : Nat} {references : References} (h : references.Sound bound)
    (g : Graph) (node : NodeId) (type : NodeType) :
    (Inputs.ofNode g references node type).Sound bound :=
  Each.inputs h g node fun port _ => port.sound_defaultLiteral bound

end References

/-- A generation whose statements use declared variables and whose outputs are bound to them. -/
structure Generation.Sound (generation : Generation) : Prop where
  statements : Statement.SoundFrom 0 generation.statements
  references : generation.references.Sound (Statement.declared generation.statements)

namespace Generation

variable {g : Graph} {catalog : Catalog} {generation next final : Generation}

theorem sound_start : start.Sound where
  statements := trivial
  references := by simp [start, References.Sound]

/-- Adding a node keeps a generation sound. -/
theorem Sound.add (hcatalog : catalog.Plain) {node : Node} (h : generation.Sound)
    (hadd : generation.add g catalog node = .ok next) : next.Sound := by
  obtain ⟨block, hblock, rfl⟩ := add_eq_ok_iff.mp hadd
  obtain ⟨hstatements, hbindings⟩ : block.Sound (Statement.declared generation.statements) :=
    node.sound_contribution hcatalog (h.references.inputs g node.id) block hblock
  constructor
  · rw [Statement.soundFrom_append, Nat.zero_add]
    exact ⟨h.statements, hstatements⟩
  · rw [Statement.declared_append]
    exact References.Each.bind (h.references.mono (Nat.le_add_right _ _)) node.id hbindings

/-- Adding nodes one after the other keeps a generation sound. -/
theorem Sound.addAll (hcatalog : catalog.Plain) (h : generation.Sound) {nodes : List Node}
    (hall : generation.addAll g catalog nodes = .ok final) : final.Sound :=
  addAll_invariant (Sound.add hcatalog) h hall

/-- The lines of a sound generation declare the variables of consecutive numbers from zero. -/
theorem Sound.declaredNames_lines (h : generation.Sound) :
    declaredNames generation.lines =
      (List.range (Statement.declared generation.statements)).map Phrase.variableName := by
  rw [List.range_eq_range']
  exact Statement.declaredNames_renderAll h.statements

end Generation

namespace MaterialField

/-- The assignment of a sound phrase is sound. -/
theorem sound_assignment {bound : Nat} {value : Phrase} (h : value.Sound bound)
    (field : MaterialField) : (field.assignment value).Sound bound := by
  have htarget : Fragment.Sound bound (.text field.target) := by
    cases field <;> exact ⟨by decide, by decide⟩
  have hclosed : Phrase.Sound bound (value ++ .text ";" :: []) :=
    h.between (Phrase.sound_nil bound) (by decide)
  exact (Phrase.atomic_singleton htarget).sound.between hclosed (by decide)

/-- The assignments of an output node are sound if the references are. -/
theorem sound_of_mem_assignments {bound : Nat} {references : References}
    (h : references.Sound bound) (g : Graph) (output : NodeId) (type : Option NodeType)
    {p : Phrase} (hp : p ∈ assignments g references output type) : p.Sound bound := by
  cases type with
  | none => cases hp
  | some type =>
    obtain ⟨⟨port, resolved⟩, hinput, hassigned⟩ := List.mem_filterMap.mp hp
    have hresolved : resolved.phrase.Atomic bound := h.inputs g output type _ hinput
    obtain ⟨field, -, hfield⟩ := Option.bind_eq_some_iff.mp hassigned
    split at hfield
    · cases hfield
    · obtain rfl := Option.some.inj hfield
      exact field.sound_assignment hresolved.sound

end MaterialField

/-- Lines that declare variables of consecutive numbers, each once and before it is used, and
assignments that use only these variables. -/
structure SingleAssignment (count : Nat) (lines assignments : List String) : Prop where
  declared : declaredNames lines = (List.range count).map Phrase.variableName
  once : (declaredNames lines).Nodup
  used : ∀ before line after, lines = before ++ line :: after →
    ∀ name ∈ usedNames line.toList, name ∈ declaredNames before
  assigned : ∀ line ∈ assignments, ∀ name ∈ variableWords line.toList, name ∈ declaredNames lines

namespace Graph

/-- The lines of a sound generation are in single-assignment form. -/
theorem singleAssignment_of_sound {generation : Generation} (h : generation.Sound) (g : Graph)
    (catalog : Catalog) (output : Node) :
    SingleAssignment (Statement.declared generation.statements) generation.lines
      (g.assignmentLines catalog generation.references output) := by
  have hdeclared := h.declaredNames_lines
  refine ⟨hdeclared, ?_, ?_, ?_⟩
  · rw [hdeclared]
    exact List.nodup_range.map Phrase.variableName_injective
  · intro before line after hsplit name hname
    rcases Statement.mem_declaredNames_of_used h.statements hsplit hname with ⟨i, hi, -⟩ | hmem
    · exact absurd hi (Nat.not_lt_zero i)
    · exact hmem
  · intro line hline name hname
    obtain ⟨p, hp, rfl⟩ := List.mem_map.mp hline
    have hsound := MaterialField.sound_of_mem_assignments h.references g output.id _ hp
    rw [String.toList_ofList, hsound.variableWords_render] at hname
    obtain ⟨i, hi, rfl⟩ := List.mem_map.mp hname
    rw [hdeclared]
    exact List.mem_map_of_mem (List.mem_range.mpr (hsound.lt_of_mem_indices hi))

/-- A shader from the standard catalog is in single-assignment form: its statements declare the
variables of consecutive numbers from zero, each once, a statement names besides only variables of
statements before it, and the assignments name only declared variables. -/
theorem compile_singleAssignment {g : Graph} {text : String}
    (h : g.compile Catalog.standard = .ok text) :
    ∃ output order generation, g.outputNode? = some output ∧ g.order? = some order ∧
      Generation.start.addAll g Catalog.standard (g.emitted output.id order) = .ok generation ∧
      text = Template.assemble generation.lines
        (g.assignmentLines Catalog.standard generation.references output) ∧
      SingleAssignment (Statement.declared generation.statements) generation.lines
        (g.assignmentLines Catalog.standard generation.references output) := by
  obtain ⟨output, order, generation, houtput, horder, hall, rfl⟩ := compile_eq_ok_iff.mp h
  have hsound := Generation.sound_start.addAll Catalog.plain_standard hall
  exact ⟨output, order, generation, houtput, horder, hall, rfl,
    singleAssignment_of_sound hsound g Catalog.standard output⟩

/-- The root of the distance to the nearest point of a cell, as the metallic field. -/
def rootOfDistance : Graph where
  id := numbered 0
  name := untitled
  nodes := .ofList
    [.ofKind (numbered 3) "pbr_output", .ofKind (numbered 2) "sqrt", .ofKind (numbered 1) "voronoi"]
  connections := .ofList
    [⟨numbered 10, ⟨numbered 1, "distance"⟩, ⟨numbered 2, "value"⟩⟩,
      ⟨numbered 11, ⟨numbered 2, "result"⟩, ⟨numbered 3, "metallic"⟩⟩]

/-- The statements of the root of the distance declare four variables. -/
theorem compile_singleAssignment_rootOfDistance :
    ∃ text lines assignments, rootOfDistance.compile Catalog.standard = .ok text ∧
      text = Template.assemble lines assignments ∧ SingleAssignment 4 lines assignments := by
  have houtput : rootOfDistance.outputNode? = some (.ofKind (numbered 3) "pbr_output") := by
    decide +kernel
  have horder : rootOfDistance.order? = some [numbered 1, numbered 2, numbered 3] := by
    decide +kernel
  have hcount : ∀ generation, Generation.start.addAll rootOfDistance Catalog.standard
      (rootOfDistance.emitted (numbered 3) [numbered 1, numbered 2, numbered 3]) = .ok generation →
        Statement.declared generation.statements = 4 := by
    have hmap : ((Generation.start.addAll rootOfDistance Catalog.standard (rootOfDistance.emitted
        (numbered 3) [numbered 1, numbered 2, numbered 3])).map fun generation =>
          Statement.declared generation.statements) = .ok 4 := by
      decide +kernel
    intro generation hgeneration
    rw [hgeneration] at hmap
    exact Except.ok.inj hmap
  obtain ⟨text, htext⟩ := exists_eq_ok_of_isOk
    (x := rootOfDistance.compile Catalog.standard) (by decide +kernel)
  obtain ⟨output, order, generation, hout, hord, hall, hassemble, hform⟩ :=
    compile_singleAssignment htext
  obtain rfl := Option.some.inj (hout.symm.trans houtput)
  obtain rfl := Option.some.inj (hord.symm.trans horder)
  rw [hcount generation hall] at hform
  exact ⟨text, _, _, htext, hassemble, hform⟩

end Graph

end MaterialGraph
