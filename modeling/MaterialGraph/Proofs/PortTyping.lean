import MaterialGraph.Proofs.Connecting
import MaterialGraph.Proofs.FinalReferences

/-!
# The types of what inputs stand for

In a graph that is built by adding nodes and connecting ports, every connection leads from a
declared output to a declared input that it may feed. An input stands for the phrase of the output
that feeds it, as it is: no phrase is converted. An output may also feed an input of a wider type,
and then a phrase of one shader type stands where another is wanted. In all other cases the shader
types agree, and scalar inputs are fed by scalars only.
-/

namespace MaterialGraph

namespace PortType

/-- Whether an output of the first type may feed an input of the second although it is narrower. -/
def widens : PortType → PortType → Bool
  | float, vec2 | float, vec3 | float, vec4 | float, color => true
  | vec2, vec3 | vec2, vec4 => true
  | vec3, vec4 => true
  | _, _ => false

/-- An output may feed an input of the same shader type, or of a wider one. -/
theorem feeds_iff (a b : PortType) :
    a.feeds b = true ↔ a.shaderType = b.shaderType ∨ a.widens b = true := by
  cases a <;> cases b <;> decide

/-- A narrower type is another shader type. -/
theorem shaderType_ne_of_widens {a b : PortType} (h : a.widens b = true) :
    a.shaderType ≠ b.shaderType := by
  revert h
  cases a <;> cases b <;> decide

/-- What may feed an input has its shader type exactly when it is not narrower. -/
theorem shaderType_eq_iff_of_feeds {a b : PortType} (h : a.feeds b = true) :
    a.shaderType = b.shaderType ↔ a.widens b = false := by
  constructor
  · intro hsame
    by_contra hwidens
    exact shaderType_ne_of_widens (by simpa using hwidens) hsame
  · intro hwidens
    rcases (feeds_iff a b).mp h with hsame | hwide
    · exact hsame
    · rw [hwidens] at hwide
      contradiction

/-- Only scalars feed scalars. -/
theorem eq_float_of_feeds {a : PortType} (h : a.feeds .float = true) : a = .float := by
  revert h
  cases a <;> decide

end PortType

namespace Graph

/-- A port is the output at an end: the type of the node there declares it under this name. -/
def OutputAt (g : Graph) (catalog : Catalog) (e : Endpoint) (q : Port) : Prop :=
  ∃ node type, g.node? e.node = some node ∧ catalog.find? node.kind = some type ∧
    q ∈ type.outputs ∧ q.id = e.port

/-- A port is the input at an end: the type of the node there declares it under this name. -/
def InputAt (g : Graph) (catalog : Catalog) (e : Endpoint) (p : Port) : Prop :=
  ∃ node type, g.node? e.node = some node ∧ catalog.find? node.kind = some type ∧
    p ∈ type.inputs ∧ p.id = e.port

/-- Graphs that are built from an empty one by adding nodes of new identities and by connecting
ports. -/
inductive Built (catalog : Catalog) : Graph → Prop where
  | empty (id : GraphId) (name : String) : Built catalog (.empty id name)
  | addNode {g : Graph} {node : Node} (built : Built catalog g)
      (fresh : g.node? node.id = none) : Built catalog (g.addNode node)
  | connect {g next : Graph} {id : ConnectionId} {source target : Endpoint}
      (built : Built catalog g) (connected : g.connect catalog id source target = .ok next) :
      Built catalog next

/-- A connection that leads from a declared output to a declared input that it may feed. -/
def Wired (g : Graph) (catalog : Catalog) (c : Connection) : Prop :=
  ∃ q p, g.OutputAt catalog c.source q ∧ g.InputAt catalog c.target p ∧
    q.type.feeds p.type = true

/-- Connections stay wired while the nodes are kept. -/
theorem Wired.mono {g h : Graph} {catalog : Catalog} {c : Connection} (hwired : g.Wired catalog c)
    (hkept : ∀ id node, g.node? id = some node → h.node? id = some node) : h.Wired catalog c := by
  obtain ⟨q, p, ⟨source, sourceType, hsource, houtput⟩, ⟨target, targetType, htarget, hinput⟩,
    hfeeds⟩ := hwired
  exact ⟨q, p, ⟨source, sourceType, hkept _ _ hsource, houtput⟩,
    ⟨target, targetType, hkept _ _ htarget, hinput⟩, hfeeds⟩

/-- Ends that can be connected are an output and an input that it may feed. -/
theorem wired_of_checkConnection {g : Graph} {catalog : Catalog} (hcatalog : catalog.Regular)
    {source target : Endpoint} (h : g.checkConnection catalog source target = .ok ())
    (id : ConnectionId) : g.Wired catalog ⟨id, source, target⟩ := by
  obtain ⟨sourceNode, targetNode, sourceType, targetType, q, p, hsource, htarget, hsourceType,
    htargetType, hq, hp, houtput, hinput, hfeeds, -, -⟩ := of_checkConnection_eq_ok h
  have hregular := hcatalog sourceType (Table.mem_of_find?_eq_some hsourceType).1
  have hregularTarget := hcatalog targetType (Table.mem_of_find?_eq_some htargetType).1
  exact ⟨q, p,
    ⟨sourceNode, sourceType, hsource, hsourceType, hregular.mem_outputs hq houtput,
      (NodeType.mem_of_port?_eq_some hq).2⟩,
    ⟨targetNode, targetType, htarget, htargetType, hregularTarget.mem_inputs hp hinput,
      (NodeType.mem_of_port?_eq_some hp).2⟩, hfeeds⟩

/-- Every connection of a built graph is wired. -/
theorem Built.wired {g : Graph} {catalog : Catalog} (hcatalog : catalog.Regular)
    (h : g.Built catalog) : ∀ c ∈ g.connections.items, g.Wired catalog c := by
  induction h with
  | empty id name => exact fun c hc => absurd hc List.not_mem_nil
  | @addNode g node _ fresh ih =>
    intro c hc
    refine (ih c hc).mono fun id other hother => ?_
    have hne : node.id ≠ id := by
      rintro rfl
      rw [fresh] at hother
      contradiction
    change (g.nodes.insert node).find? id = some other
    rw [Table.find?_insert]
    exact (if_neg hne).trans hother
  | @connect g next id source target _ connected ih =>
    obtain ⟨hcheck, rfl⟩ := connect_eq_ok_iff.mp connected
    intro c hc
    rcases Table.mem_items_of_mem_insert hc with hold | rfl
    · exact (ih c hold).mono fun _ _ hnode => hnode
    · exact (wired_of_checkConnection hcatalog hcheck _).mono fun _ _ hnode => hnode

/-- An input at an end is told by its name. -/
theorem InputAt.eq {g : Graph} {catalog : Catalog} (hcatalog : catalog.Regular) {e : Endpoint}
    {p q : Port} (hp : g.InputAt catalog e p) (hq : g.InputAt catalog e q) : p = q := by
  obtain ⟨node, type, hnode, htype, hmem, hid⟩ := hp
  obtain ⟨node', type', hnode', htype', hmem', hid'⟩ := hq
  obtain rfl := Option.some.inj (hnode.symm.trans hnode')
  obtain rfl := Option.some.inj (htype.symm.trans htype')
  exact (hcatalog type (Table.mem_of_find?_eq_some htype).1).input_eq hmem hmem'
    (hid.trans hid'.symm)

/-- The connection to an input of a built graph comes from an output that may feed it. -/
theorem Built.exists_outputAt {g : Graph} {catalog : Catalog} (hcatalog : catalog.Regular)
    (h : g.Built catalog) {target : Endpoint} {p : Port} (hp : g.InputAt catalog target p)
    {c : Connection} (hc : g.connectionTo? target = some c) :
    ∃ q, g.OutputAt catalog c.source q ∧ q.type.feeds p.type = true := by
  obtain ⟨q, p', hq, hp', hfeeds⟩ := h.wired hcatalog c (List.mem_of_find?_eq_some hc)
  have htarget : c.target = target := by simpa using List.find?_some hc
  rw [htarget] at hp'
  obtain rfl := hp.eq hcatalog hp'
  exact ⟨q, hq, hfeeds⟩

/-- In the shader of a graph that is built with the standard catalog, an input that is fed by an
output stands for the phrase of this output, as it is. The output has the shader type of the input
exactly when it is not of a narrower type, which it never is for scalar inputs. -/
theorem compile_typed_iff {g : Graph} {text : String} (hbuilt : g.Built Catalog.standard)
    (h : g.compile Catalog.standard = .ok text) :
    ∃ output order generation, g.outputNode? = some output ∧ g.order? = some order ∧
      Generation.start.addAll g Catalog.standard (g.emitted output.id order) = .ok generation ∧
      text = Template.assemble generation.lines
        (g.assignmentLines Catalog.standard generation.references output) ∧
      ∀ target p c phrase, g.InputAt Catalog.standard target p →
        g.connectionTo? target = some c → generation.references.lookup c.source = some phrase →
          g.resolve generation.references target.node p = ⟨phrase, true⟩ ∧
            ∃ q, g.OutputAt Catalog.standard c.source q ∧
              (q.type.shaderType = p.type.shaderType ↔ q.type.widens p.type = false) ∧
              (p.type = .float → q.type = .float) := by
  obtain ⟨output, order, generation, houtput, horder, hall, htext⟩ := compile_eq_ok_iff.mp h
  refine ⟨output, order, generation, houtput, horder, hall, htext, ?_⟩
  intro target p c phrase hp hc hphrase
  obtain ⟨q, hq, hfeeds⟩ := hbuilt.exists_outputAt Catalog.regular_standard hp hc
  refine ⟨?_, q, hq, PortType.shaderType_eq_iff_of_feeds hfeeds, ?_⟩
  · obtain ⟨-, -, -, -, -, hid⟩ := hp
    have hport : (⟨target.node, p.id⟩ : Endpoint) = target := by rw [hid]
    simp only [resolve, hport, hc, hphrase, Option.getD_some]
  · intro hfloat
    rw [hfloat] at hfeeds
    exact PortType.eq_float_of_feeds hfeeds

/-- The time as the metallic field, which is a scalar, and as the color, which is not. -/
def timeAsColor : Graph :=
  ((((Graph.empty (numbered 0) untitled).addNode (.ofKind (numbered 1) "time")).addNode
        (.ofKind (numbered 2) "pbr_output")).addConnection
      ⟨numbered 10, ⟨numbered 1, "time"⟩, ⟨numbered 2, "metallic"⟩⟩).addConnection
    ⟨numbered 11, ⟨numbered 1, "time"⟩, ⟨numbered 2, "base_color"⟩⟩

/-- The connections of the time pass the checks. -/
theorem built_timeAsColor : timeAsColor.Built Catalog.standard := by
  refine .connect (.connect (.addNode (.addNode (.empty _ _) ?_) ?_)
    (connect_eq_ok_iff.mpr ⟨?_, rfl⟩)) (connect_eq_ok_iff.mpr ⟨?_, rfl⟩)
  · decide +kernel
  · decide +kernel
  · decide +kernel
  · decide +kernel

/-- The time has no statements, and its output is an expression of the shader. -/
theorem addAll_timeAsColor :
    timeAsColor.outputNode? = some (.ofKind (numbered 2) "pbr_output") ∧
      timeAsColor.order? = some [numbered 1, numbered 2] ∧
      Generation.start.addAll timeAsColor Catalog.standard
          (timeAsColor.emitted (numbered 2) [numbered 1, numbered 2]) =
        .ok ⟨[], [((⟨numbered 1, "time"⟩ : Endpoint), (Builtin.time : Phrase))]⟩ := by
  refine ⟨?_, ?_, ?_⟩
  · decide +kernel
  · decide +kernel
  · decide +kernel

/-- The metallic field is assigned the time, which has its shader type. -/
theorem compile_typed_timeAsColor :
    ∃ text references p q, timeAsColor.compile Catalog.standard = .ok text ∧
      timeAsColor.InputAt Catalog.standard ⟨numbered 2, "metallic"⟩ p ∧
      timeAsColor.OutputAt Catalog.standard ⟨numbered 1, "time"⟩ q ∧
      timeAsColor.resolve references (numbered 2) p = ⟨Builtin.time, true⟩ ∧
      q.type.shaderType = p.type.shaderType := by
  have hp : timeAsColor.InputAt Catalog.standard ⟨numbered 2, "metallic"⟩
      (Catalog.scalarOr "metallic" "Metallic" .zero) :=
    ⟨.ofKind (numbered 2) "pbr_output", Catalog.outputType, by decide +kernel, by decide +kernel,
      by decide +kernel, rfl⟩
  obtain ⟨hfirst, hsorted, hadded⟩ := addAll_timeAsColor
  obtain ⟨output, order, generation, houtput, horder, hall, htext, htyped⟩ :=
    compile_typed_iff built_timeAsColor
      (compile_eq_ok_iff.mpr ⟨_, _, _, hfirst, hsorted, hadded, rfl⟩)
  obtain rfl := Option.some.inj (houtput.symm.trans hfirst)
  obtain rfl := Option.some.inj (horder.symm.trans hsorted)
  obtain rfl := Except.ok.inj (hall.symm.trans hadded)
  obtain ⟨hresolve, q, hq, -, hscalar⟩ := htyped ⟨numbered 2, "metallic"⟩ _
    ⟨numbered 10, ⟨numbered 1, "time"⟩, ⟨numbered 2, "metallic"⟩⟩ _ hp (by decide +kernel) rfl
  refine ⟨_, _, _, q, compile_eq_ok_iff.mpr ⟨_, _, _, hfirst, hsorted, hadded, rfl⟩, hp, hq,
    hresolve, ?_⟩
  rw [hscalar rfl]
  rfl

/-- The base color is assigned the time, although it is no scalar. -/
theorem compile_timeAsColor :
    timeAsColor.Built Catalog.standard ∧
      timeAsColor.compile Catalog.standard = .ok (Template.assemble []
        ["pbr_input.material.base_color = globals.time;",
          "pbr_input.material.metallic = globals.time;",
          "pbr_input.material.perceptual_roughness = 0.5000;",
          "pbr_input.material.emissive = vec4<f32>(0.0000, 0.0000, 0.0000, 1.0000);",
          "pbr_input.material.base_color.a = 1.0000;"]) ∧
      ∃ p q, timeAsColor.InputAt Catalog.standard ⟨numbered 2, "base_color"⟩ p ∧
        timeAsColor.OutputAt Catalog.standard ⟨numbered 1, "time"⟩ q ∧
        p.type.shaderType = "vec4<f32>" ∧ q.type.shaderType = "f32" := by
  have hp : timeAsColor.InputAt Catalog.standard ⟨numbered 2, "base_color"⟩
      (Catalog.grayOr "base_color" "Base Color" (.ofQuotient 4 5)) :=
    ⟨.ofKind (numbered 2) "pbr_output", Catalog.outputType, by decide +kernel, by decide +kernel,
      by decide +kernel, rfl⟩
  have hq : timeAsColor.OutputAt Catalog.standard ⟨numbered 1, "time"⟩
      (.output "time" "Time" .float) :=
    ⟨.ofKind (numbered 1) "time",
      Catalog.source .time "Time" "Elapsed time in seconds" "time" .float, by decide +kernel,
      by decide +kernel, by decide +kernel, rfl⟩
  obtain ⟨hfirst, hsorted, hadded⟩ := addAll_timeAsColor
  refine ⟨built_timeAsColor, compile_eq_ok_iff.mpr ⟨_, _, _, hfirst, hsorted, hadded, ?_⟩,
    _, _, hp, hq, rfl, rfl⟩
  exact congrArg (Template.assemble []) (by decide +kernel)

end Graph

end MaterialGraph
