import Mathlib.Data.List.Forall2
import MaterialGraph.Proofs.FinalReferences
import MaterialGraph.Proofs.StandardCatalog

/-!
# The assignments of the material

The inputs of the first output node that name fields of the material have one line each, in the
order of their declaration, and no other input has one. A line assigns what the output at the far
end of the first connection is bound to in the end. It assigns the default if that output is not
bound or if there is no connection. The normal has a line exactly if some connection leads to its
input, bound or not. Further output nodes add nothing.
-/

namespace MaterialGraph

/-- The names of the inputs that assign fields, with the places of these fields in the shader. -/
def MaterialField.places : List (PortId × String) :=
  [("base_color", "pbr_input.material.base_color"),
    ("metallic", "pbr_input.material.metallic"),
    ("roughness", "pbr_input.material.perceptual_roughness"),
    ("normal", "pbr_input.N"),
    ("emissive", "pbr_input.material.emissive"),
    ("alpha", "pbr_input.material.base_color.a")]

namespace Graph

/-- A node is the first output node. -/
def FirstOutput (g : Graph) (output : Node) : Prop :=
  ∃ before after, g.nodes.items = before ++ output :: after ∧ output.kind = "pbr_output" ∧
    ∀ node ∈ before, node.kind ≠ "pbr_output"

/-- An input of an output node has a line: it names a field, and if this is the normal, some
connection leads to it. -/
def HasLine (g : Graph) (output : NodeId) (p : Port) : Prop :=
  p.id ∈ MaterialField.places.map Prod.fst ∧ (p.id = "normal" → g.Fed ⟨output, "normal"⟩)

instance (g : Graph) (output : NodeId) : DecidablePred (g.HasLine output) :=
  fun p => inferInstanceAs
    (Decidable (p.id ∈ MaterialField.places.map Prod.fst ∧
      (p.id = "normal" → g.Fed ⟨output, "normal"⟩)))

/-- A line assigns what an input of an output node stands for to the place that the input names. -/
def IsLineOf (g : Graph) (references : References) (output : NodeId) (p : Port) (line : String) :
    Prop :=
  ∃ place value, (p.id, place) ∈ MaterialField.places ∧
    g.StandsFor references ⟨output, p.id⟩ p.defaultLiteral value ∧
    line = place ++ " = " ++ value ++ ";"

/-- The output node that is found is the first one. -/
theorem outputNode?_eq_some_iff {g : Graph} {output : Node} :
    g.outputNode? = some output ↔ g.FirstOutput output := by
  rw [outputNode?, List.find?_eq_some_iff_append, Node.isOutput_iff]
  constructor
  · rintro ⟨houtput, before, after, hsplit, hbefore⟩
    refine ⟨before, after, hsplit, houtput, ?_⟩
    intro node hnode hkind
    simpa [(node.isOutput_iff).mpr hkind] using hbefore node hnode
  · rintro ⟨before, after, hsplit, houtput, hbefore⟩
    refine ⟨houtput, before, after, hsplit, ?_⟩
    intro node hnode
    simpa [← node.isOutput_iff] using hbefore node hnode

end Graph

/-! ### Fields -/

namespace MaterialField

/-- The field that a port names has its place in the shader, and is assigned only through a
connection if it is the normal. -/
theorem place_of_ofPort? {port : PortId} {field : MaterialField} (h : ofPort? port = some field) :
    (port, field.target) ∈ places ∧ (field.needsConnection = true ↔ port = "normal") := by
  obtain ⟨before, after, hsplit, -⟩ := List.lookup_eq_some_iff.mp h
  have hmem : (port, field) ∈ before ++ (port, field) :: after := by simp
  rw [← hsplit] at hmem
  simp only [List.mem_cons, Prod.mk.injEq, List.not_mem_nil, or_false] at hmem
  rcases hmem with ⟨rfl, rfl⟩ | ⟨rfl, rfl⟩ | ⟨rfl, rfl⟩ | ⟨rfl, rfl⟩ | ⟨rfl, rfl⟩ | ⟨rfl, rfl⟩ <;>
    decide

/-- A port names no field exactly if its name is not listed. -/
theorem ofPort?_eq_none_iff {port : PortId} : ofPort? port = none ↔ port ∉ places.map Prod.fst := by
  simp [ofPort?, places, List.lookup_eq_none_iff]

/-- The text of an assignment. -/
theorem render_assignment (field : MaterialField) (value : Phrase) :
    String.ofList (field.assignment value).render =
      field.target ++ " = " ++ String.ofList value.render ++ ";" := by
  rw [← String.toList_inj]
  simp [assignment, Phrase.join, Phrase.render, Phrase.fragmentText]

end MaterialField

namespace Graph

variable {g : Graph} {references : References}

/-- The line of an input of an output node, if it has one. -/
def lineOf? (g : Graph) (references : References) (output : NodeId) (p : Port) : Option String :=
  (MaterialField.assignmentOf? p.id (g.resolve references output p)).map fun phrase =>
    String.ofList phrase.render

/-- The lines of an output node are those of its inputs. -/
theorem assignmentLines_eq {catalog : Catalog} {output : Node} {type : NodeType}
    (htype : catalog.find? output.kind = some type) :
    g.assignmentLines catalog references output =
      type.inputs.filterMap (g.lineOf? references output.id) := by
  rw [assignmentLines, htype, MaterialField.assignments, Inputs.ofNode, List.filterMap_map,
    List.map_filterMap]
  rfl

/-- An input that has a line assigns what it stands for. -/
theorem exists_lineOf? (references : References) {output : NodeId} {p : Port}
    (h : g.HasLine output p) :
    ∃ line, g.lineOf? references output p = some line ∧ g.IsLineOf references output p line := by
  obtain ⟨hnamed, hnormal⟩ := h
  cases hfield : MaterialField.ofPort? p.id with
  | none => exact absurd hnamed (MaterialField.ofPort?_eq_none_iff.mp hfield)
  | some field =>
    obtain ⟨hplace, hneeds⟩ := MaterialField.place_of_ofPort? hfield
    have hassigned : field.needsConnection = true →
        (g.resolve references output p).connected = true := by
      rw [hneeds, connected_resolve]
      intro hid
      rw [hid]
      exact hnormal hid
    refine ⟨_, ?_, field.target, _, hplace, g.standsFor_resolve references output p, rfl⟩
    simpa [lineOf?, MaterialField.assignmentOf?, hfield, field.render_assignment] using hassigned

/-- An input that has no line assigns nothing. -/
theorem lineOf?_eq_none {output : NodeId} {p : Port} (h : ¬ g.HasLine output p) :
    g.lineOf? references output p = none := by
  cases hfield : MaterialField.ofPort? p.id with
  | none => simp [lineOf?, MaterialField.assignmentOf?, hfield]
  | some field =>
    obtain ⟨hplace, hneeds⟩ := MaterialField.place_of_ofPort? hfield
    have hnamed : p.id ∈ MaterialField.places.map Prod.fst := List.mem_map_of_mem hplace
    obtain ⟨hid, hunfed⟩ : p.id = "normal" ∧ ¬ g.Fed ⟨output, "normal"⟩ := by
      simpa only [HasLine, hnamed, true_and, Classical.not_imp] using h
    rw [← hid, ← g.connected_resolve references] at hunfed
    simp [lineOf?, MaterialField.assignmentOf?, hfield, hneeds.mpr hid, hunfed]

/-- The lines of inputs are, in order, those of the ones that have a line. -/
theorem forall₂_lineOf? (output : NodeId) (inputs : List Port) :
    List.Forall₂ (g.IsLineOf references output) (inputs.filter (g.HasLine output))
      (inputs.filterMap (g.lineOf? references output)) := by
  induction inputs with
  | nil => exact .nil
  | cons p rest ih =>
    by_cases hp : g.HasLine output p
    · obtain ⟨line, hline, hassigns⟩ := exists_lineOf? references hp
      rw [List.filter_cons_of_pos (by simpa using hp), List.filterMap_cons_some hline]
      exact .cons hassigns ih
    · rw [List.filter_cons_of_neg (by simpa using hp),
        List.filterMap_cons_none (lineOf?_eq_none hp)]
      exact ih

/-- The lines of an output node depend only on the first connections to its inputs that name
fields. -/
theorem assignmentLines_congr {other : Graph} {catalog : Catalog} {output : Node}
    (h : ∀ name ∈ MaterialField.places.map Prod.fst,
      other.connectionTo? ⟨output.id, name⟩ = g.connectionTo? ⟨output.id, name⟩) :
    other.assignmentLines catalog references output =
      g.assignmentLines catalog references output := by
  cases htype : catalog.find? output.kind with
  | none => simp [assignmentLines, htype, MaterialField.assignments]
  | some type =>
    rw [assignmentLines_eq htype, assignmentLines_eq htype]
    congr 1
    funext p
    by_cases hp : p.id ∈ MaterialField.places.map Prod.fst
    · simp only [lineOf?, resolve, h p.id hp]
    · rw [lineOf?_eq_none fun hline => hp hline.1, lineOf?_eq_none fun hline => hp hline.1]

/-- An output node adds nothing to what is generated. -/
theorem add_of_output {catalog : Catalog} {node : Node} (h : node.kind = "pbr_output")
    (generation : Generation) : generation.add g catalog node = .ok generation := by
  have hkind : node.kind? = some .pbrOutput := beq_iff_eq.mp (node.isOutput_iff.mpr h)
  exact add_of_silent (Or.inr (Or.inr hkind)) generation

/-! ### The standard catalog -/

/-- The lines that an output node has under the standard catalog: one for every field, but none for
the normal unless a connection leads to it. -/
def StandardLines (g : Graph) (references : References) (output : NodeId) (lines : List String) :
    Prop :=
  ∃ color metallic roughness normal emissive alpha,
    g.StandsFor references ⟨output, "base_color"⟩ "vec4<f32>(0.8000, 0.8000, 0.8000, 1.0000)"
      color ∧
    g.StandsFor references ⟨output, "metallic"⟩ "0.0000" metallic ∧
    g.StandsFor references ⟨output, "roughness"⟩ "0.5000" roughness ∧
    g.StandsFor references ⟨output, "normal"⟩ "vec3<f32>(0.0, 0.0, 0.0)" normal ∧
    g.StandsFor references ⟨output, "emissive"⟩ "vec4<f32>(0.0000, 0.0000, 0.0000, 1.0000)"
      emissive ∧
    g.StandsFor references ⟨output, "alpha"⟩ "1.0000" alpha ∧
    lines =
      ["pbr_input.material.base_color = " ++ color ++ ";",
        "pbr_input.material.metallic = " ++ metallic ++ ";",
        "pbr_input.material.perceptual_roughness = " ++ roughness ++ ";"] ++
      (if g.Fed ⟨output, "normal"⟩ then ["pbr_input.N = " ++ normal ++ ";"] else []) ++
      ["pbr_input.material.emissive = " ++ emissive ++ ";",
        "pbr_input.material.base_color.a = " ++ alpha ++ ";"]

section Standard

variable (g : Graph) (references : References) (output : NodeId)

/-- The line of an input assigns what it stands for to the place that is listed for its name. -/
theorem exists_lineOf?_eq (p : Port) (place : String)
    (hplace : (p.id, place) ∈ MaterialField.places)
    (hnormal : p.id = "normal" → g.Fed ⟨output, "normal"⟩) :
    ∃ value, g.StandsFor references ⟨output, p.id⟩ p.defaultLiteral value ∧
      g.lineOf? references output p = some (place ++ " = " ++ value ++ ";") := by
  obtain ⟨line, hline, other, value, hother, hvalue, rfl⟩ :=
    exists_lineOf? references ⟨List.mem_map_of_mem hplace, hnormal⟩
  have hdistinct : (MaterialField.places.map Prod.fst).Nodup := by decide
  have hsame := List.inj_on_of_nodup_map hdistinct hother hplace rfl
  obtain rfl := (Prod.mk.inj hsame).2
  exact ⟨value, hvalue, hline⟩

/-- An input that names another field than the normal always has a line. -/
theorem exists_plainLine (p : Port) (place default : String)
    (hplace : (p.id, place) ∈ MaterialField.places) (hne : p.id ≠ "normal")
    (hdefault : p.defaultLiteral = default) :
    ∃ value, g.StandsFor references ⟨output, p.id⟩ default value ∧
      g.lineOf? references output p = some (place ++ " = " ++ value ++ ";") :=
  hdefault ▸ g.exists_lineOf?_eq references output p place hplace fun hid => absurd hid hne

/-- The normal has a line exactly if some connection leads to it. -/
theorem exists_normalLine :
    ∃ value, g.StandsFor references ⟨output, "normal"⟩ "vec3<f32>(0.0, 0.0, 0.0)" value ∧
      g.lineOf? references output (Port.input "normal" "Normal" .vec3) =
        if g.Fed ⟨output, "normal"⟩ then some ("pbr_input.N = " ++ value ++ ";") else none := by
  by_cases hfed : g.Fed ⟨output, "normal"⟩
  · obtain ⟨value, hvalue, hline⟩ := g.exists_lineOf?_eq references output
      (Port.input "normal" "Normal" .vec3) "pbr_input.N" (by decide) fun _ => hfed
    exact ⟨value, hvalue, hline.trans (if_pos hfed).symm⟩
  · have hline : g.lineOf? references output (Port.input "normal" "Normal" .vec3) = none :=
      lineOf?_eq_none fun hline => hfed (hline.2 rfl)
    exact ⟨_, .unfed hfed, hline.trans (if_neg hfed).symm⟩

end Standard

/-- The lines of an output node under the standard catalog. -/
theorem standardLines_assignmentLines (g : Graph) (references : References) {output : Node}
    (h : output.kind = "pbr_output") :
    g.StandardLines references output.id
      (g.assignmentLines Catalog.standard references output) := by
  have htype : Catalog.standard.find? output.kind = some Catalog.outputType := by
    rw [h]
    decide +kernel
  have hplain := g.exists_plainLine references output.id
  obtain ⟨color, hcolor, hcolorLine⟩ := hplain
    (Catalog.grayOr "base_color" "Base Color" (.ofQuotient 4 5)) "pbr_input.material.base_color"
    "vec4<f32>(0.8000, 0.8000, 0.8000, 1.0000)" (by decide) (by decide) (by decide +kernel)
  obtain ⟨metallic, hmetallic, hmetallicLine⟩ := hplain
    (Catalog.scalarOr "metallic" "Metallic" .zero) "pbr_input.material.metallic" "0.0000"
    (by decide) (by decide) (by decide +kernel)
  obtain ⟨roughness, hroughness, hroughnessLine⟩ := hplain
    (Catalog.scalarOr "roughness" "Roughness" (.ofQuotient 1 2))
    "pbr_input.material.perceptual_roughness" "0.5000" (by decide) (by decide) (by decide +kernel)
  obtain ⟨normal, hnormal, hnormalLine⟩ := g.exists_normalLine references output.id
  obtain ⟨emissive, hemissive, hemissiveLine⟩ := hplain
    (Catalog.grayOr "emissive" "Emissive" .zero) "pbr_input.material.emissive"
    "vec4<f32>(0.0000, 0.0000, 0.0000, 1.0000)" (by decide) (by decide) (by decide +kernel)
  obtain ⟨alpha, halpha, halphaLine⟩ := hplain
    (Catalog.scalarOr "alpha" "Alpha" .one) "pbr_input.material.base_color.a" "1.0000"
    (by decide) (by decide) (by decide +kernel)
  refine ⟨color, metallic, roughness, normal, emissive, alpha, hcolor, hmetallic, hroughness,
    hnormal, hemissive, halpha, ?_⟩
  rw [assignmentLines_eq htype]
  simp only [Catalog.outputType, Catalog.entry, List.filterMap_cons, hcolorLine, hmetallicLine,
    hroughnessLine, hnormalLine, hemissiveLine, halphaLine, List.filterMap_nil]
  by_cases hfed : g.Fed ⟨output.id, "normal"⟩
  · simp [hfed]
  · simp [hfed]

/-- Whenever a graph has a shader, the assignments in it are those of the first output node: one
for each declared input that names a field, with what it stands for under the references at the end
of generation, but none for a normal to which no connection leads. The first connections to these
inputs alone decide about them, other output nodes add nothing, and without a type for output nodes
there are none. -/
theorem compile_assignments {g : Graph} {catalog : Catalog} {text : String}
    (h : g.compile catalog = .ok text) :
    ∃ output order generation lines,
      g.FirstOutput output ∧ g.order? = some order ∧
      Generation.start.addAll g catalog (g.emitted output.id order) = .ok generation ∧
      text = Template.assemble generation.lines lines ∧
      (catalog.find? "pbr_output" = none → lines = []) ∧
      (∀ type, catalog.find? "pbr_output" = some type →
        List.Forall₂ (g.IsLineOf generation.references output.id)
          (type.inputs.filter (g.HasLine output.id)) lines) ∧
      (∀ other : Graph,
        (∀ name ∈ MaterialField.places.map Prod.fst,
          other.connectionTo? ⟨output.id, name⟩ = g.connectionTo? ⟨output.id, name⟩) →
        other.assignmentLines catalog generation.references output = lines) ∧
      (∀ node : Node, node.kind = "pbr_output" →
        ∀ current : Generation, current.add g catalog node = .ok current) ∧
      (catalog = Catalog.standard → g.StandardLines generation.references output.id lines) := by
  obtain ⟨output, order, generation, houtput, horder, hall, rfl⟩ := compile_eq_ok_iff.mp h
  have hfirst := outputNode?_eq_some_iff.mp houtput
  have hkind : output.kind = "pbr_output" := by
    obtain ⟨-, -, -, hkind, -⟩ := hfirst
    exact hkind
  refine ⟨output, order, generation, _, hfirst, horder, hall, rfl, ?_, ?_, ?_, ?_, ?_⟩
  · intro hnone
    rw [assignmentLines, hkind, hnone]
    rfl
  · intro type htype
    rw [← hkind] at htype
    rw [assignmentLines_eq htype]
    exact forall₂_lineOf? output.id type.inputs
  · intro other hsame
    exact assignmentLines_congr hsame
  · intro node hnode current
    exact add_of_output hnode current
  · intro hstandard
    rw [hstandard]
    exact g.standardLines_assignmentLines generation.references hkind

/-- Two output nodes. A connection from nowhere leads to the normal of the first, and the time to
the roughness of the second. -/
def normalFromNowhere : Graph where
  id := numbered 0
  name := untitled
  nodes := .ofList
    [.ofKind (numbered 1) "time", .ofKind (numbered 2) "pbr_output",
      .ofKind (numbered 3) "pbr_output"]
  connections := .ofList
    [⟨numbered 10, ⟨numbered 9, "normal"⟩, ⟨numbered 2, "normal"⟩⟩,
      ⟨numbered 11, ⟨numbered 1, "time"⟩, ⟨numbered 3, "roughness"⟩⟩]

/-- The normal of the first output node has a line although nothing is bound to it. -/
theorem compile_assignments_normalFromNowhere :
    ∃ text statements lines references, normalFromNowhere.compile Catalog.standard = .ok text ∧
      text = Template.assemble statements lines ∧
      normalFromNowhere.Fed ⟨numbered 2, "normal"⟩ ∧
      normalFromNowhere.StandardLines references (numbered 2) lines := by
  obtain ⟨text, htext⟩ := exists_eq_ok_of_isOk
    (x := normalFromNowhere.compile Catalog.standard) (by decide +kernel)
  obtain ⟨output, order, generation, lines, houtput, -, -, hassembled, -, -, -, -, hlines⟩ :=
    compile_assignments htext
  have hfirst : normalFromNowhere.outputNode? = some (.ofKind (numbered 2) "pbr_output") := by
    decide +kernel
  obtain rfl := Option.some.inj ((outputNode?_eq_some_iff.mpr houtput).symm.trans hfirst)
  exact ⟨text, _, lines, _, htext, hassembled, by decide +kernel, hlines rfl⟩

end Graph

end MaterialGraph
