import MaterialGraph.Shader.Resolve

/-!
# The material

The inputs of the output node assign fields of the material, in the order of their declaration.
Inputs that name no field assign nothing. The normal keeps its value unless a connection leads to
its input.
-/

namespace MaterialGraph

/-- A field of the material. -/
inductive MaterialField where
  | baseColor
  | metallic
  | roughness
  | normal
  | emissive
  | alpha
deriving DecidableEq, Repr

namespace MaterialField

/-- The field that an input of the output node assigns. -/
def ofPort? (port : PortId) : Option MaterialField :=
  [("base_color", baseColor), ("metallic", metallic), ("roughness", roughness), ("normal", normal),
    ("emissive", emissive), ("alpha", alpha)].lookup port

/-- The place of a field in the shader. -/
def target : MaterialField → String
  | baseColor => "pbr_input.material.base_color"
  | metallic => "pbr_input.material.metallic"
  | roughness => "pbr_input.material.perceptual_roughness"
  | normal => "pbr_input.N"
  | emissive => "pbr_input.material.emissive"
  | alpha => "pbr_input.material.base_color.a"

/-- Whether a field is assigned only through a connection. -/
def needsConnection : MaterialField → Bool
  | normal => true
  | _ => false

/-- The assignment of a phrase to a field. -/
def assignment (field : MaterialField) (value : Phrase) : Phrase :=
  Phrase.join [field.target, " = ", value, ";"]

/-- The assignment of what an input of the output node stands for. -/
def assignmentOf? (port : PortId) (resolved : Resolved) : Option Phrase :=
  (ofPort? port).bind fun field =>
    if field.needsConnection && !resolved.connected then none
    else some (field.assignment resolved.phrase)

/-- The assignments of an output node, given the type of its kind in a catalog. -/
def assignments (g : Graph) (references : References) (output : NodeId) (type : Option NodeType) :
    List Phrase :=
  match type with
  | none => []
  | some type =>
    (Inputs.ofNode g references output type).filterMap fun (port, resolved) =>
      assignmentOf? port resolved

end MaterialField

end MaterialGraph
