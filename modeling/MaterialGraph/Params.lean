import MaterialGraph.Port

/-!
# Node parameters

A node carries parameters: none, a constant value, the interpolation of a color ramp, or a texture.
Each node kind takes parameters of one shape.
-/

namespace MaterialGraph

/-- How a color ramp shapes its factor. -/
inductive RampInterpolation where
  | linear
  | ease
  | constant
deriving DecidableEq, Repr

namespace RampInterpolation

/-- The name of an interpolation in documents. -/
def name : RampInterpolation → String
  | linear => "Linear"
  | ease => "Ease"
  | constant => "Constant"

/-- The interpolations by name. -/
def names : List (String × RampInterpolation) :=
  [linear, ease, constant].map fun i => (i.name, i)

end RampInterpolation

/-- The parameters of a node. -/
inductive Params where
  | none
  | constant (value : PortValue)
  | colorRamp (interpolation : RampInterpolation)
  | texture (asset : Option String)
deriving DecidableEq, Repr

/-- The shape of parameters. -/
inductive ParamShape where
  | none
  | float
  | vec2
  | vec3
  | vec4
  | color
  | colorRamp
  | texture
deriving DecidableEq, Repr

/-- The name of a shape in messages. -/
def ParamShape.text : ParamShape → String
  | none => "none"
  | float => "float"
  | vec2 => "vec2"
  | vec3 => "vec3"
  | vec4 => "vec4"
  | color => "color"
  | colorRamp => "color ramp"
  | texture => "texture"

/-- The shape of the parameters that hold a value. -/
def PortValue.shape : PortValue → ParamShape
  | float .. => .float
  | vec2 .. => .vec2
  | vec3 .. => .vec3
  | vec4 .. => .vec4
  | color .. => .color

namespace Params

/-- The shape of parameters. -/
def shape : Params → ParamShape
  | none => .none
  | constant value => value.shape
  | colorRamp _ => .colorRamp
  | texture _ => .texture

/-- The value that parameters hold. -/
def value? : Params → Option PortValue
  | constant value => some value
  | _ => Option.none

/-- Whether all numbers in parameters are finite. -/
def isFinite (p : Params) : Bool :=
  p.value?.all PortValue.isFinite

/-- The parameters that a new node of a shape has: zeros, with alpha one, and white as color. -/
def ofShape : ParamShape → Params
  | .none => none
  | .float => constant (.float .zero)
  | .vec2 => constant (.vec2 .zero .zero)
  | .vec3 => constant (.vec3 .zero .zero .zero)
  | .vec4 => constant (.vec4 .zero .zero .zero .one)
  | .color => constant (.color .one .one .one .one)
  | .colorRamp => colorRamp .linear
  | .texture => texture Option.none

/-- What each variant of parameters holds in documents. -/
def variants : List (String × VariantRule) :=
  ("None", .unit) ::
    PortValue.variantTypes.map (fun (name, _) => (name, .record [⟨"value", false⟩])) ++
    [("ColorRamp", .record [⟨"interpolation", false⟩]), ("Texture", .record [⟨"asset", false⟩])]

open DataSource in
/-- Read parameters. -/
def decode {σ : Type} [DataSource σ] (s : σ) : Option Params :=
  match variant? variants s with
  | some ("None", []) => some none
  | some ("ColorRamp", [interpolation]) =>
    (required (oneOf RampInterpolation.names) interpolation).map colorRamp
  | some ("Texture", [asset]) => (orElse Option.none (optionOf text?) asset).map texture
  | some (name, [value]) =>
    (PortValue.variantTypes.lookup name).bind fun t =>
      (required (PortValue.decodeComponents t) value).map constant
  | _ => Option.none

/-- Write parameters. -/
def encode {τ : Type} [DataSink τ] : Params → τ
  | none => DataSink.variant "None" .unit
  | constant value =>
    DataSink.variant value.variantName (.record [("value", value.encodeComponents)])
  | colorRamp interpolation =>
    DataSink.variant "ColorRamp"
      (.record [("interpolation", DataSink.variant interpolation.name .unit)])
  | texture asset =>
    DataSink.variant "Texture" (.record [("asset", DataSink.option (asset.map DataSink.text))])

end Params

end MaterialGraph
