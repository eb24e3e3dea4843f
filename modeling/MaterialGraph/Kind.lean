import MaterialGraph.Params

/-!
# Node kinds

The closed set of node kinds that have a rule for shader text. A kind is named by a text in
documents; nodes with any other text are kept but contribute nothing. Every kind belongs to one
family of rules and takes parameters of one shape.
-/

namespace MaterialGraph

/-- A node kind. -/
inductive NodeKind where
  | pbrOutput
  | vertexPosition
  | vertexNormal
  | uv
  | time
  | cameraPosition
  | viewDirection
  | floatConstant
  | vec2Constant
  | vec3Constant
  | vec4Constant
  | colorConstant
  | add
  | subtract
  | multiply
  | divide
  | power
  | sqrt
  | abs
  | clamp
  | lerp
  | step
  | smoothstep
  | sin
  | cos
  | tan
  | fract
  | floor
  | ceil
  | min
  | max
  | saturate
  | normalize
  | length
  | distance
  | dot
  | cross
  | splitVec2
  | splitVec3
  | splitVec4
  | combineVec2
  | combineVec3
  | combineVec4
  | fresnel
  | noise
  | voronoi
  | hsvToRgb
  | rgbToHsv
  | colorRamp
  | textureSample
  | normalMap
deriving DecidableEq, Repr

/-- The operator between two operands. -/
inductive BinaryOp where
  | add
  | subtract
  | multiply
  | divide
deriving DecidableEq, Repr

/-- The symbol of an operator. -/
def BinaryOp.symbol : BinaryOp → String
  | add => "+"
  | subtract => "-"
  | multiply => "*"
  | divide => "/"

/-- The kinds that expand into a fixed sequence of statements. -/
inductive Expansion where
  | fresnel
  | noise
  | voronoi
  | hsvToRgb
  | rgbToHsv
  | colorRamp
deriving DecidableEq, Repr

/-- The family of rules to which a kind belongs. -/
inductive Emission where
  /-- The output of the material, which has no statements of its own. -/
  | output
  /-- An expression that the shader already has. -/
  | source (expression : String)
  /-- The literal in the parameters. -/
  | constant
  /-- An operator between two inputs. -/
  | binary (op : BinaryOp)
  /-- A function of all inputs. -/
  | call (function : String)
  /-- A statement for each component of a vector. -/
  | decompose
  /-- A vector of all inputs. -/
  | compose
  /-- A fixed sequence of statements. -/
  | expand (expansion : Expansion)
  /-- Stand-in literals for each output. -/
  | placeholder
deriving DecidableEq, Repr

/-! ### Expressions that the shader already has -/

namespace Builtin

/-- The position of the fragment in the world. -/
def worldPosition : String := "in.world_position.xyz"

/-- The normal of the fragment. -/
def worldNormal : String := "in.world_normal"

/-- The texture coordinates of the mesh. -/
def uv : String := "in.uv"

/-- The time in seconds. -/
def time : String := "globals.time"

/-- The position of the camera. -/
def cameraPosition : String := "view.world_position"

/-- The direction from the fragment to the camera. -/
def viewDirection : String := "normalize(view.world_position - in.world_position.xyz)"

end Builtin

namespace NodeKind

/-- Every kind, in order. -/
def all : List NodeKind :=
  [.pbrOutput, .vertexPosition, .vertexNormal, .uv, .time, .cameraPosition, .viewDirection,
    .floatConstant, .vec2Constant, .vec3Constant, .vec4Constant, .colorConstant, .add, .subtract,
    .multiply, .divide, .power, .sqrt, .abs, .clamp, .lerp, .step, .smoothstep, .sin, .cos, .tan,
    .fract, .floor, .ceil, .min, .max, .saturate, .normalize, .length, .distance, .dot, .cross,
    .splitVec2, .splitVec3, .splitVec4, .combineVec2, .combineVec3, .combineVec4, .fresnel,
    .noise, .voronoi, .hsvToRgb, .rgbToHsv, .colorRamp, .textureSample, .normalMap]

/-- The name of a kind in documents. -/
def id : NodeKind → String
  | pbrOutput => "pbr_output"
  | vertexPosition => "vertex_position"
  | vertexNormal => "vertex_normal"
  | uv => "uv"
  | time => "time"
  | cameraPosition => "camera_position"
  | viewDirection => "view_direction"
  | floatConstant => "float_constant"
  | vec2Constant => "vec2_constant"
  | vec3Constant => "vec3_constant"
  | vec4Constant => "vec4_constant"
  | colorConstant => "color_constant"
  | add => "add"
  | subtract => "subtract"
  | multiply => "multiply"
  | divide => "divide"
  | power => "power"
  | sqrt => "sqrt"
  | abs => "abs"
  | clamp => "clamp"
  | lerp => "lerp"
  | step => "step"
  | smoothstep => "smoothstep"
  | sin => "sin"
  | cos => "cos"
  | tan => "tan"
  | fract => "fract"
  | floor => "floor"
  | ceil => "ceil"
  | min => "min"
  | max => "max"
  | saturate => "saturate"
  | normalize => "normalize"
  | length => "length"
  | distance => "distance"
  | dot => "dot"
  | cross => "cross"
  | splitVec2 => "split_vec2"
  | splitVec3 => "split_vec3"
  | splitVec4 => "split_vec4"
  | combineVec2 => "combine_vec2"
  | combineVec3 => "combine_vec3"
  | combineVec4 => "combine_vec4"
  | fresnel => "fresnel"
  | noise => "noise"
  | voronoi => "voronoi"
  | hsvToRgb => "hsv_to_rgb"
  | rgbToHsv => "rgb_to_hsv"
  | colorRamp => "color_ramp"
  | textureSample => "texture_sample"
  | normalMap => "normal_map"

/-- The kind of a name. -/
def ofId? (id : String) : Option NodeKind :=
  all.find? fun kind => kind.id == id

/-- The family of a kind. -/
def emission : NodeKind → Emission
  | pbrOutput => .output
  | vertexPosition => .source Builtin.worldPosition
  | vertexNormal => .source Builtin.worldNormal
  | uv => .source Builtin.uv
  | time => .source Builtin.time
  | cameraPosition => .source Builtin.cameraPosition
  | viewDirection => .source Builtin.viewDirection
  | floatConstant | vec2Constant | vec3Constant | vec4Constant | colorConstant => .constant
  | add => .binary .add
  | subtract => .binary .subtract
  | multiply => .binary .multiply
  | divide => .binary .divide
  | power => .call "pow"
  | sqrt => .call "sqrt"
  | abs => .call "abs"
  | clamp => .call "clamp"
  | lerp => .call "mix"
  | step => .call "step"
  | smoothstep => .call "smoothstep"
  | sin => .call "sin"
  | cos => .call "cos"
  | tan => .call "tan"
  | fract => .call "fract"
  | floor => .call "floor"
  | ceil => .call "ceil"
  | min => .call "min"
  | max => .call "max"
  | saturate => .call "saturate"
  | normalize => .call "normalize"
  | length => .call "length"
  | distance => .call "distance"
  | dot => .call "dot"
  | cross => .call "cross"
  | splitVec2 | splitVec3 | splitVec4 => .decompose
  | combineVec2 | combineVec3 | combineVec4 => .compose
  | fresnel => .expand .fresnel
  | noise => .expand .noise
  | voronoi => .expand .voronoi
  | hsvToRgb => .expand .hsvToRgb
  | rgbToHsv => .expand .rgbToHsv
  | colorRamp => .expand .colorRamp
  | textureSample | normalMap => .placeholder

/-- The shape of parameters that a kind takes. -/
def paramShape : NodeKind → ParamShape
  | floatConstant => .float
  | vec2Constant => .vec2
  | vec3Constant => .vec3
  | vec4Constant => .vec4
  | colorConstant => .color
  | colorRamp => .colorRamp
  | textureSample | normalMap => .texture
  | _ => .none

end NodeKind

end MaterialGraph
