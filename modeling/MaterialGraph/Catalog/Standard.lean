import MaterialGraph.Catalog.Basic
import MaterialGraph.Kind

/-!
# The standard catalog

The ports of every node kind. The order of the inputs matters: a function takes them as its
arguments, and the output of the material assigns its fields in this order.
-/

namespace MaterialGraph.Catalog

open PortType (float vec2 vec3 vec4 color texture2d)

/-- A node type of a kind. -/
def entry (kind : NodeKind) (name : String) (category : NodeCategory) (description : String)
    (inputs outputs : List Port) : NodeType :=
  ⟨kind.id, name, category, description, inputs, outputs⟩

/-- A scalar input. -/
def scalar (id : PortId) (label : String) : Port :=
  Port.input id label float

/-- A scalar input with a default value. -/
def scalarOr (id : PortId) (label : String) (value : Single) : Port :=
  (scalar id label).withDefault (.float value)

/-- A color input with a default value of alpha one and three equal components. -/
def grayOr (id : PortId) (label : String) (value : Single) : Port :=
  (Port.input id label color).withDefault (.color value value value .one)

/-- The output of a type that holds the result of an operation. -/
def result (type : PortType) : Port :=
  Port.output "result" "Result" type

/-- The output of the material. -/
def outputType : NodeType :=
  entry .pbrOutput "PBR Output" .output "Final PBR material output"
    [grayOr "base_color" "Base Color" (.ofQuotient 4 5),
      scalarOr "metallic" "Metallic" .zero,
      scalarOr "roughness" "Roughness" (.ofQuotient 1 2),
      Port.input "normal" "Normal" vec3,
      grayOr "emissive" "Emissive" .zero,
      scalarOr "alpha" "Alpha" .one]
    []

/-- A type that offers an expression of the shader. -/
def source (kind : NodeKind) (name description : String) (port : PortId) (type : PortType) :
    NodeType :=
  entry kind name .input description [] [Port.output port name type]

/-- The types that offer expressions of the shader. -/
def sources : List NodeType :=
  [source .vertexPosition "Vertex Position" "Fragment world position" "position" vec3,
    source .vertexNormal "Vertex Normal" "Fragment world normal" "normal" vec3,
    source .uv "UV" "Mesh UV coordinates" "uv" vec2,
    source .time "Time" "Elapsed time in seconds" "time" float,
    source .cameraPosition "Camera Position" "Camera world position" "position" vec3,
    source .viewDirection "View Direction" "Direction from fragment to camera" "direction" vec3]

/-- The types of constants. -/
def constants : List NodeType :=
  [source .floatConstant "Float" "Constant float value" "value" float,
    source .vec2Constant "Vector2" "Constant vector2 value" "vector" vec2,
    source .vec3Constant "Vector3" "Constant vector3 value" "vector" vec3,
    source .vec4Constant "Vector4" "Constant vector4 value" "vector" vec4,
    source .colorConstant "Color" "Constant color value" "color" color]

/-- A scalar operation. -/
def operation (kind : NodeKind) (name description : String) (inputs : List Port) : NodeType :=
  entry kind name .math description inputs [result float]

/-- A scalar operation on two values. -/
def pairOperation (kind : NodeKind) (name description : String) : NodeType :=
  operation kind name description [scalar "a" "A", scalar "b" "B"]

/-- A scalar operation on one value. -/
def valueOperation (kind : NodeKind) (name description : String) : NodeType :=
  operation kind name description [scalar "value" "Value"]

/-- A scalar operation on an angle. -/
def angleOperation (kind : NodeKind) (name description : String) : NodeType :=
  operation kind name description [scalar "angle" "Angle"]

/-- The types of scalar operations. -/
def operations : List NodeType :=
  [pairOperation .add "Add" "Add two values",
    pairOperation .subtract "Subtract" "Subtract B from A",
    pairOperation .multiply "Multiply" "Multiply two values",
    pairOperation .divide "Divide" "Divide A by B",
    operation .power "Power" "Raise base to the power of exponent"
      [scalar "base" "Base", scalarOr "exponent" "Exponent" (.ofNat 2)],
    valueOperation .sqrt "Square Root" "Square root of value",
    valueOperation .abs "Absolute" "Absolute value",
    valueOperation .fract "Fraction" "Fractional part of value",
    valueOperation .floor "Floor" "Round down to nearest integer",
    valueOperation .ceil "Ceiling" "Round up to nearest integer",
    valueOperation .saturate "Saturate" "Clamp value between 0 and 1",
    pairOperation .min "Minimum" "Minimum of two values",
    pairOperation .max "Maximum" "Maximum of two values",
    angleOperation .sin "Sine" "Sine of angle (radians)",
    angleOperation .cos "Cosine" "Cosine of angle (radians)",
    angleOperation .tan "Tangent" "Tangent of angle (radians)",
    operation .clamp "Clamp" "Clamp value between min and max"
      [scalar "value" "Value", scalarOr "min" "Min" .zero, scalarOr "max" "Max" .one],
    operation .lerp "Lerp" "Linear interpolation between A and B"
      [scalar "a" "A", scalar "b" "B", scalarOr "t" "T" (.ofQuotient 1 2)],
    operation .step "Step" "0 below the edge, 1 at or above it"
      [scalarOr "edge" "Edge" (.ofQuotient 1 2), scalar "x" "X"],
    operation .smoothstep "Smoothstep" "Hermite interpolation between edges"
      [scalarOr "edge0" "Edge0" .zero, scalarOr "edge1" "Edge1" .one, scalar "x" "X"]]

/-- An operation on one vector. -/
def vectorOperation (kind : NodeKind) (name description : String) (type : PortType) : NodeType :=
  entry kind name .vector description [Port.input "vector" "Vector" vec3] [result type]

/-- An operation on two vectors. -/
def vectorPairOperation (kind : NodeKind) (name description : String) (type : PortType) :
    NodeType :=
  entry kind name .vector description [Port.input "a" "A" vec3, Port.input "b" "B" vec3]
    [result type]

/-- The types of vector operations. -/
def vectorOperations : List NodeType :=
  [vectorOperation .normalize "Normalize" "Normalize vector to unit length" vec3,
    vectorOperation .length "Length" "Length of vector" float,
    vectorPairOperation .distance "Distance" "Distance between two points" float,
    vectorPairOperation .dot "Dot Product" "Dot product of two vectors" float,
    vectorPairOperation .cross "Cross Product" "Cross product of two 3D vectors" vec3]

/-- The names of the components of a vector, with their labels. -/
def componentNames : List (PortId × String) :=
  [("x", "X"), ("y", "Y"), ("z", "Z"), ("w", "W")]

/-- The type that takes a vector apart, and the one that puts it together. -/
def vectorParts (split combine : NodeKind) (name : String) (type : PortType) : List NodeType :=
  let parts := componentNames.take (PortValue.width type)
  [entry split ("Split " ++ name) .vector ("Split " ++ name ++ " into components")
      [Port.input "vector" "Vector" type]
      (parts.map fun (id, label) => Port.output id label float),
    entry combine ("Combine " ++ name) .vector ("Combine components into " ++ name)
      (parts.map fun (id, label) => scalar id label)
      [Port.output "vector" "Vector" type]]

/-- The types that take vectors apart and put them together. -/
def vectorTypes : List NodeType :=
  vectorParts .splitVec2 .combineVec2 "Vector2" vec2 ++
    vectorParts .splitVec3 .combineVec3 "Vector3" vec3 ++
    vectorParts .splitVec4 .combineVec4 "Vector4" vec4

/-- The types that work on colors. -/
def colorTypes : List NodeType :=
  [entry .hsvToRgb "HSV to RGB" .color "Convert HSV to RGB color"
      [scalarOr "hue" "Hue" .zero, scalarOr "saturation" "Saturation" .one,
        scalarOr "value" "Value" .one]
      [Port.output "rgb" "RGB" color],
    entry .rgbToHsv "RGB to HSV" .color "Convert RGB to HSV color"
      [grayOr "rgb" "RGB" .one]
      [Port.output "hue" "Hue" float, Port.output "saturation" "Saturation" float,
        Port.output "value" "Value" float],
    entry .colorRamp "Color Ramp" .color "Blend between two color stops by a factor"
      [scalarOr "factor" "Factor" (.ofQuotient 1 2), grayOr "color_a" "Color A" .zero,
        grayOr "color_b" "Color B" .one]
      [Port.output "color" "Color" color]]

/-- The types of patterns and effects. -/
def patternTypes : List NodeType :=
  [entry .noise "Noise" .procedural "Generate smooth value noise"
      [Port.input "uv" "UV" vec2, scalarOr "scale" "Scale" (.ofNat 10)]
      [Port.output "value" "Value" float],
    entry .voronoi "Voronoi" .procedural "Generate Voronoi cellular noise"
      [Port.input "uv" "UV" vec2, scalarOr "scale" "Scale" (.ofNat 5)]
      [Port.output "distance" "Distance" float, Port.output "color" "Color" color],
    entry .fresnel "Fresnel" .math "Fresnel effect based on view angle"
      [Port.input "normal" "Normal" vec3, scalarOr "power" "Power" (.ofNat 5)]
      [result float]]

/-- The types that sample textures. -/
def textureTypes : List NodeType :=
  [entry .textureSample "Texture Sample" .texture "Sample a 2D texture"
      [Port.input "texture" "Texture" texture2d, Port.input "uv" "UV" vec2]
      [Port.output "color" "Color" color, Port.output "alpha" "Alpha" float],
    entry .normalMap "Normal Map" .texture "Sample and decode a normal map"
      [Port.input "texture" "Texture" texture2d, Port.input "uv" "UV" vec2,
        scalarOr "strength" "Strength" .one]
      [Port.output "normal" "Normal" vec3]]

/-- The types of the standard catalog. -/
def standardTypes : List NodeType :=
  outputType :: sources ++ constants ++ operations ++ vectorOperations ++ vectorTypes ++
    colorTypes ++ patternTypes ++ textureTypes

/-- The standard catalog. -/
def standard : Catalog :=
  Table.ofList standardTypes

end MaterialGraph.Catalog
