import MaterialGraph.Data
import MaterialGraph.Decimal.Numeral

/-!
# Ports

Node types declare ports: inputs and outputs of a type that can flow between nodes. A value stands
in shader text as a literal whose components have four places. An input that nothing feeds has the
literal of its default value, or the zero of its type.
-/

namespace MaterialGraph

/-- The name of a port, which tells it from the others of its node type. -/
abbrev PortId := String

/-- The side of a node on which a port is. -/
inductive PortDirection where
  | input
  | output
deriving DecidableEq, Repr

namespace PortDirection

/-- The name of a direction in documents. -/
def name : PortDirection → String
  | input => "Input"
  | output => "Output"

/-- The directions by name. -/
def names : List (String × PortDirection) :=
  [input, output].map fun d => (d.name, d)

end PortDirection

/-- What flows through a port. -/
inductive PortType where
  | float
  | vec2
  | vec3
  | vec4
  | color
  | texture2d
  | exec
deriving DecidableEq, Repr

namespace PortType

/-- The name of a port type in documents. -/
def name : PortType → String
  | float => "float"
  | vec2 => "vec2"
  | vec3 => "vec3"
  | vec4 => "vec4"
  | color => "color"
  | texture2d => "texture2d"
  | exec => "exec"

/-- The port types by name. -/
def names : List (String × PortType) :=
  [float, vec2, vec3, vec4, color, texture2d, exec].map fun t => (t.name, t)

/-- The type of its values in shader text. -/
def shaderType : PortType → String
  | float => "f32"
  | vec2 => "vec2<f32>"
  | vec3 => "vec3<f32>"
  | vec4 | color => "vec4<f32>"
  | texture2d => "texture_2d<f32>"
  | exec => "void"

/-- The value of an input without a default. Alpha is one, and types without values have the zero of
a scalar. -/
def zeroLiteral : PortType → String
  | float | texture2d | exec => "0.0"
  | vec2 => "vec2<f32>(0.0, 0.0)"
  | vec3 => "vec3<f32>(0.0, 0.0, 0.0)"
  | vec4 | color => "vec4<f32>(0.0, 0.0, 0.0, 1.0)"

/-- Whether an output of the first type may feed an input of the second. -/
def feeds : PortType → PortType → Bool
  | float, vec2 | float, vec3 | float, vec4 | float, color => true
  | vec2, vec3 | vec2, vec4 => true
  | vec3, vec4 => true
  | color, vec4 | vec4, color => true
  | a, b => a == b

end PortType

/-- A literal value. -/
inductive PortValue where
  | float (x : Single)
  | vec2 (x y : Single)
  | vec3 (x y z : Single)
  | vec4 (x y z w : Single)
  | color (r g b a : Single)
deriving DecidableEq, Repr

namespace PortValue

/-- The type of a value. -/
def type : PortValue → PortType
  | float .. => .float
  | vec2 .. => .vec2
  | vec3 .. => .vec3
  | vec4 .. => .vec4
  | color .. => .color

/-- The components in order. -/
def components : PortValue → List Single
  | float x => [x]
  | vec2 x y => [x, y]
  | vec3 x y z => [x, y, z]
  | vec4 x y z w => [x, y, z, w]
  | color r g b a => [r, g, b, a]

/-- The value of a type with given components. -/
def ofComponents? : PortType → List Single → Option PortValue
  | .float, [x] => some (float x)
  | .vec2, [x, y] => some (vec2 x y)
  | .vec3, [x, y, z] => some (vec3 x y z)
  | .vec4, [x, y, z, w] => some (vec4 x y z w)
  | .color, [r, g, b, a] => some (color r g b a)
  | _, _ => none

/-- Whether every component is finite. -/
def isFinite (v : PortValue) : Bool :=
  v.components.all Single.isFinite

/-- A component in shader text. -/
def componentText (x : Single) : String :=
  String.ofList (x.fixed 4)

/-- The value in shader text: a scalar plainly, others as a construction of their type. -/
def literal (v : PortValue) : String :=
  match v with
  | float x => componentText x
  | v => v.type.shaderType ++ "(" ++ ", ".intercalate (v.components.map componentText) ++ ")"

/-- The types that have values, by the names of their variants in documents. -/
def variantTypes : List (String × PortType) :=
  [("Float", .float), ("Vec2", .vec2), ("Vec3", .vec3), ("Vec4", .vec4), ("Color", .color)]

/-- The name of a value's variant in documents. -/
def variantName : PortValue → String
  | float .. => "Float"
  | vec2 .. => "Vec2"
  | vec3 .. => "Vec3"
  | vec4 .. => "Vec4"
  | color .. => "Color"

/-- How many components the values of a type have. -/
def width : PortType → Nat
  | .vec2 => 2
  | .vec3 => 3
  | .vec4 | .color => 4
  | _ => 1

/-- The components of a value of a known type: a number, or a fixed count of them. -/
def decodeComponents {σ : Type} [DataSource σ] (t : PortType) (s : σ) : Option PortValue :=
  match t with
  | .float => (DataSource.number? s).map float
  | t => (DataSource.numbers? (width t) s).bind (ofComponents? t)

/-- The components of a value. -/
def encodeComponents {τ : Type} [DataSink τ] (v : PortValue) : τ :=
  match v with
  | float x => DataSink.number x
  | v => DataSink.numbers v.components

/-- Read a value. -/
def decode {σ : Type} [DataSource σ] (s : σ) : Option PortValue :=
  match DataSource.variant? (variantTypes.map fun (name, _) => (name, .wrapped)) s with
  | some (name, [some content]) =>
    (variantTypes.lookup name).bind fun t => decodeComponents t content
  | _ => none

/-- Write a value. -/
def encode {τ : Type} [DataSink τ] (v : PortValue) : τ :=
  DataSink.variant v.variantName (.wrapped v.encodeComponents)

end PortValue

/-- A port that a node type declares. -/
structure Port where
  id : PortId
  label : String
  direction : PortDirection
  type : PortType
  default : Option PortValue
deriving DecidableEq, Repr

namespace Port

/-- An input without a default value. -/
def input (id : PortId) (label : String) (type : PortType) : Port :=
  ⟨id, label, .input, type, none⟩

/-- An output. -/
def output (id : PortId) (label : String) (type : PortType) : Port :=
  ⟨id, label, .output, type, none⟩

/-- The port with a default value. -/
def withDefault (p : Port) (v : PortValue) : Port :=
  { p with default := some v }

/-- The literal that stands for an input that nothing feeds. -/
def defaultLiteral (p : Port) : String :=
  match p.default with
  | some v => v.literal
  | none => p.type.zeroLiteral

/-- Whether two ports have opposite directions and the first may feed the second. -/
def connects (a b : Port) : Bool :=
  a.direction != b.direction && a.type.feeds b.type

/-- The fields of a port in documents. -/
def fields : List FieldRule :=
  [⟨"id", false⟩, ⟨"label", false⟩, ⟨"direction", false⟩, ⟨"port_type", false⟩,
    ⟨"default_value", false⟩]

open DataSource in
/-- Read a port. -/
def decode {σ : Type} [DataSource σ] (s : σ) : Option Port :=
  match record? "Port" fields s with
  | some [id, label, direction, type, default] => do
    some
      { id := ← required text? id
        label := ← required text? label
        direction := ← required (oneOf PortDirection.names) direction
        type := ← required (oneOf PortType.names) type
        default := ← orElse none (optionOf PortValue.decode) default }
  | _ => none

/-- Write a port. -/
def encode {τ : Type} [DataSink τ] (p : Port) : τ :=
  DataSink.record "Port"
    [("id", DataSink.text p.id),
      ("label", DataSink.text p.label),
      ("direction", DataSink.variant p.direction.name .unit),
      ("port_type", DataSink.variant p.type.name .unit),
      ("default_value", DataSink.option (p.default.map PortValue.encode))]

end Port

end MaterialGraph
