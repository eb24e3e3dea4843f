import MaterialGraph.Shader.Block

/-!
# Expansions

The kinds whose block is a fixed sequence of statements. Each expansion reads its inputs, and gives
its statements and the phrases of its outputs in terms of the number of its first variable. Outputs
that a catalog does not declare are not bound.
-/

namespace MaterialGraph

namespace Expansion

open Block (define)
open Phrase (join)
open PortType (float vec2 vec3 vec4)

/-- The kind that expands in a given way. -/
def kind : Expansion → NodeKind
  | fresnel => .fresnel
  | noise => .noise
  | voronoi => .voronoi
  | hsvToRgb => .hsvToRgb
  | rgbToHsv => .rgbToHsv
  | colorRamp => .colorRamp

/-- A falloff by the angle between the normal and the view. -/
def fresnelBlock (start : Nat) (normal power : Phrase) : Block :=
  let view := Phrase.ofVariable start
  let facing := Phrase.ofVariable (start + 1)
  { statements :=
      [define vec3 Builtin.viewDirection,
        define float (join ["max(dot(normalize(", normal, "), ", view, "), 0.0)"]),
        define float (join ["pow(1.0 - ", facing, ", ", power, ")"])]
    bindings := [("result", Phrase.ofVariable (start + 2))] }

/-- A number between zero and one that is scattered over the cells of a grid. -/
def hashed (cell : Phrase) : Phrase :=
  join ["fract(sin(dot(", cell, ", vec2<f32>(12.9898, 78.233))) * 43758.5453)"]

/-- Smooth noise: scattered values at the corners of a cell, mixed by the place in the cell. -/
def noiseBlock (start : Nat) (uv scale : Phrase) : Block :=
  let p := Phrase.ofVariable start
  let cell := Phrase.ofVariable (start + 1)
  let place := Phrase.ofVariable (start + 2)
  let fade := Phrase.ofVariable (start + 3)
  let a := Phrase.ofVariable (start + 4)
  let b := Phrase.ofVariable (start + 5)
  let c := Phrase.ofVariable (start + 6)
  let d := Phrase.ofVariable (start + 7)
  { statements :=
      [define vec2 (join [uv, " * ", scale]),
        define vec2 (join ["floor(", p, ")"]),
        define vec2 (join ["fract(", p, ")"]),
        define vec2 (join [place, " * ", place, " * (3.0 - 2.0 * ", place, ")"]),
        define float (hashed (join [cell, " + vec2<f32>(0.0, 0.0)"])),
        define float (hashed (join [cell, " + vec2<f32>(1.0, 0.0)"])),
        define float (hashed (join [cell, " + vec2<f32>(0.0, 1.0)"])),
        define float (hashed (join [cell, " + vec2<f32>(1.0, 1.0)"])),
        define float
          (join ["mix(mix(", a, ", ", b, ", ", fade, ".x), mix(", c, ", ", d, ", ", fade, ".x), ",
            fade, ".y)"])]
    bindings := [("value", Phrase.ofVariable (start + 8))] }

/-- The distance to the nearest of points that are scattered one to a cell. The color is a
stand-in. -/
def voronoiBlock (start : Nat) (uv scale : Phrase) : Block :=
  let p := Phrase.ofVariable start
  let cell := Phrase.ofVariable (start + 1)
  let nearest := Phrase.ofVariable (start + 2)
  { statements :=
      [define vec2 (join [uv, " * ", scale]),
        define vec2 (join ["floor(", p, ")"]),
        .declare .assignable (some float.shaderType) "8.0",
        .line "for (var y: i32 = -1; y <= 1; y++) \x7b",
        .line "    for (var x: i32 = -1; x <= 1; x++) \x7b",
        .line (join ["        let neighbor = ", cell, " + vec2<f32>(f32(x), f32(y));"]),
        .line (join ["        let jitter = fract(sin(vec2<f32>(",
          "dot(neighbor, vec2<f32>(127.1, 311.7)), ",
          "dot(neighbor, vec2<f32>(269.5, 183.3)))) * 43758.5453);"]),
        .line (join ["        ", nearest, " = min(", nearest, ", distance(", p,
          ", neighbor + jitter));"]),
        .line "    \x7d",
        .line "\x7d"]
    bindings := [("distance", nearest), ("color", PortType.color.placeholder)] }

/-- The color of a hue, a saturation and a value. -/
def hsvToRgbBlock (start : Nat) (hue saturation value : Phrase) : Block :=
  let k := Phrase.ofVariable start
  let chroma := Phrase.ofVariable (start + 1)
  { statements :=
      [define vec3
          (join ["abs(fract(vec3<f32>(", hue,
            ") + vec3<f32>(1.0, 2.0 / 3.0, 1.0 / 3.0)) * 6.0 - vec3<f32>(3.0))"]),
        define vec3 (join ["clamp(", k, " - vec3<f32>(1.0), vec3<f32>(0.0), vec3<f32>(1.0))"]),
        define vec4
          (join ["vec4<f32>(", value, " * mix(vec3<f32>(1.0), ", chroma, ", ", saturation,
            "), 1.0)"])]
    bindings := [("rgb", Phrase.ofVariable (start + 2))] }

/-- The hue, the saturation and the value of a color. -/
def rgbToHsvBlock (start : Nat) (rgb : Phrase) : Block :=
  let c := Phrase.ofVariable start
  let p := Phrase.ofVariable (start + 1)
  let q := Phrase.ofVariable (start + 2)
  let d := Phrase.ofVariable (start + 3)
  { statements :=
      [define vec3 (join [rgb, ".rgb"]),
        define vec4
          (join ["mix(vec4<f32>(", c, ".bg, -1.0, 2.0 / 3.0), vec4<f32>(", c,
            ".gb, 0.0, -1.0 / 3.0), step(", c, ".b, ", c, ".g))"]),
        define vec4
          (join ["mix(vec4<f32>(", p, ".xyw, ", c, ".r), vec4<f32>(", c, ".r, ", p,
            ".yzx), step(", p, ".x, ", c, ".r))"]),
        define float (join [q, ".x - min(", q, ".w, ", q, ".y)"]),
        define float
          (join ["abs(", q, ".z + (", q, ".w - ", q, ".y) / (6.0 * ", d, " + 1.0e-10))"]),
        define float (join [d, " / (", q, ".x + 1.0e-10)"]),
        define float (join [q, ".x"])]
    bindings :=
      [("hue", Phrase.ofVariable (start + 4)),
        ("saturation", Phrase.ofVariable (start + 5)),
        ("value", Phrase.ofVariable (start + 6))] }

/-- The factor of a ramp after its interpolation. -/
def shaped (interpolation : RampInterpolation) (factor : Phrase) : Phrase :=
  match interpolation with
  | .linear => join ["clamp(", factor, ", 0.0, 1.0)"]
  | .ease => join ["smoothstep(0.0, 1.0, ", factor, ")"]
  | .constant => join ["step(1.0, ", factor, ")"]

/-- A blend of two colors by a shaped factor. -/
def colorRampBlock (start : Nat) (interpolation : RampInterpolation)
    (factor colorA colorB : Phrase) : Block :=
  let t := Phrase.ofVariable start
  { statements :=
      [define float (shaped interpolation factor),
        define vec4 (join ["mix(", colorA, ", ", colorB, ", ", t, ")"])]
    bindings := [("color", Phrase.ofVariable (start + 1))] }

/-- The block of an expansion, whose first variable has a given number. -/
def block (node : Node) (inputs : Inputs) (start : Nat) (expansion : Expansion) :
    Except CompileError Block := do
  let read := inputs.phrase expansion.kind
  let readOr := inputs.phraseOr expansion.kind
  match expansion with
  | fresnel =>
    return fresnelBlock start (← readOr "normal" Builtin.worldNormal) (← read "power")
  | noise => return noiseBlock start (← readOr "uv" Builtin.uv) (← read "scale")
  | voronoi => return voronoiBlock start (← readOr "uv" Builtin.uv) (← read "scale")
  | hsvToRgb => return hsvToRgbBlock start (← read "hue") (← read "saturation") (← read "value")
  | rgbToHsv => return rgbToHsvBlock start (← read "rgb")
  | colorRamp =>
    match node.params with
    | .colorRamp interpolation =>
      return colorRampBlock start interpolation (← read "factor") (← read "color_a")
        (← read "color_b")
    | params =>
      throw (.invalidParameters node.id .colorRamp NodeKind.colorRamp.paramShape params.shape)

end Expansion

end MaterialGraph
