import MaterialGraph.Text.Basic

/-!
# The shader around the statements

A fixed text with two slots, one for statements and one for assignments. A block of lines is
indented and set off by an empty line; no lines leave no trace. The slots are filled one after the
other, and the second is looked for in the result of the first.
-/

namespace MaterialGraph.Template

/-- The slot of the statements. -/
def statementsSlot : String := "\x7b\x7bstatements\x7d\x7d"

/-- The slot of the assignments. -/
def assignmentsSlot : String := "\x7b\x7bassignments\x7d\x7d"

/-- The text before the slots. -/
def before : String :=
  "#import bevy_pbr::\x7b\n" ++
  "    forward_io::VertexOutput,\n" ++
  "    mesh_view_bindings::\x7bglobals, view\x7d,\n" ++
  "    pbr_fragment::pbr_input_from_vertex_output,\n" ++
  "    pbr_functions::apply_pbr_lighting,\n" ++
  "\x7d\n" ++
  "\n" ++
  "@fragment\n" ++
  "fn fragment(\n" ++
  "    in: VertexOutput,\n" ++
  "    @builtin(front_facing) is_front: bool,\n" ++
  ") -> @location(0) vec4<f32> \x7b\n" ++
  "    var pbr_input = pbr_input_from_vertex_output(in, is_front, false);\n"

/-- The text after the slots. -/
def after : String :=
  "\n" ++
  "    var color = apply_pbr_lighting(pbr_input);\n" ++
  "    return color;\n" ++
  "\x7d\n"

/-- The text with its slots. -/
def text : String :=
  before ++ statementsSlot ++ assignmentsSlot ++ after

/-- A line of a block. -/
def renderLine (line : String) : List Char :=
  "    ".toList ++ line.toList ++ ['\n']

/-- A block of lines. -/
def renderBlock : List String → List Char
  | [] => []
  | lines => '\n' :: lines.flatMap renderLine

/-- The shader of statements and assignments. -/
def assemble (statements assignments : List String) : String :=
  String.ofList
    (replaceFirst assignmentsSlot.toList (renderBlock assignments)
      (replaceFirst statementsSlot.toList (renderBlock statements) text.toList))

end MaterialGraph.Template
