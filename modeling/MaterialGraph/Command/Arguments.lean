import MaterialGraph.Settings

/-!
# Command line arguments

A command line names one graph, and options in any order. An option with a value takes whatever
comes next. Of an option that is given twice the last one counts. A request for help stops the
reading.
-/

namespace MaterialGraph

/-- What a command line asks to compile, and how. -/
structure Arguments where
  input : Path
  output : Option Path
  settings : Option Path
  strict : Bool
  json : Bool
  watch : Bool
  initSettings : Bool
deriving DecidableEq, Repr

/-- What a command line asks for. -/
inductive Command where
  | help
  | compile (arguments : Arguments)
deriving DecidableEq, Repr

/-- Why a command line cannot be used. -/
inductive UsageError where
  | missingValue (option : String)
  | unknownArgument (argument : String)
  | extraInput (argument : String)
  | missingInput
deriving DecidableEq, Repr

/-- The text of a usage error. -/
def UsageError.message : UsageError → String
  | missingValue option => "missing value for " ++ option
  | unknownArgument argument => "unknown argument: " ++ argument
  | extraInput argument => "unexpected extra input: " ++ argument
  | missingInput => "missing input graph"

namespace Command

/-- The text that explains the command line. -/
def usage : String :=
  "usage: ordoplay_shaderc <graph.ron|graph.json> [options]\n" ++
  "\n" ++
  "options:\n" ++
  "  -o, --output <out.wgsl>   write the shader to a file instead of stdout\n" ++
  "  --config <shaderc.ron>    settings file (default: shaderc.ron beside the graph)\n" ++
  "  --strict                  reject duplicate output nodes and duplicate input edges\n" ++
  "  --json                    print the compile result as JSON\n" ++
  "  --watch                   recompile whenever the graph file changes\n" ++
  "  --init-config             write a default settings file and exit\n" ++
  "  -h, --help                show this help"

/-- What has been read of a command line. -/
structure Partial where
  input : Option Path
  output : Option Path
  settings : Option Path
  strict : Bool
  json : Bool
  watch : Bool
  initSettings : Bool
deriving DecidableEq, Repr

/-- Nothing read. -/
def Partial.start : Partial :=
  ⟨none, none, none, false, false, false, false⟩

/-- The command of a line that has been read to its end. -/
def Partial.finish (p : Partial) : Except UsageError Command :=
  match p.input with
  | none => .error .missingInput
  | some input =>
    .ok (.compile ⟨input, p.output, p.settings, p.strict, p.json, p.watch, p.initSettings⟩)

/-- What an argument is. -/
inductive ArgumentKind where
  | help
  | output
  | settings
  | strict
  | json
  | watch
  | initSettings
  | unknown
  | input
deriving DecidableEq, Repr

/-- The options by their spelling. -/
def options : List (String × ArgumentKind) :=
  [("-h", .help), ("--help", .help), ("-o", .output), ("--output", .output),
    ("--config", .settings), ("--strict", .strict), ("--json", .json), ("--watch", .watch),
    ("--init-config", .initSettings)]

/-- What an argument is, when no option before it takes it as a value. -/
def kindOf (argument : String) : ArgumentKind :=
  match options.lookup argument with
  | some kind => kind
  | none => if argument.toList.head? == some '-' then .unknown else .input

/-- Read arguments one after the other. -/
def readFrom (p : Partial) : List String → Except UsageError Command
  | [] => p.finish
  | argument :: rest =>
    match kindOf argument, rest with
    | .help, _ => .ok .help
    | .output, value :: rest => readFrom { p with output := some value } rest
    | .output, [] => .error (.missingValue "--output")
    | .settings, value :: rest => readFrom { p with settings := some value } rest
    | .settings, [] => .error (.missingValue "--config")
    | .strict, rest => readFrom { p with strict := true } rest
    | .json, rest => readFrom { p with json := true } rest
    | .watch, rest => readFrom { p with watch := true } rest
    | .initSettings, rest => readFrom { p with initSettings := true } rest
    | .unknown, _ => .error (.unknownArgument argument)
    | .input, rest =>
      if p.input.isSome then .error (.extraInput argument)
      else readFrom { p with input := some argument } rest

/-- The command of a list of arguments. -/
def ofArguments (arguments : List String) : Except UsageError Command :=
  readFrom .start arguments

end Command

/-- What one compilation does, after the arguments have been put over the settings. -/
structure CompileOptions where
  input : Path
  output : Option Path
  policy : ValidationPolicy
  json : Bool
deriving DecidableEq, Repr

/-- The options of arguments and settings. -/
def CompileOptions.of (arguments : Arguments) (settings : Settings) : CompileOptions where
  input := arguments.input
  output := arguments.output <|> settings.outputPath? arguments.input
  policy := if arguments.strict then .strict else settings.policy
  json := arguments.json || settings.emitJsonResult

end MaterialGraph
