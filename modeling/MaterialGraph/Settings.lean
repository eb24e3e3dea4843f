import MaterialGraph.Document.Load

/-!
# Settings

The settings of a run are kept in a RON file, by default beside the graph. Every field may be left
out, and then has its default value.
-/

namespace MaterialGraph

/-- The settings of a run. -/
structure Settings where
  outputDirectory : Option Path
  logFilter : String
  strictValidation : Bool
  /-- How long changes are collected before a watched graph is compiled again. -/
  watchMilliseconds : Nat
  emitJsonResult : Bool
deriving DecidableEq, Repr

/-- Why settings cannot be loaded or saved. -/
inductive SettingsError where
  | inaccessible (path : Path) (fault : FileFault)
  | invalid (path : Path)
deriving DecidableEq, Repr

/-- The text of a settings error. -/
def SettingsError.message : SettingsError → String
  | inaccessible path fault =>
    "Failed to access config file " ++ quotedInMessage path ++ ": " ++ fault.message
  | invalid path => "Invalid config file " ++ quotedInMessage path ++ ":"

namespace Settings

/-- The settings where no file gives others. -/
def default : Settings :=
  ⟨none, "warn,ordoplay_shaderc=info", false, 250, false⟩

/-- The name of the settings file beside a graph. -/
def fileName : String := "shaderc.ron"

/-- The name of the record in a settings file. -/
def recordName : String := "ShadercConfig"

/-- The fields of settings. -/
def fields : List FieldRule :=
  [⟨"output_dir", true⟩, ⟨"log_filter", true⟩, ⟨"strict_validation", true⟩,
    ⟨"watch_debounce_ms", true⟩, ⟨"emit_json_result", true⟩]

open DataSource in
/-- Read settings. -/
def decode {σ : Type} [DataSource σ] (s : σ) : Option Settings :=
  match record? recordName fields s with
  | some [outputDirectory, logFilter, strict, milliseconds, json] => do
    some
      { outputDirectory := ← orElse default.outputDirectory (optionOf text?) outputDirectory
        logFilter := ← orElse default.logFilter text? logFilter
        strictValidation := ← orElse default.strictValidation flag? strict
        watchMilliseconds := ← orElse default.watchMilliseconds word? milliseconds
        emitJsonResult := ← orElse default.emitJsonResult flag? json }
  | _ => none

/-- Write settings. -/
def encode {τ : Type} [DataSink τ] (s : Settings) : τ :=
  DataSink.record recordName
    [("output_dir", DataSink.option (s.outputDirectory.map DataSink.text)),
      ("log_filter", DataSink.text s.logFilter),
      ("strict_validation", DataSink.flag s.strictValidation),
      ("watch_debounce_ms", DataSink.word s.watchMilliseconds),
      ("emit_json_result", DataSink.flag s.emitJsonResult)]

/-- The settings of a text. -/
def ofText? (source : String) : Option Settings :=
  readRon? decode source

/-- The text of settings, with the name of the record. -/
def toText (s : Settings) : String :=
  Ron.spreadString (Ron.withTypeName recordName s.encode)

/-- The settings of a file that has been read, or could not be. -/
def ofFile (path : Path) (content : Except FileFault ByteArray) : Except SettingsError Settings :=
  match content.bind textOfBytes with
  | .error fault => .error (.inaccessible path fault)
  | .ok source => (ofText? source).elim (.error (.invalid path)) .ok

/-- The settings file beside a graph. -/
def besides (input : Path) : Path :=
  (input.parent?.getD "").join fileName

/-- How a document is checked. -/
def policy (s : Settings) : ValidationPolicy :=
  if s.strictValidation then .strict else .permissive

/-- The file of a graph's shader, if there is a directory for shaders. -/
def outputPath? (s : Settings) (input : Path) : Option Path :=
  s.outputDirectory.bind fun directory =>
    input.stem?.map fun stem => directory.join (stem ++ ".wgsl")

end Settings

end MaterialGraph
