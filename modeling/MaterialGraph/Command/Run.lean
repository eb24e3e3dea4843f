import MaterialGraph.Catalog.Standard
import MaterialGraph.Command.Arguments
import MaterialGraph.Command.Host
import MaterialGraph.Shader.Compile

/-!
# Running a command

A run reads the settings, sets up the log, loads the graph, compiles it and writes the result, and
stops at the first fault. The exit code is 1 if the graph does not compile and 2 for any other
fault, also for a result that cannot be written. A result in JSON is written also when the graph
does not compile.
-/

namespace MaterialGraph

/-- Why a run fails. -/
inductive RunError where
  | usage (error : UsageError)
  | settings (error : SettingsError)
  | logFilter (error : LogFilterError)
  | document (fault : LoadFault)
  | compile (error : CompileError)
  | write (path : Path) (fault : FileFault)
  | watchPath (path : Path)
  | watchDirectory (path : Path) (fault : FileFault)
deriving DecidableEq, Repr

namespace RunError

/-- The text of a run error. -/
def message : RunError → String
  | usage error => error.message
  | settings error => error.message
  | logFilter error => "Invalid log filter: " ++ error.message
  | document fault => fault.message
  | compile error => "Compilation failed: " ++ error.message
  | write path fault => "Failed to write " ++ quotedInMessage path ++ ": " ++ fault.message
  | watchPath path =>
    "File watcher error: No path was found. about [" ++ quotedInMessage path ++ "]"
  | watchDirectory path fault =>
    "File watcher error: " ++ fault.message ++ " about [" ++ quotedInMessage path ++ "]"

/-- The exit code of a run that fails. -/
def exitCode : RunError → UInt8
  | compile _ => 1
  | _ => 2

end RunError

/-- The targets of the events of a run. -/
def runTarget : String := "ordoplay_shaderc"

/-- The target of the events of a single step of a run. -/
def stepTarget : String := "ordoplay_shaderc::cli"

/-- The target of the events of watching. -/
def watchTarget : String := "ordoplay_shaderc::watcher"

/-- What happened to a watched graph. -/
inductive WatchEvent where
  | changed (path : Path)
  | removed (path : Path)
deriving DecidableEq, Repr

namespace Command

variable {m : Type → Type} [Monad m] [Host m]

/-- Show an event if a filter lets it pass. -/
def log (filter : LogFilter) (event : LogEvent) : m Unit :=
  if filter.shows event then Host.report event.line else pure ()

/-- Show events one after the other. -/
def logAll (filter : LogFilter) : List LogEvent → m Unit
  | [] => pure ()
  | event :: rest => do
    log filter event
    logAll filter rest

/-- Load settings from a file. -/
def loadSettings (path : Path) : m (Except SettingsError Settings) := do
  return Settings.ofFile path (← Host.readFile path)

/-- The settings of an explicit file, else of the file beside the graph, else the default ones. -/
def discoverSettings (input : Path) (explicit : Option Path) :
    m (Except SettingsError Settings) := do
  match explicit with
  | some path => loadSettings path
  | none =>
    if ← Host.isFile (Settings.besides input) then loadSettings (Settings.besides input)
    else return .ok .default

/-- Save settings to a file. -/
def saveSettings (settings : Settings) (path : Path) : m (Except SettingsError Unit) := do
  match ← Host.writeFile path settings.toText with
  | .ok () => return .ok ()
  | .error fault => return .error (.inaccessible path fault)

/-- The filter of the environment, if it gives a good one, else that of the settings. -/
def chooseFilter (environment : Option String) (settings : Settings) :
    Except LogFilterError LogFilter :=
  match environment.map LogFilter.ofText with
  | some (.ok filter) => .ok filter
  | _ => LogFilter.ofText settings.logFilter

/-- The text of a count. -/
def countText (n : Nat) : String :=
  String.ofList (digitsOf n)

/-- The path by which messages name the stream of results. -/
def resultsPath : Path := "-"

/-- Write a text to a file, whose directory is made, or as a result. -/
def emit (filter : LogFilter) (output : Option Path) (text : String) :
    m (Except RunError Unit) := do
  match output with
  | none =>
    match ← Host.print text with
    | .error fault => return .error (.write resultsPath fault)
    | .ok () => return .ok ()
  | some path =>
    let directory := path.parent?.getD ""
    let made ← if directory.isEmpty then pure (.ok ()) else Host.makeDirectories directory
    match made with
    | .error fault => return .error (.write directory fault)
    | .ok () =>
      match ← Host.writeFile path text with
      | .error fault => return .error (.write path fault)
      | .ok () =>
        log filter ⟨.info, stepTarget,
          "Wrote " ++ countText text.utf8ByteSize ++ " bytes to " ++ quotedInMessage path⟩
        return .ok ()

/-- Write the outcome of compiling, as JSON or as a shader. -/
def emitOutcome (filter : LogFilter) (options : CompileOptions)
    (outcome : Except CompileError String) : m (Except RunError Unit) := do
  if options.json then
    let text := Json.spreadString (CompileResult.ofOutcome outcome).encode
    match ← emit filter options.output text with
    | .error e => return .error e
    | .ok () => return (outcome.map fun _ => ()).mapError RunError.compile
  else match outcome with
    | .error e => return .error (.compile e)
    | .ok code => emit filter options.output code

/-- Load, compile and write a graph once. -/
def compileOnce (filter : LogFilter) (options : CompileOptions) : m (Except RunError Unit) := do
  let content ← Host.readFile options.input
  let loaded := Document.loadFile options.input content Catalog.standard options.policy
  logAll filter (loaded.events.map LoadEvent.toLog)
  match loaded.result with
  | .error fault => return .error (.document fault)
  | .ok graph =>
    log filter ⟨.debug, stepTarget,
      "Compiling graph '" ++ graph.name ++ "' (" ++ countText graph.nodes.size ++ " nodes)"⟩
    emitOutcome filter options (graph.compile Catalog.standard)

/-- The directory whose changes are watched for a graph. -/
def watchedDirectory (input : Path) : Path :=
  match input.parent? with
  | some parent => if parent.isEmpty then "." else parent
  | none => "."

/-- Check that a graph can be watched. -/
def startWatching (filter : LogFilter) (input : Path) : m (Except RunError Unit) := do
  if input.fileName?.isNone then return .error (.watchPath input)
  else
    match ← Host.findPlace (watchedDirectory input) with
    | .error fault =>
      let here ← Host.workingDirectory
      return .error (.watchDirectory (here.join (watchedDirectory input)) fault)
    | .ok () =>
      log filter ⟨.info, watchTarget, "Watching " ++ quotedInMessage input ++ " for changes"⟩
      return .ok ()

/-- Compile a watched graph and note how that went. -/
def compileWatched (filter : LogFilter) (options : CompileOptions) : m Unit := do
  match ← compileOnce filter options with
  | .ok () => log filter ⟨.info, stepTarget, "Compiled successfully"⟩
  | .error e => log filter ⟨.error, stepTarget, e.message⟩

/-- React to what happened to a watched graph. -/
def handle (filter : LogFilter) (options : CompileOptions) : WatchEvent → m Unit
  | .changed path => do
    log filter ⟨.info, stepTarget, quotedInMessage path ++ " changed, recompiling"⟩
    compileWatched filter options
  | .removed path =>
    log filter ⟨.warn, stepTarget,
      quotedInMessage path ++ " was removed, waiting for it to reappear"⟩

/-- What is left to do after the first part of a run: nothing but to exit, or to watch. -/
inductive Next where
  | exit (code : UInt8)
  | watch (filter : LogFilter) (settings : Settings) (options : CompileOptions)

/-- Note an error and exit. -/
def fail (filter : LogFilter) (e : RunError) : m Next := do
  log filter ⟨.error, runTarget, e.message⟩
  return .exit e.exitCode

/-- Note an error plainly, before there is a log, and exit. -/
def failPlainly (e : RunError) : m Next := do
  Host.report e.message
  return .exit e.exitCode

/-- Exit, after noting an error if there is one. -/
def conclude (filter : LogFilter) : Except RunError Unit → m Next
  | .ok () => pure (.exit 0)
  | .error e => fail filter e

/-- Write a settings file with the default settings. -/
def initSettings (environment : Option String) (arguments : Arguments) : m Next := do
  let filter := (chooseFilter environment .default).toOption.getD []
  let path := arguments.settings.getD (Settings.besides arguments.input)
  match ← saveSettings .default path with
  | .error e => fail filter (.settings e)
  | .ok () =>
    log filter ⟨.info, stepTarget, "Wrote default settings to " ++ quotedInMessage path⟩
    return .exit 0

/-- Compile a graph with its settings, or start watching it. -/
def compileWith (filter : LogFilter) (arguments : Arguments) (settings : Settings) : m Next := do
  log filter ⟨.info, runTarget, "Starting ordoplay_shaderc v0.1.0"⟩
  let options := CompileOptions.of arguments settings
  if arguments.watch then
    match ← startWatching filter options.input with
    | .error e => fail filter e
    | .ok () => return .watch filter settings options
  else conclude filter (← compileOnce filter options)

/-- Compile a graph as arguments ask. -/
def compileGraph (environment : Option String) (arguments : Arguments) : m Next := do
  match ← discoverSettings arguments.input arguments.settings with
  | .error e => failPlainly (.settings e)
  | .ok settings =>
    match chooseFilter environment settings with
    | .error e => failPlainly (.logFilter e)
    | .ok filter => compileWith filter arguments settings

/-- The exit code of a run that breaks off without an error of its own. -/
def brokenOff : UInt8 := 101

/-- Print the usage; a run that cannot do even that breaks off. -/
def showUsage : m Next := do
  match ← Host.print usage with
  | .ok () => return .exit 0
  | .error fault =>
    Host.report ("failed printing to stdout: " ++ fault.message)
    return .exit brokenOff

/-- Run a list of arguments, given the log filter of the environment. -/
def run (environment : Option String) (arguments : List String) : m Next := do
  match ofArguments arguments with
  | .error e =>
    Host.report (e.message ++ "\n\n" ++ usage)
    return .exit (RunError.usage e).exitCode
  | .ok .help => showUsage
  | .ok (.compile arguments) =>
    if arguments.initSettings then initSettings environment arguments
    else compileGraph environment arguments

end Command

end MaterialGraph
