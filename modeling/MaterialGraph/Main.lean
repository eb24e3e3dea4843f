import MaterialGraph.Command.Run

/-!
# The program

The host of a run on a real machine, and the entry point. A watched graph is read again and again;
what changed between two readings is what happened to it.
-/

namespace MaterialGraph

/-- The fault behind an error of the machine. -/
def FileFault.ofError : IO.Error → FileFault
  | .noFileOrDirectory .. => .notFound
  | .alreadyExists .. => .alreadyExists
  | .inappropriateType _ 21 _ => .isDirectory
  | .inappropriateType .. => .notDirectory
  | error => .other (toString error)

/-- The result of an action, or the fault that stopped it. -/
def attempt {α : Type} (action : IO α) : IO (Except FileFault α) := do
  match ← action.toBaseIO with
  | .ok value => return .ok value
  | .error error => return .error (.ofError error)

instance : Host IO where
  readFile path := attempt (IO.FS.readBinFile path)
  isFile path := do
    match ← attempt (IO.FS.realPath path) with
    | .ok place => return (← place.pathExists) && !(← place.isDir)
    | .error _ => return false
  makeDirectories path := attempt (IO.FS.createDirAll path)
  writeFile path text := attempt (IO.FS.writeFile path text)
  findPlace path := do
    match ← attempt (IO.FS.realPath path) with
    | .ok place => return if ← place.pathExists then .ok () else .error .notFound
    | .error fault => return .error fault
  workingDirectory := return (← IO.currentDir).toString
  print line := attempt do
    let results ← IO.getStdout
    results.putStrLn line
    results.flush
  report := IO.eprintln

/-- What happened to a file between two readings. -/
def eventBetween (path : Path) : Except FileFault ByteArray → Except FileFault ByteArray →
    Option WatchEvent
  | .ok old, .ok new => if old == new then none else some (.changed path)
  | .error _, .ok _ => some (.changed path)
  | .ok _, .error _ => some (.removed path)
  | .error _, .error _ => none

/-- Watch a graph for ever. -/
partial def watchFrom (filter : LogFilter) (settings : Settings) (options : CompileOptions)
    (last : Except FileFault ByteArray) : IO Unit := do
  IO.sleep settings.watchMilliseconds.toUInt32
  let content ← attempt (IO.FS.readBinFile options.input)
  match eventBetween options.input last content with
  | some event => Command.handle filter options event
  | none => pure ()
  watchFrom filter settings options content

end MaterialGraph

open MaterialGraph in
/-- Run the program. -/
def main (arguments : List String) : IO UInt32 := do
  match ← Command.run (m := IO) (← IO.getEnv "RUST_LOG") arguments with
  | .exit code => return code.toUInt32
  | .watch filter settings options =>
    let content ← attempt (IO.FS.readBinFile options.input)
    Command.compileWatched filter options
    watchFrom filter settings options content
    return 0
