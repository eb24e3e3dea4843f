import MaterialGraph.File.Tree

/-!
# Hosts

What a run needs of the machine around it: files, two streams of text, and the directory in which it
runs. A session is a host that keeps all of it in a value. The stream of results may refuse what is
written to it, as a pipe does that nobody reads any more; it takes a line as a whole or not at all.
The stream of diagnostics takes every line.
-/

namespace MaterialGraph

/-- The effects of a run. -/
class Host (m : Type → Type) where
  readFile : Path → m (Except FileFault ByteArray)
  isFile : Path → m Bool
  makeDirectories : Path → m (Except FileFault Unit)
  writeFile : Path → String → m (Except FileFault Unit)
  /-- Find a directory or a file of which changes are to be watched. -/
  findPlace : Path → m (Except FileFault Unit)
  /-- The directory in which the run happens, as an absolute path. -/
  workingDirectory : m Path
  /-- Write a line of results. -/
  print : String → m (Except FileFault Unit)
  /-- Write a line of diagnostics. -/
  report : String → m Unit

/-- The state of a run that is kept in a value. -/
structure Session where
  tree : FileTree
  workingDirectory : Path
  /-- Whether lines of results are taken, or the fault for which they are refused. -/
  printing : Except FileFault Unit
  output : List String
  diagnostics : List String

namespace Session

/-- A session at its start, whose results are taken. -/
def start (tree : FileTree) (workingDirectory : Path) : Session :=
  ⟨tree, workingDirectory, .ok (), [], []⟩

/-- Change the tree, unless that fails. -/
def change (f : FileTree → Except FileFault FileTree) (s : Session) :
    Except FileFault Unit × Session :=
  match f s.tree with
  | .ok tree => (.ok (), { s with tree })
  | .error fault => (.error fault, s)

/-- Add a line to the results, unless they are refused. -/
def addLine (line : String) (s : Session) : Except FileFault Unit × Session :=
  match s.printing with
  | .ok () => (.ok (), { s with output := s.output ++ [line] })
  | .error fault => (.error fault, s)

instance : Host (StateM Session) where
  readFile path := return (← get).tree.read path
  isFile path := return (← get).tree.isFile path
  makeDirectories path := modifyGet (change fun tree => tree.makeDirectories path)
  writeFile path text := modifyGet (change fun tree => tree.write path text.toUTF8)
  findPlace path := return ((← get).tree.find path).map fun _ => ()
  workingDirectory := return (← get).workingDirectory
  print line := modifyGet (addLine line)
  report line := modify fun s => { s with diagnostics := s.diagnostics ++ [line] }

end Session

end MaterialGraph
