import MaterialGraph.File.Path

/-!
# Trees of files

A tree of files and directories, with the rules by which a path leads to a place in it. Segments are
followed one by one, and each needs a directory to start from, also an empty one or a dot. Writing a
file needs the directory around it.
-/

namespace MaterialGraph

/-- Why a file cannot be used. -/
inductive FileFault where
  | notFound
  | isDirectory
  | notDirectory
  | alreadyExists
  | invalidText
  | other (message : String)
deriving DecidableEq, Repr

/-- The text of a fault. -/
def FileFault.message : FileFault → String
  | notFound => "No such file or directory (os error 2)"
  | isDirectory => "Is a directory (os error 21)"
  | notDirectory => "Not a directory (os error 20)"
  | alreadyExists => "File exists (os error 17)"
  | invalidText => "stream did not contain valid UTF-8"
  | other message => message

/-- The text of bytes. -/
def textOfBytes (bytes : ByteArray) : Except FileFault String :=
  match String.fromUTF8? bytes with
  | some text => .ok text
  | none => .error .invalidText

/-- What stands at a place of a tree. -/
inductive FileEntry where
  | file (content : ByteArray)
  | directory

/-- A place in a tree: the names that lead to it from the root. -/
abbrev Location := List String

/-- A tree, and the place from which relative paths start. -/
structure FileTree where
  base : Location
  entries : List (Location × FileEntry)

namespace FileTree

/-- What stands at a place; the root is a directory. -/
def entry? (t : FileTree) (place : Location) : Option FileEntry :=
  if place.isEmpty then some .directory else t.entries.lookup place

/-- Whether a directory stands at a place. -/
def hasDirectory (t : FileTree) (place : Location) : Bool :=
  match t.entry? place with
  | some .directory => true
  | _ => false

/-- Put an entry at a place. -/
def put (t : FileTree) (place : Location) (entry : FileEntry) : FileTree :=
  if t.entries.any fun (other, _) => other == place then
    { t with
      entries := t.entries.map fun (other, old) =>
        if other == place then (other, entry) else (other, old) }
  else { t with entries := t.entries ++ [(place, entry)] }

/-- Follow segments from a place. -/
def walk (t : FileTree) (place : Location) : List String → Except FileFault Location
  | [] => .ok place
  | segment :: rest =>
    if !t.hasDirectory place then .error .notDirectory
    else if segment = "" ∨ segment = "." then t.walk place rest
    else if segment = ".." then t.walk place.dropLast rest
    else if (t.entry? (place ++ [segment])).isSome then t.walk (place ++ [segment]) rest
    else .error .notFound

/-- The segments of a path as they are written. -/
def segments (p : Path) : List String :=
  (splitAt '/' p.toList).map String.ofList

/-- The place where following a path starts. -/
def startOf (t : FileTree) (p : Path) : Location :=
  if p.isAbsolute then [] else t.base

/-- The place to which a path leads. -/
def locate (t : FileTree) (p : Path) : Except FileFault Location :=
  if p.isEmpty then .error .notFound else t.walk (t.startOf p) (segments p)

/-- What a path leads to. -/
def find (t : FileTree) (p : Path) : Except FileFault FileEntry :=
  (t.locate p).bind fun place =>
    match t.entry? place with
    | some entry => .ok entry
    | none => .error .notFound

/-- Whether a path leads to a file. -/
def isFile (t : FileTree) (p : Path) : Bool :=
  match t.find p with
  | .ok (.file _) => true
  | _ => false

/-- Whether a path leads to a directory. -/
def isDirectory (t : FileTree) (p : Path) : Bool :=
  match t.find p with
  | .ok .directory => true
  | _ => false

/-- The bytes of a file. -/
def read (t : FileTree) (p : Path) : Except FileFault ByteArray :=
  (t.find p).bind fun entry =>
    match entry with
    | .file content => .ok content
    | .directory => .error .isDirectory

/-- A path as the segments that lead to a directory, a last segment, and whether slashes follow. -/
structure Target where
  around : List String
  last : String
  slashed : Bool
deriving DecidableEq, Repr

/-- The target of a path that has a segment. -/
def target? (p : Path) : Option Target :=
  let reversed := (segments p).reverse
  match reversed.dropWhile (· == "") with
  | [] => none
  | last :: around => some ⟨around.reverse, last, reversed.head? == some ""⟩

/-- The place of the last segment of a target, inside the directory around it. -/
def placeOf (t : FileTree) (p : Path) (target : Target) : Except FileFault Location :=
  (t.walk (t.startOf p) target.around).bind fun place =>
    if t.hasDirectory place then
      if target.last = "." then .ok place
      else if target.last = ".." then .ok place.dropLast
      else .ok (place ++ [target.last])
    else .error .notDirectory

/-- Write a file, or replace one. -/
def write (t : FileTree) (p : Path) (content : ByteArray) : Except FileFault FileTree :=
  if p.isEmpty then .error .notFound
  else match target? p with
    | none => .error .isDirectory
    | some target =>
      (t.placeOf p target).bind fun place =>
        if target.slashed || t.hasDirectory place then .error .isDirectory
        else .ok (t.put place (.file content))

/-- Make a directory in an existing one. -/
def makeDirectory (t : FileTree) (p : Path) : Except FileFault FileTree :=
  if p.isEmpty then .error .notFound
  else match target? p with
    | none => .error .alreadyExists
    | some target =>
      (t.placeOf p target).bind fun place =>
        if (t.entry? place).isSome then .error .alreadyExists
        else .ok (t.put place .directory)

/-- Make a directory of which a list gives the path and those of its ancestors, from the inside
out. -/
def makeWithin (t : FileTree) : List Path → Except FileFault FileTree
  | [] => .ok t
  | p :: outer =>
    if p.isEmpty then .ok t
    else match t.makeDirectory p with
      | .ok made => .ok made
      | .error .notFound =>
        (t.makeWithin outer).bind fun made =>
          if made.isDirectory p then .ok made else made.makeDirectory p
      | .error fault => if t.isDirectory p then .ok t else .error fault

/-- Make a directory with all directories around it. -/
def makeDirectories (t : FileTree) (p : Path) : Except FileFault FileTree :=
  t.makeWithin p.ancestors

end FileTree

end MaterialGraph
