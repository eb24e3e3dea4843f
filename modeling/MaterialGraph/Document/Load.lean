import MaterialGraph.Document.Basic
import MaterialGraph.File.Tree
import MaterialGraph.Log
import MaterialGraph.Text.Quoted

/-!
# Loading documents

A document becomes a graph if its nodes have distinct identities and their parameters fit their
kinds. Where several nodes are outputs, or several edges lead to one input, the first one counts: a
policy either refuses the others or lets them pass with a warning. Kinds that are not known and
edges that lead nowhere are accepted.
-/

namespace MaterialGraph

/-- Which ambiguities are refused. -/
structure ValidationPolicy where
  rejectDuplicateOutputs : Bool
  rejectDuplicateInputEdges : Bool
deriving DecidableEq, Repr

namespace ValidationPolicy

/-- Let all ambiguities pass. -/
def permissive : ValidationPolicy :=
  ⟨false, false⟩

/-- Refuse all ambiguities. -/
def strict : ValidationPolicy :=
  ⟨true, true⟩

/-- The fields of a policy in documents. -/
def fields : List FieldRule :=
  [⟨"reject_duplicate_outputs", false⟩, ⟨"reject_duplicate_input_edges", false⟩]

open DataSource in
/-- Read a policy. -/
def decode {σ : Type} [DataSource σ] (s : σ) : Option ValidationPolicy :=
  match record? "ValidationPolicy" fields s with
  | some [outputs, edges] => do
    some
      { rejectDuplicateOutputs := ← required flag? outputs
        rejectDuplicateInputEdges := ← required flag? edges }
  | _ => none

end ValidationPolicy

/-- Why a document cannot be loaded. -/
inductive LoadFault where
  | unreadable (fault : FileFault)
  | invalidRon
  | invalidJson
  | unsupportedFormat (path : Path)
  | duplicateNodeId (node : NodeId)
  | paramsMismatch (node : NodeId) (kind : String) (expected found : ParamShape)
  | nonFiniteParams (node : NodeId)
  | duplicateOutputNode (first duplicate : NodeId)
  | duplicateInputEdge (target : Endpoint)
deriving DecidableEq, Repr

/-- The text of a load fault. -/
def LoadFault.message : LoadFault → String
  | unreadable fault => "Failed to read graph document: " ++ fault.message
  | invalidRon => "Invalid RON graph document:"
  | invalidJson => "Invalid JSON graph document:"
  | unsupportedFormat path => "Unsupported graph document format: " ++ quotedInMessage path
  | duplicateNodeId node => "Duplicate node ID: " ++ node.toString
  | paramsMismatch node kind expected found => paramsMismatchText node kind expected found
  | nonFiniteParams node => "Node " ++ node.toString ++ " has non-finite parameter values"
  | duplicateOutputNode first duplicate =>
    "Graph has more than one output node: " ++ first.toString ++ " and " ++ duplicate.toString
  | duplicateInputEdge target =>
    "Input port '" ++ target.port ++ "' of node " ++ target.node.toString ++
      " has more than one incoming edge"

/-- What is worth noting while a document is loaded. -/
inductive LoadEvent where
  | unknownKind (node : NodeId) (kind : String)
  | extraOutput (ignored first : NodeId)
  | extraEdge (target : Endpoint)
  | loaded (name : String) (nodes edges : Nat)
deriving DecidableEq, Repr

namespace LoadEvent

/-- How important an event is. -/
def level : LoadEvent → LogLevel
  | unknownKind .. => .debug
  | extraOutput .. => .warn
  | extraEdge .. => .warn
  | loaded .. => .debug

/-- The text of an event. -/
def message : LoadEvent → String
  | unknownKind node kind =>
    "Node " ++ node.toString ++ " has unknown kind '" ++ kind ++ "', it will emit no code"
  | extraOutput ignored first =>
    "Ignoring output node " ++ ignored.toString ++ ", using first output node " ++ first.toString
  | extraEdge target =>
    "Ignoring extra edge into port '" ++ target.port ++ "' of node " ++ target.node.toString ++
      ", first edge wins"
  | loaded name nodes edges =>
    "Loaded graph '" ++ name ++ "' with " ++ String.ofList (digitsOf nodes) ++ " nodes and " ++
      String.ofList (digitsOf edges) ++ " edges"

/-- The event in a log. -/
def toLog (e : LoadEvent) : LogEvent :=
  ⟨e.level, "ordoplay_shader_graph::document", e.message⟩

end LoadEvent

/-- The outcome of a check or a load: what was noted, and the result or a fault. -/
structure Loaded (α : Type) where
  events : List LoadEvent
  result : Except LoadFault α

namespace Document

/-- The event of a node whose kind is not in a catalog. -/
def kindEvents (catalog : Catalog) (node : Node) : List LoadEvent :=
  if catalog.contains node.kind then [] else [.unknownKind node.id node.kind]

/-- The fault of parameters that do not fit a kind or are not finite. -/
def paramsFault? (node : Node) (kind : NodeKind) : Option LoadFault :=
  if node.params.shape ≠ kind.paramShape then
    some (.paramsMismatch node.id node.kind kind.paramShape node.params.shape)
  else if node.params.isFinite then none
  else some (.nonFiniteParams node.id)

/-- The fault of a further output node that is refused. -/
def outputFault? (policy : ValidationPolicy) (firstOutput : Option NodeId) (node : Node) :
    Option LoadFault :=
  match firstOutput with
  | some first =>
    if node.isOutput && policy.rejectDuplicateOutputs then
      some (.duplicateOutputNode first node.id)
    else none
  | none => none

/-- The fault of a node whose identity is new. -/
def nodeFault? (policy : ValidationPolicy) (firstOutput : Option NodeId) (node : Node) :
    Option LoadFault :=
  (node.kind?.bind (paramsFault? node)) <|> outputFault? policy firstOutput node

/-- The event of a further output node that is ignored. -/
def outputEvents (firstOutput : Option NodeId) (node : Node) : List LoadEvent :=
  match firstOutput with
  | some first => if node.isOutput then [.extraOutput node.id first] else []
  | none => []

/-- The first output node, after one more node. -/
def nextOutput (firstOutput : Option NodeId) (node : Node) : Option NodeId :=
  firstOutput <|> if node.isOutput then some node.id else none

/-- Check nodes one after the other, given the identities and the output node before them. -/
def checkNodes (catalog : Catalog) (policy : ValidationPolicy) :
    List NodeId → Option NodeId → List Node → Loaded Unit
  | _, _, [] => ⟨[], .ok ()⟩
  | seen, firstOutput, node :: rest =>
    if node.id ∈ seen then ⟨[], .error (.duplicateNodeId node.id)⟩
    else match nodeFault? policy firstOutput node with
      | some fault => ⟨kindEvents catalog node, .error fault⟩
      | none =>
        let later := checkNodes catalog policy (node.id :: seen) (nextOutput firstOutput node) rest
        ⟨kindEvents catalog node ++ outputEvents firstOutput node ++ later.events, later.result⟩

/-- Check edges one after the other, given the inputs to which earlier ones lead. -/
def checkEdges (policy : ValidationPolicy) : List Endpoint → List Connection → Loaded Unit
  | _, [] => ⟨[], .ok ()⟩
  | seen, edge :: rest =>
    if edge.target ∈ seen then
      if policy.rejectDuplicateInputEdges then ⟨[], .error (.duplicateInputEdge edge.target)⟩
      else
        let later := checkEdges policy seen rest
        ⟨.extraEdge edge.target :: later.events, later.result⟩
    else checkEdges policy (edge.target :: seen) rest

/-- The graph with the nodes and edges of a document. -/
def build (d : Document) : Graph :=
  ⟨d.id, d.name, .ofList d.nodes, .ofList d.edges⟩

/-- The event of a graph that has been loaded. -/
def loadedEvent (g : Graph) : LoadEvent :=
  .loaded g.name g.nodes.size g.connections.size

/-- Check a document and make a graph of it. -/
def load (d : Document) (catalog : Catalog) (policy : ValidationPolicy) : Loaded Graph :=
  let nodes := checkNodes catalog policy [] none d.nodes
  match nodes.result with
  | .error fault => ⟨nodes.events, .error fault⟩
  | .ok () =>
    let edges := checkEdges policy [] d.edges
    match edges.result with
    | .error fault => ⟨nodes.events ++ edges.events, .error fault⟩
    | .ok () => ⟨nodes.events ++ edges.events ++ [loadedEvent d.build], .ok d.build⟩

/-- The document of a file's text; the ending of its name says how it is written. -/
def ofFile (path : Path) (source : String) : Except LoadFault Document :=
  match path.extension? with
  | some "ron" => (ofRon? source).elim (.error .invalidRon) .ok
  | some "json" => (ofJson? source).elim (.error .invalidJson) .ok
  | _ => .error (.unsupportedFormat path)

/-- Load a file that has been read, or could not be. -/
def loadFile (path : Path) (content : Except FileFault ByteArray) (catalog : Catalog)
    (policy : ValidationPolicy) : Loaded Graph :=
  match content.bind textOfBytes with
  | .error fault => ⟨[], .error (.unreadable fault)⟩
  | .ok source =>
    match ofFile path source with
    | .error fault => ⟨[], .error fault⟩
    | .ok document => document.load catalog policy

end Document

end MaterialGraph
