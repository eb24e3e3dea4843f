import Mathlib.Data.List.Nodup
import MaterialGraph.Catalog.Standard
import MaterialGraph.Proofs.Generation
import MaterialGraph.Proofs.StandardCatalog

/-!
# What connecting checks

Two ends can be connected exactly when both nodes and their types are there, the first end is an
output and the second an input, the types of the ports fit, the input is free, and the nodes differ.
In a catalog whose types have distinct port names, each on the side that its direction says, an
output is found among the outputs and an input among the inputs.
-/

namespace MaterialGraph

/-- A type whose ports have distinct names and stand on the side that their direction says. -/
structure NodeType.Regular (type : NodeType) : Prop where
  inputs : ∀ p ∈ type.inputs, p.direction = .input
  outputs : ∀ p ∈ type.outputs, p.direction = .output
  distinct : ((type.inputs ++ type.outputs).map Port.id).Nodup

/-- A catalog of regular types. -/
def Catalog.Regular (catalog : Catalog) : Prop :=
  ∀ type ∈ catalog.items, type.Regular

namespace NodeType

/-- A type is regular exactly when its lists of ports are. -/
theorem regular_iff (type : NodeType) :
    type.Regular ↔ (∀ p ∈ type.inputs, p.direction = .input) ∧
      (∀ p ∈ type.outputs, p.direction = .output) ∧
      ((type.inputs ++ type.outputs).map Port.id).Nodup :=
  ⟨fun h => ⟨h.inputs, h.outputs, h.distinct⟩, fun h => ⟨h.1, h.2.1, h.2.2⟩⟩

instance (type : NodeType) : Decidable type.Regular :=
  decidable_of_iff' _ type.regular_iff

/-- A port that is found by its name is listed under it. -/
theorem mem_of_port?_eq_some {type : NodeType} {id : PortId} {p : Port}
    (h : type.port? id = some p) : (p ∈ type.inputs ∨ p ∈ type.outputs) ∧ p.id = id := by
  rw [port?, Option.orElse_eq_orElse, Option.orElse_eq_or, Option.or_eq_some_iff] at h
  rcases h with hinput | ⟨-, houtput⟩
  · exact ⟨Or.inl (List.mem_of_find?_eq_some hinput), by simpa using List.find?_some hinput⟩
  · exact ⟨Or.inr (List.mem_of_find?_eq_some houtput), by simpa using List.find?_some houtput⟩

variable {type : NodeType} (h : type.Regular)

include h

/-- An output that is found by its name is one of the outputs. -/
theorem Regular.mem_outputs {id : PortId} {p : Port} (hp : type.port? id = some p)
    (hdirection : p.direction = .output) : p ∈ type.outputs := by
  rcases (mem_of_port?_eq_some hp).1 with hinput | houtput
  · rw [h.inputs p hinput] at hdirection
    contradiction
  · exact houtput

/-- An input that is found by its name is one of the inputs. -/
theorem Regular.mem_inputs {id : PortId} {p : Port} (hp : type.port? id = some p)
    (hdirection : p.direction = .input) : p ∈ type.inputs := by
  rcases (mem_of_port?_eq_some hp).1 with hinput | houtput
  · exact hinput
  · rw [h.outputs p houtput] at hdirection
    contradiction

/-- Inputs of one name are the same. -/
theorem Regular.input_eq {p q : Port} (hp : p ∈ type.inputs) (hq : q ∈ type.inputs)
    (hid : p.id = q.id) : p = q := by
  have hdistinct : (type.inputs.map Port.id).Nodup := by
    have hall := h.distinct
    rw [List.map_append] at hall
    exact hall.of_append_left
  exact List.inj_on_of_nodup_map hdistinct hp hq hid

end NodeType

/-- The standard catalog is regular. -/
theorem Catalog.regular_standard : Catalog.standard.Regular := by
  have hall : ∀ type ∈ standardTypes, type.Regular := by decide +kernel
  exact fun type htype => hall type (Table.mem_of_mem_ofList htype)

namespace Graph

/-- An end of a connection has a node exactly when the graph has it. -/
theorem nodeAt_eq_ok_iff {g : Graph} {id : NodeId} {node : Node} :
    g.nodeAt id = .ok node ↔ g.node? id = some node := by
  unfold nodeAt
  cases g.node? id <;> simp

/-- An end of a connection has a type exactly when the catalog has it. -/
theorem typeAt_eq_ok_iff {catalog : Catalog} {kind : String} {type : NodeType} :
    typeAt catalog kind = .ok type ↔ catalog.find? kind = some type := by
  unfold typeAt
  cases catalog.find? kind <;> simp

/-- An end of a connection has a port exactly when the type declares it. -/
theorem portAt_eq_ok_iff {type : NodeType} {id : PortId} {port : Port} :
    portAt type id = .ok port ↔ type.port? id = some port := by
  unfold portAt
  cases type.port? id <;> simp

/-- What two ends that can be connected have: an output that fits a free input of another node. -/
theorem of_checkConnection_eq_ok {g : Graph} {catalog : Catalog} {source target : Endpoint}
    (h : g.checkConnection catalog source target = .ok ()) :
    ∃ sourceNode targetNode sourceType targetType sourcePort targetPort,
      g.node? source.node = some sourceNode ∧ g.node? target.node = some targetNode ∧
      catalog.find? sourceNode.kind = some sourceType ∧
      catalog.find? targetNode.kind = some targetType ∧
      sourceType.port? source.port = some sourcePort ∧
      targetType.port? target.port = some targetPort ∧
      sourcePort.direction = .output ∧ targetPort.direction = .input ∧
      sourcePort.type.feeds targetPort.type = true ∧
      g.connectionTo? target = none ∧ source.node ≠ target.node := by
  simp only [checkConnection, bind_eq_ok_iff, nodeAt_eq_ok_iff, typeAt_eq_ok_iff,
    portAt_eq_ok_iff] at h
  obtain ⟨sourceNode, hsource, targetNode, htarget, sourceType, hsourceType, targetType,
    htargetType, sourcePort, hsourcePort, targetPort, htargetPort, hchecks⟩ := h
  split at hchecks
  · cases hchecks
  · next hfits =>
    split at hchecks
    · cases hchecks
    · next hfree =>
      split at hchecks
      · cases hchecks
      · next hother =>
        simp only [Bool.or_eq_true, bne_iff_ne, ne_eq, Bool.not_eq_true', not_or, not_not,
          Bool.not_eq_false, Port.connects, Bool.and_eq_true] at hfits
        obtain ⟨⟨houtput, hinput⟩, -, hfeeds⟩ := hfits
        exact ⟨sourceNode, targetNode, sourceType, targetType, sourcePort, targetPort, hsource,
          htarget, hsourceType, htargetType, hsourcePort, htargetPort, houtput, hinput, hfeeds,
          by simpa using hfree, hother⟩

/-- Connecting adds a connection between the two ends if the check passes. -/
theorem connect_eq_ok_iff {g next : Graph} {catalog : Catalog} {id : ConnectionId}
    {source target : Endpoint} :
    g.connect catalog id source target = .ok next ↔
      g.checkConnection catalog source target = .ok () ∧
        next = g.addConnection ⟨id, source, target⟩ := by
  unfold connect
  cases g.checkConnection catalog source target with
  | error e => simp
  | ok _ => simp [eq_comm]

end Graph

end MaterialGraph
