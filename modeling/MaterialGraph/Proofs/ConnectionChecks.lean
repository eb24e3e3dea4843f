import MaterialGraph.Proofs.Editing
import MaterialGraph.Proofs.PortTyping

/-!
# The checks of a connection, and taking it back

Two ends go through nine checks before they are connected, and the first one that is violated is
reported. The port of an end is looked for on both sides of its type, so an end on the wrong side is
found and then does not fit. A connection of a new identity comes after all others and is the only
one that ends at its input; removing it gives back the graph as it was.
-/

namespace MaterialGraph

/-- The checks that two ends go through. -/
inductive ConnectionCheck where
  | sourceNode
  | targetNode
  | sourceType
  | targetType
  | sourcePort
  | targetPort
  | fit
  | free
  | apart
deriving DecidableEq, Repr

/-- The checks in the order in which they are made. -/
def ConnectionCheck.all : List ConnectionCheck :=
  [.sourceNode, .targetNode, .sourceType, .targetType, .sourcePort, .targetPort, .fit, .free,
    .apart]

namespace NodeType

/-- A port of a name is the first one in the list of the inputs and the outputs. -/
theorem port?_eq_find? (type : NodeType) (id : PortId) :
    type.port? id = (type.inputs ++ type.outputs).find? (·.id == id) := by
  rw [List.find?_append, port?, Option.orElse_eq_orElse, Option.orElse_eq_or]
  rfl

/-- The ports that a regular type has under a name are those that are found by it. -/
theorem Regular.port?_eq_some_iff {type : NodeType} (h : type.Regular) {id : PortId} {p : Port} :
    type.port? id = some p ↔ p ∈ type.inputs ++ type.outputs ∧ p.id = id := by
  constructor
  · intro hfound
    rw [List.mem_append]
    exact mem_of_port?_eq_some hfound
  · rintro ⟨hmem, rfl⟩
    have hsome : ((type.inputs ++ type.outputs).find? (·.id == p.id)).isSome := by
      rw [List.find?_isSome]
      exact ⟨p, hmem, beq_self_eq_true _⟩
    obtain ⟨q, hq⟩ := Option.isSome_iff_exists.mp hsome
    have hid : q.id = p.id := by simpa using List.find?_some hq
    have hsame := List.inj_on_of_nodup_map h.distinct (List.mem_of_find?_eq_some hq) hmem hid
    rw [port?_eq_find?, hq, hsame]

end NodeType

namespace Graph

/-! ### Violations -/

/-- A type is that of the node at an end. -/
def TypeAt (g : Graph) (catalog : Catalog) (e : Endpoint) (type : NodeType) : Prop :=
  ∃ node, g.node? e.node = some node ∧ catalog.find? node.kind = some type

/-- A port, on either side, is declared at an end. -/
def PortAt (g : Graph) (catalog : Catalog) (e : Endpoint) (p : Port) : Prop :=
  ∃ type, g.TypeAt catalog e type ∧ p ∈ type.inputs ++ type.outputs ∧ p.id = e.port

/-- A check is violated for an error. What was not found is not checked further, and neither is a
port whose type was not found. -/
def Violates (g : Graph) (catalog : Catalog) (source target : Endpoint) (check : ConnectionCheck)
    (error : ConnectionError) : Prop :=
  match check with
  | .sourceNode => NodeMissing source
  | .targetNode => NodeMissing target
  | .sourceType => TypeMissing source
  | .targetType => TypeMissing target
  | .sourcePort => PortMissing source
  | .targetPort => PortMissing target
  | .fit => ∃ q p, g.PortAt catalog source q ∧ g.PortAt catalog target p ∧
      ¬ (g.OutputAt catalog source q ∧ g.InputAt catalog target p ∧ q.type.feeds p.type = true) ∧
      error = .incompatiblePorts
  | .free => (∃ c ∈ g.connections.items, c.target = target) ∧
      error = .portAlreadyConnected target.port
  | .apart => source.node = target.node ∧ error = .selfLoop
where
  NodeMissing (e : Endpoint) : Prop :=
    e.node ∉ g.nodes.keys ∧ error = .nodeNotFound e.node
  TypeMissing (e : Endpoint) : Prop :=
    ∃ node, g.node? e.node = some node ∧ node.kind ∉ catalog.keys ∧
      error = .unknownNodeType node.kind
  PortMissing (e : Endpoint) : Prop :=
    (∃ type, g.TypeAt catalog e type) ∧ (∀ p, ¬ g.PortAt catalog e p) ∧
      error = .portNotFound e.port

/-- The first check that is violated is so for a given error. -/
def FirstViolation (g : Graph) (catalog : Catalog) (source target : Endpoint)
    (error : ConnectionError) : Prop :=
  ∃ before check after, ConnectionCheck.all = before ++ check :: after ∧
    g.Violates catalog source target check error ∧
    ∀ earlier ∈ before, ∀ other, ¬ g.Violates catalog source target earlier other

/-! ### The first violation -/

/-- The type of the node at an end. -/
def typeAt? (g : Graph) (catalog : Catalog) (e : Endpoint) : Option NodeType :=
  (g.node? e.node).bind fun node => catalog.find? node.kind

/-- The port at an end. -/
def portAt? (g : Graph) (catalog : Catalog) (e : Endpoint) : Option Port :=
  (g.typeAt? catalog e).bind fun type => type.port? e.port

/-- The error for which a check is violated. -/
def violation? (g : Graph) (catalog : Catalog) (source target : Endpoint) :
    ConnectionCheck → Option ConnectionError
  | .sourceNode => missingNode? source
  | .targetNode => missingNode? target
  | .sourceType => missingType? source
  | .targetType => missingType? target
  | .sourcePort => missingPort? source
  | .targetPort => missingPort? target
  | .fit =>
    (g.portAt? catalog source).bind fun q =>
      (g.portAt? catalog target).bind fun p =>
        if ¬ (q.direction = .output ∧ p.direction = .input ∧ q.type.feeds p.type = true) then
          some .incompatiblePorts
        else none
  | .free =>
    if (g.connectionTo? target).isSome then some (.portAlreadyConnected target.port) else none
  | .apart => if source.node = target.node then some .selfLoop else none
where
  missingNode? (e : Endpoint) : Option ConnectionError :=
    if (g.node? e.node).isNone then some (.nodeNotFound e.node) else none
  missingType? (e : Endpoint) : Option ConnectionError :=
    (g.node? e.node).bind fun node =>
      if (catalog.find? node.kind).isNone then some (.unknownNodeType node.kind) else none
  missingPort? (e : Endpoint) : Option ConnectionError :=
    (g.typeAt? catalog e).bind fun type =>
      if (type.port? e.port).isNone then some (.portNotFound e.port) else none

/-- Two ports are refused exactly when they are not an output and an input that it may feed. -/
theorem unfit_iff (q p : Port) :
    (q.direction != .output || p.direction != .input || !q.connects p) = true ↔
      ¬ (q.direction = .output ∧ p.direction = .input ∧ q.type.feeds p.type = true) := by
  unfold Port.connects
  cases q.direction <;> cases p.direction <;> simp

/-- Checking two ends reports the first check that is violated. -/
theorem checkConnection_eq (g : Graph) (catalog : Catalog) (source target : Endpoint) :
    g.checkConnection catalog source target =
      (ConnectionCheck.all.findSome? (g.violation? catalog source target)).elim (.ok ())
        .error := by
  simp only [ConnectionCheck.all, List.findSome?_cons, List.findSome?_nil, violation?,
    violation?.missingNode?, violation?.missingType?, violation?.missingPort?, portAt?, typeAt?,
    checkConnection, nodeAt, typeAt, portAt, unfit_iff, bind, Except.bind]
  -- A look-up that finds nothing ends both sides.
  cases g.node? source.node with
  | none => rfl
  | some sourceNode =>
    cases g.node? target.node with
    | none => rfl
    | some targetNode =>
      dsimp only [Option.bind_some, Option.isNone_some]
      cases catalog.find? sourceNode.kind with
      | none => rfl
      | some sourceType =>
        cases catalog.find? targetNode.kind with
        | none => rfl
        | some targetType =>
          dsimp only [Option.bind_some, Option.isNone_some]
          cases sourceType.port? source.port with
          | none => rfl
          | some q =>
            cases targetType.port? target.port with
            | none => rfl
            | some p =>
              simp only [Option.bind_some, Option.isNone_some, Bool.false_eq_true, if_false]
              split_ifs <;> rfl

/-- An error is reported under a condition. -/
theorem ite_eq_some_error_iff {p : Prop} [Decidable p] {reported error : ConnectionError} :
    (if p then some reported else none) = some error ↔ p ∧ error = reported := by
  rw [Option.ite_none_right_eq_some, Option.some.injEq, eq_comm]

section Regular

variable {g : Graph} {catalog : Catalog} {e : Endpoint} {source target : Endpoint}

/-- The type that is looked up is that of the node at the end. -/
theorem typeAt?_eq_some_iff {type : NodeType} :
    g.typeAt? catalog e = some type ↔ g.TypeAt catalog e type :=
  Option.bind_eq_some_iff

/-- Looking for a node fails exactly when it is not listed. -/
theorem missingNode?_eq_some_iff {error : ConnectionError} :
    violation?.missingNode? g e = some error ↔ Violates.NodeMissing g error e := by
  have hlisted : (g.node? e.node).isNone = true ↔ e.node ∉ g.nodes.keys := by
    rw [← g.nodes.contains_iff_mem_keys, Table.contains]
    simp [node?]
  rw [violation?.missingNode?, ite_eq_some_error_iff, hlisted]
  rfl

/-- Looking for a type fails exactly when there is a node whose kind is not listed. -/
theorem missingType?_eq_some_iff {error : ConnectionError} :
    violation?.missingType? g catalog e = some error ↔
      Violates.TypeMissing g catalog error e := by
  have hlisted (kind : String) : (catalog.find? kind).isNone = true ↔ kind ∉ catalog.keys := by
    rw [← catalog.contains_iff_mem_keys, Table.contains]
    simp
  simp only [violation?.missingType?, Violates.TypeMissing, Option.bind_eq_some_iff,
    ite_eq_some_error_iff, hlisted]

variable (hcatalog : catalog.Regular)

include hcatalog

/-- The type at an end is regular. -/
theorem TypeAt.regular {type : NodeType} (h : g.TypeAt catalog e type) : type.Regular := by
  obtain ⟨node, -, hfound⟩ := h
  exact hcatalog type (Table.mem_of_find?_eq_some hfound).1

/-- The port that is looked up is the one that is declared at the end. -/
theorem portAt?_eq_some_iff {p : Port} : g.portAt? catalog e = some p ↔ g.PortAt catalog e p := by
  rw [portAt?, Option.bind_eq_some_iff]
  apply exists_congr
  intro type
  rw [typeAt?_eq_some_iff]
  apply and_congr_right
  intro htype
  exact (htype.regular hcatalog).port?_eq_some_iff

/-- The output at an end is the port there, if its direction is that of an output. -/
theorem outputAt_iff {q : Port} :
    g.OutputAt catalog e q ↔ g.PortAt catalog e q ∧ q.direction = .output := by
  constructor
  · rintro ⟨node, type, hnode, htype, hmem, hid⟩
    have hregular := TypeAt.regular hcatalog ⟨node, hnode, htype⟩
    exact ⟨⟨type, ⟨node, hnode, htype⟩, List.mem_append_right _ hmem, hid⟩,
      hregular.outputs q hmem⟩
  · rintro ⟨⟨type, ⟨node, hnode, htype⟩, hmem, hid⟩, hdirection⟩
    have hregular := TypeAt.regular hcatalog ⟨node, hnode, htype⟩
    have hfound := hregular.port?_eq_some_iff.mpr ⟨hmem, hid⟩
    exact ⟨node, type, hnode, htype, hregular.mem_outputs hfound hdirection, hid⟩

/-- The input at an end is the port there, if its direction is that of an input. -/
theorem inputAt_iff {p : Port} :
    g.InputAt catalog e p ↔ g.PortAt catalog e p ∧ p.direction = .input := by
  constructor
  · rintro ⟨node, type, hnode, htype, hmem, hid⟩
    have hregular := TypeAt.regular hcatalog ⟨node, hnode, htype⟩
    exact ⟨⟨type, ⟨node, hnode, htype⟩, List.mem_append_left _ hmem, hid⟩,
      hregular.inputs p hmem⟩
  · rintro ⟨⟨type, ⟨node, hnode, htype⟩, hmem, hid⟩, hdirection⟩
    have hregular := TypeAt.regular hcatalog ⟨node, hnode, htype⟩
    have hfound := hregular.port?_eq_some_iff.mpr ⟨hmem, hid⟩
    exact ⟨node, type, hnode, htype, hregular.mem_inputs hfound hdirection, hid⟩

/-- Looking for a port fails exactly when there is a type that declares none of this name. -/
theorem missingPort?_eq_some_iff {error : ConnectionError} :
    violation?.missingPort? g catalog e = some error ↔
      Violates.PortMissing g catalog error e := by
  simp only [violation?.missingPort?, Violates.PortMissing, Option.bind_eq_some_iff,
    typeAt?_eq_some_iff, ite_eq_some_error_iff, Option.isNone_iff_eq_none]
  constructor
  · rintro ⟨type, htype, hnone, rfl⟩
    refine ⟨⟨type, htype⟩, fun p hp => ?_, rfl⟩
    have hfound := (portAt?_eq_some_iff hcatalog).mpr hp
    rw [portAt?, typeAt?_eq_some_iff.mpr htype, Option.bind_some, hnone] at hfound
    contradiction
  · rintro ⟨⟨type, htype⟩, hno, rfl⟩
    refine ⟨type, htype, Option.eq_none_iff_forall_ne_some.mpr fun p hp => hno p ?_, rfl⟩
    exact ⟨type, htype, (htype.regular hcatalog).port?_eq_some_iff.mp hp⟩

/-- Ports do not fit exactly when they are not an output and an input that it may feed. -/
theorem unfit?_eq_some_iff {error : ConnectionError} :
    g.violation? catalog source target .fit = some error ↔
      g.Violates catalog source target .fit error := by
  simp only [violation?, Violates, Option.bind_eq_some_iff, portAt?_eq_some_iff hcatalog,
    ite_eq_some_error_iff, outputAt_iff hcatalog, inputAt_iff hcatalog]
  constructor
  · rintro ⟨q, hq, p, hp, hunfit, rfl⟩
    exact ⟨q, p, hq, hp, fun h => hunfit ⟨h.1.2, h.2.1.2, h.2.2⟩, rfl⟩
  · rintro ⟨q, p, hq, hp, hunfit, rfl⟩
    exact ⟨q, hq, p, hp, fun h => hunfit ⟨⟨hq, h.1⟩, ⟨hp, h.2.1⟩, h.2.2⟩, rfl⟩

/-- The error of a check is the one for which it is violated. -/
theorem violation?_eq_some_iff {check : ConnectionCheck} {error : ConnectionError} :
    g.violation? catalog source target check = some error ↔
      g.Violates catalog source target check error := by
  cases check with
  | sourceNode | targetNode => exact missingNode?_eq_some_iff
  | sourceType | targetType => exact missingType?_eq_some_iff
  | sourcePort | targetPort => exact missingPort?_eq_some_iff hcatalog
  | fit => exact unfit?_eq_some_iff hcatalog
  | free =>
    rw [violation?, ite_eq_some_error_iff, connectionTo?, List.find?_isSome]
    simp only [Violates, beq_iff_eq]
  | apart => exact ite_eq_some_error_iff

/-- Checking two ends fails with the error of the first violation. -/
theorem checkConnection_eq_error_iff {error : ConnectionError} :
    g.checkConnection catalog source target = .error error ↔
      g.FirstViolation catalog source target error := by
  have hpassed (check : ConnectionCheck) : g.violation? catalog source target check = none ↔
      ∀ other, ¬ g.Violates catalog source target check other := by
    simp only [Option.eq_none_iff_forall_ne_some, ne_eq, violation?_eq_some_iff hcatalog]
  have hfirst : g.checkConnection catalog source target = .error error ↔
      ConnectionCheck.all.findSome? (g.violation? catalog source target) = some error := by
    rw [checkConnection_eq]
    cases ConnectionCheck.all.findSome? (g.violation? catalog source target) <;> simp
  rw [hfirst, List.findSome?_eq_some_iff]
  simp only [violation?_eq_some_iff hcatalog, hpassed]
  rfl

omit hcatalog in
/-- Where a port is declared, neither it nor its type nor its node is missing. -/
theorem PortAt.found {p : Port} (h : g.PortAt catalog e p) (error : ConnectionError) :
    ¬ Violates.NodeMissing g error e ∧ ¬ Violates.TypeMissing g catalog error e ∧
      ¬ Violates.PortMissing g catalog error e := by
  obtain ⟨type, ⟨node, hnode, htype⟩, hport⟩ := h
  refine ⟨?_, ?_, ?_⟩
  · rintro ⟨hunlisted, -⟩
    obtain ⟨hmem, hid⟩ := Table.mem_of_find?_eq_some hnode
    exact hunlisted (hid ▸ List.mem_map_of_mem hmem)
  · rintro ⟨other, hother, hunlisted, -⟩
    obtain rfl := Option.some.inj (hnode.symm.trans hother)
    obtain ⟨hmem, hid⟩ := Table.mem_of_find?_eq_some htype
    exact hunlisted (hid ▸ List.mem_map_of_mem hmem)
  · rintro ⟨-, hno, -⟩
    exact hno p ⟨type, ⟨node, hnode, htype⟩, hport⟩

/-- There is one port at an end. -/
theorem PortAt.eq {p q : Port} (hp : g.PortAt catalog e p) (hq : g.PortAt catalog e q) : p = q := by
  rw [← portAt?_eq_some_iff hcatalog] at hp hq
  exact Option.some.inj (hp.symm.trans hq)

/-- An output violates no check with a free input of another node that it may feed. -/
theorem not_violates {q p : Port} (hq : g.OutputAt catalog source q)
    (hp : g.InputAt catalog target p) (hfeeds : q.type.feeds p.type = true)
    (hfree : ∀ c ∈ g.connections.items, c.target ≠ target) (hother : source.node ≠ target.node)
    (check : ConnectionCheck) (error : ConnectionError) :
    ¬ g.Violates catalog source target check error := by
  have hsource := ((outputAt_iff hcatalog).mp hq).1
  have htarget := ((inputAt_iff hcatalog).mp hp).1
  cases check with
  | sourceNode => exact (hsource.found error).1
  | targetNode => exact (htarget.found error).1
  | sourceType => exact (hsource.found error).2.1
  | targetType => exact (htarget.found error).2.1
  | sourcePort => exact (hsource.found error).2.2
  | targetPort => exact (htarget.found error).2.2
  | fit =>
    rintro ⟨q', p', hq', hp', hunfit, -⟩
    obtain rfl := PortAt.eq hcatalog hsource hq'
    obtain rfl := PortAt.eq hcatalog htarget hp'
    exact hunfit ⟨hq, hp, hfeeds⟩
  | free =>
    rintro ⟨⟨c, hc, hends⟩, -⟩
    exact hfree c hc hends
  | apart =>
    rintro ⟨hsame, -⟩
    exact hother hsame

/-- Two ends pass all checks exactly when they are an output and a free input of another node that
it may feed. -/
theorem checkConnection_eq_ok_iff :
    g.checkConnection catalog source target = .ok () ↔
      ∃ q p, g.OutputAt catalog source q ∧ g.InputAt catalog target p ∧
        q.type.feeds p.type = true ∧ (∀ c ∈ g.connections.items, c.target ≠ target) ∧
        source.node ≠ target.node := by
  constructor
  · intro h
    obtain ⟨-, -, -, -, -, -, -, -, -, -, -, -, -, -, -, hfree, hother⟩ :=
      of_checkConnection_eq_ok h
    obtain ⟨q, p, hq, hp, hfeeds⟩ := wired_of_checkConnection hcatalog h Uuid.nil
    exact ⟨q, p, hq, hp, hfeeds, by simpa [connectionTo?] using hfree, hother⟩
  · rintro ⟨q, p, hq, hp, hfeeds, hfree, hother⟩
    cases h : g.checkConnection catalog source target with
    | ok _ => rfl
    | error error =>
      obtain ⟨-, check, -, -, hviolated, -⟩ := (checkConnection_eq_error_iff hcatalog).mp h
      exact absurd hviolated (not_violates hcatalog hq hp hfeeds hfree hother check error)

end Regular

/-! ### Connecting and taking back -/

/-- A graph is another one with one more connection, which comes last, is the only one that ends at
its input, and can be taken back. -/
structure Extends (next g : Graph) (c : Connection) : Prop where
  id : next.id = g.id
  name : next.name = g.name
  nodes : next.nodes = g.nodes
  connections : next.connections.items = g.connections.items ++ [c]
  connectionTo_self : next.connectionTo? c.target = some c
  connectionTo_other : ∀ e ≠ c.target, next.connectionTo? e = g.connectionTo? e
  disconnect : next.disconnect c.id = g

/-- A connection of a new identity to a free input extends a graph. -/
theorem extends_addConnection {g : Graph} {c : Connection} (hnew : g.connection? c.id = none)
    (hfree : g.connectionTo? c.target = none) : (g.addConnection c).Extends g c := by
  have hitems : (g.addConnection c).connections.items = g.connections.items ++ [c] :=
    Table.items_insert_of_find?_eq_none hnew
  refine ⟨rfl, rfl, rfl, hitems, ?_, ?_, ?_⟩
  · rw [connectionTo?, hitems, List.find?_append]
    change (g.connectionTo? c.target).or _ = _
    simp [hfree]
  · intro e he
    rw [connectionTo?, hitems, List.find?_append]
    change (g.connectionTo? e).or _ = _
    simp [he.symm]
  · have hconnections : (g.connections.insert c).erase c.id = g.connections :=
      Table.erase_insert_of_find?_eq_none hnew
    exact congrArg (fun connections => ({ g with connections } : Graph)) hconnections

/-- In a regular catalog two ends can be connected exactly when they are an output and a free input
of another node that it may feed. Otherwise the first violated check is reported and the graph stays
as it is. A connection of a new identity comes after all others, ends alone at its input and can be
taken back. -/
theorem connect_extends_or_reports {catalog : Catalog} (hcatalog : catalog.Regular) (g : Graph)
    (id : ConnectionId) (source target : Endpoint) :
    ((∃ next, g.connect catalog id source target = .ok next) ↔
        ∃ q p, g.OutputAt catalog source q ∧ g.InputAt catalog target p ∧
          q.type.feeds p.type = true ∧ (∀ c ∈ g.connections.items, c.target ≠ target) ∧
          source.node ≠ target.node) ∧
      (∀ error, g.connect catalog id source target = .error error ↔
        g.FirstViolation catalog source target error) ∧
      (∀ error, g.connect catalog id source target = .error error →
        g.apply (.connect catalog id source target) = g) ∧
      (∀ next, g.connect catalog id source target = .ok next → g.connection? id = none →
        g.apply (.connect catalog id source target) = next ∧
          next.Extends g ⟨id, source, target⟩) ∧
      Catalog.standard.Regular := by
  refine ⟨?_, ?_, ?_, ?_, Catalog.regular_standard⟩
  · rw [← checkConnection_eq_ok_iff hcatalog]
    simp only [connect_eq_ok_iff, exists_and_left, exists_eq, and_true]
  · intro error
    rw [← checkConnection_eq_error_iff hcatalog, connect]
    cases g.checkConnection catalog source target <;> simp
  · intro error h
    rw [apply, h]
    rfl
  · intro next h hnew
    obtain ⟨hcheck, rfl⟩ := connect_eq_ok_iff.mp h
    obtain ⟨-, -, -, -, -, hfree, -⟩ := (checkConnection_eq_ok_iff hcatalog).mp hcheck
    refine ⟨by rw [apply, h]; rfl, extends_addConnection hnew ?_⟩
    simpa [connectionTo?] using hfree

/-- The time can also be connected to the roughness, and taken back. The metallic field is taken,
and that is the only check which a second connection to it violates first. -/
theorem connect_timeAsColor :
    (∃ next, timeAsColor.connect Catalog.standard (numbered 12) ⟨numbered 1, "time"⟩
          ⟨numbered 2, "roughness"⟩ = .ok next ∧
        next.disconnect (numbered 12) = timeAsColor) ∧
      timeAsColor.FirstViolation Catalog.standard ⟨numbered 1, "time"⟩ ⟨numbered 2, "metallic"⟩
        (.portAlreadyConnected "metallic") := by
  have hcheck : timeAsColor.checkConnection Catalog.standard ⟨numbered 1, "time"⟩
      ⟨numbered 2, "roughness"⟩ = .ok () := by decide +kernel
  have htaken : timeAsColor.checkConnection Catalog.standard ⟨numbered 1, "time"⟩
      ⟨numbered 2, "metallic"⟩ = .error (.portAlreadyConnected "metallic") := by decide +kernel
  constructor
  · obtain ⟨-, -, -, hok, -⟩ := connect_extends_or_reports Catalog.regular_standard timeAsColor
      (numbered 12) ⟨numbered 1, "time"⟩ ⟨numbered 2, "roughness"⟩
    have hconnect : timeAsColor.connect Catalog.standard (numbered 12) ⟨numbered 1, "time"⟩
        ⟨numbered 2, "roughness"⟩ = .ok _ := connect_eq_ok_iff.mpr ⟨hcheck, rfl⟩
    exact ⟨_, hconnect, (hok _ hconnect (by decide +kernel)).2.disconnect⟩
  · obtain ⟨-, herror, -⟩ := connect_extends_or_reports Catalog.regular_standard timeAsColor
      (numbered 12) ⟨numbered 1, "time"⟩ ⟨numbered 2, "metallic"⟩
    apply (herror _).mp
    rw [connect, htaken]

end Graph

end MaterialGraph
