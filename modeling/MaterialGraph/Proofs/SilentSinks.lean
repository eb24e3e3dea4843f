import MaterialGraph.Catalog.Standard
import MaterialGraph.Proofs.FinalReferences

/-!
# Nodes without effect

A node that contributes nothing, feeds nothing and is not the output may be removed, with all the
connections that lead to it: the graph compiles to the same shader or fails with the same error. The
two graphs are ordered side by side. Taking the node is no step of the smaller graph, because no edge
leaves it, and every other step is the same, but for the node in the queue and among those taken.
The other nodes therefore keep their order, and with it their variables and the first fault.
-/

namespace MaterialGraph.Graph

namespace OrderState

/-! ### A run without a node -/

/-- A state without a node. -/
def without (id : NodeId) (s : OrderState) : OrderState where
  degree n := if n = id then 0 else s.degree n
  queue := s.queue.filter (· != id)
  taken := s.taken.filter (· != id)

variable {id : NodeId} {edges : List (NodeId × NodeId)}

/-- Without the edges to a node, as many edges as before lead to any other. -/
theorem inDegree_filter (edges : List (NodeId × NodeId)) (id n : NodeId) :
    inDegree (edges.filter (·.2 != id)) n = if n = id then 0 else inDegree edges n := by
  rw [inDegree, inDegree, List.countP_filter]
  split
  · next heq => simp [heq]
  · next hne =>
    apply List.countP_congr
    intro e _
    simp only [Bool.and_eq_true, beq_iff_eq, bne_iff_ne, and_iff_left_iff_imp]
    exact fun htarget => htarget ▸ hne

/-- Without the edges to a node, the edges that leave another end where they did. -/
theorem targets_filter (edges : List (NodeId × NodeId)) (id n : NodeId) :
    targets (edges.filter (·.2 != id)) n = (targets edges n).filter (· != id) := by
  rw [targets, targets, List.filter_map, List.filter_filter, List.filter_filter]
  congr 1
  apply List.filter_congr
  intro e _
  exact Bool.and_comm _ _

/-- The start without a node is the start of the other nodes. -/
theorem without_start (nodes : List NodeId) (edges : List (NodeId × NodeId)) (id : NodeId) :
    (start nodes edges).without id =
      start (nodes.filter (· != id)) (edges.filter (·.2 != id)) := by
  have hqueue : (nodes.filter fun n => inDegree edges n == 0).filter (· != id) =
      (nodes.filter (· != id)).filter fun n => inDegree (edges.filter (·.2 != id)) n == 0 := by
    rw [List.filter_filter, List.filter_filter]
    apply List.filter_congr
    intro n _
    by_cases hn : n = id
    · simp [hn]
    · simp [hn, inDegree_filter, Bool.and_comm]
  simp only [without, start, hqueue, List.filter_nil, OrderState.mk.injEq, and_self, and_true]
  funext n
  exact (inDegree_filter edges id n).symm

/-- Releasing an edge to a node changes nothing without it. -/
theorem without_release_self (s : OrderState) (id : NodeId) :
    (s.release id).without id = s.without id := by
  have hqueue : (s.release id).queue.filter (· != id) = s.queue.filter (· != id) := by
    simp only [release]
    split
    · simp
    · rfl
  simp only [without, hqueue, OrderState.mk.injEq, true_and]
  refine ⟨?_, rfl⟩
  funext n
  by_cases hn : n = id
  · simp [hn]
  · simp [hn, release]

/-- Releasing an edge to another node is the same without a node. -/
theorem without_release_of_ne {s : OrderState} {n : NodeId} (hn : n ≠ id) :
    (s.release n).without id = (s.without id).release n := by
  have hleft : (s.without id).degree n - 1 = s.degree n - 1 := by simp [without, hn]
  have hqueue : (s.release n).queue.filter (· != id) = ((s.without id).release n).queue := by
    simp only [release, hleft]
    split
    · simp [without, hn]
    · rfl
  have hdegree : ((s.release n).without id).degree = ((s.without id).release n).degree := by
    funext m
    by_cases hm : m = id
    · simp [without, release, hm, Ne.symm hn]
    · simp [without, release, hm, hn]
  rw [OrderState.mk.injEq]
  exact ⟨hdegree, hqueue, rfl⟩

/-- Releasing edges one after the other without a node releases those to other nodes. -/
theorem without_foldl_release (pending : List NodeId) (s : OrderState) :
    (pending.foldl release s).without id =
      (pending.filter (· != id)).foldl release (s.without id) := by
  induction pending generalizing s with
  | nil => rfl
  | cons n rest ih =>
    rw [List.foldl_cons, ih]
    by_cases hn : n = id
    · subst hn
      rw [without_release_self, List.filter_cons_of_neg (by simp)]
    · rw [without_release_of_ne hn, List.filter_cons_of_pos (by simpa using hn), List.foldl_cons]

section Sink

variable (hsink : ∀ e ∈ edges, e.1 ≠ id)

include hsink

/-- No edge is released when a node is taken that feeds nothing. -/
theorem targets_eq_nil : targets edges id = [] := by
  rw [targets, List.map_eq_nil_iff, List.filter_eq_nil_iff]
  intro e he
  simpa using hsink e he

/-- A step is no step without the node that it takes, and else the same step without the node. -/
theorem step_without {s next : OrderState} (h : s.step edges = some next) :
    next.without id = s.without id ∨
      (s.without id).step (edges.filter (·.2 != id)) = some (next.without id) := by
  unfold step at h
  split at h
  · contradiction
  · next n rest hqueue =>
    obtain rfl := Option.some.inj h
    by_cases hn : n = id
    · subst hn
      left
      rw [targets_eq_nil hsink]
      simp [without, hqueue]
    · right
      have hwaiting : (s.without id).queue = n :: rest.filter (· != id) := by
        simp [without, hqueue, hn]
      simp only [step, hwaiting, without_foldl_release, targets_filter]
      simp [without, hn]

/-- A run that leaves no node waiting is the same without a node that feeds nothing. -/
theorem run_without {s : OrderState} {limit : Nat} (h : (run edges limit s).queue = []) :
    run (edges.filter (·.2 != id)) limit (s.without id) = (run edges limit s).without id := by
  induction limit generalizing s with
  | zero => rfl
  | succ limit ih =>
    cases hstep : s.step edges with
    | none =>
      have hqueue := step_eq_none_iff.mp hstep
      have hother : (s.without id).queue = [] := by simp [without, hqueue]
      rw [run_of_queue_eq_nil hqueue, run_of_queue_eq_nil hother]
    | some next =>
      rw [run_succ_of_step hstep] at h ⊢
      have hnext := ih h
      rcases step_without hsink hstep with hsame | hother
      · -- The smaller run has nothing to do here, and its limit is one higher than it needs.
        rw [← hsame, ← hnext]
        apply run_of_le (Nat.le_succ limit)
        rw [hnext]
        simp [without, h]
      · rw [run_succ_of_step hother]
        exact hnext

end Sink

end OrderState

/-! ### The graph without the node -/

/-- Removing a node keeps the others in place. -/
theorem keys_removeNode (g : Graph) (id : NodeId) :
    (g.removeNode id).nodes.keys = g.nodes.keys.filter (· != id) := by
  rw [Table.keys, Table.keys, List.filter_map]
  congr 1
  apply List.filter_congr
  intro node _
  rw [Bool.eq_iff_iff, decide_eq_true_eq, Function.comp_apply, bne_iff_ne]

/-- What is found is found as well among values of which it is one. -/
theorem find?_filter_of_found {α : Type} {test keep : α → Bool} {values : List α}
    (h : ∀ a, values.find? test = some a → keep a = true) :
    (values.filter keep).find? test = values.find? test := by
  induction values with
  | nil => rfl
  | cons a rest ih =>
    cases htest : test a with
    | true =>
      have hkeep := h a (List.find?_cons_of_pos htest)
      rw [List.filter_cons_of_pos hkeep, List.find?_cons_of_pos htest,
        List.find?_cons_of_pos htest]
    | false =>
      have hskip : ¬ test a = true := by simp [htest]
      rw [List.find?_cons_of_neg hskip] at h ⊢
      rw [List.filter_cons]
      split
      · rw [List.find?_cons_of_neg hskip, ih h]
      · exact ih h

/-- Any other node is found as before. -/
theorem node?_removeNode (g : Graph) {id n : NodeId} (hn : n ≠ id) :
    (g.removeNode id).node? n = g.node? n := by
  apply find?_filter_of_found
  intro node hnode
  obtain ⟨-, rfl⟩ := Table.mem_of_find?_eq_some hnode
  exact decide_eq_true hn

/-- The output node has another identity than any other node. -/
theorem id_ne_of_outputNode? {g : Graph} {node output : Node} (hnode : node ∈ g.nodes.items)
    (hother : g.outputNode? ≠ some node) (houtput : g.outputNode? = some output) :
    output.id ≠ node.id := by
  intro hid
  obtain rfl : output = node :=
    List.inj_on_of_nodup_map g.nodes.distinct (List.mem_of_find?_eq_some houtput) hnode hid
  exact hother houtput

/-- The output node stays the same when another is removed. -/
theorem outputNode?_removeNode {g : Graph} {node : Node} (hnode : node ∈ g.nodes.items)
    (hother : g.outputNode? ≠ some node) :
    (g.removeNode node.id).outputNode? = g.outputNode? := by
  apply find?_filter_of_found
  intro output houtput
  exact decide_eq_true (id_ne_of_outputNode? hnode hother houtput)

section Sink

variable {g : Graph} {id : NodeId} (hsink : ∀ c ∈ g.connections.items, c.source.node ≠ id)

include hsink

/-- Of the edges those to the node are missing. -/
theorem edges_removeNode : (g.removeNode id).edges = g.edges.filter (·.2 != id) := by
  rw [edges_eq, edges_eq, innerConnections, innerConnections, List.filter_map, List.filter_filter,
    keys_removeNode]
  show ((g.connections.items.filter _).filter _).map _ = _
  rw [List.filter_filter]
  congr 1
  apply List.filter_congr
  intro c hc
  have hsource := hsink c hc
  rw [Bool.eq_iff_iff]
  simp only [Connection.involves, List.mem_filter, Bool.and_eq_true, decide_eq_true_eq,
    Function.comp_apply, bne_iff_ne, Bool.not_eq_true', Bool.or_eq_false_iff, beq_eq_false_iff_ne]
  tauto

/-- No edge leaves the node. -/
theorem source_ne_of_mem_edges {e : NodeId × NodeId} (he : e ∈ g.edges) : e.1 ≠ id := by
  obtain ⟨-, -, c, hc, hsource, -⟩ := (g.mem_edges_iff e.1 e.2).mp he
  exact hsource ▸ hsink c hc

/-- The end of ordering is the same without the node. -/
theorem ordered_removeNode : (g.removeNode id).ordered = g.ordered.without id := by
  have hrun := OrderState.run_without (fun _ he => source_ne_of_mem_edges hsink he)
    g.invariant_ordered.2
  have hstart := OrderState.without_start g.nodes.keys g.edges id
  rw [hstart, ← edges_removeNode hsink, ← keys_removeNode] at hrun
  rw [ordered.eq_def g, ← hrun]
  refine (OrderState.run_of_le ?_ (g.removeNode id).invariant_ordered.2).symm
  exact List.length_filter_le _ _

/-- The other nodes keep their order. -/
theorem order?_removeNode (hid : id ∈ g.nodes.keys) :
    (g.removeNode id).order? = g.order?.map (List.filter (· != id)) := by
  have htaken : (g.removeNode id).ordered.taken = g.ordered.taken.filter (· != id) := by
    rw [ordered_removeNode hsink]
    rfl
  cases horder : g.order? with
  | some order =>
    obtain ⟨rfl, hperm⟩ := (g.order?_eq_some_iff order).mp horder
    refine ((g.removeNode id).order?_eq_some_iff _).mpr ⟨htaken, ?_⟩
    rw [keys_removeNode]
    exact hperm.filter _
  | none =>
    rw [Option.map_none, Option.eq_none_iff_forall_ne_some]
    intro order hother
    obtain ⟨rfl, hperm⟩ := ((g.removeNode id).order?_eq_some_iff order).mp hother
    rw [htaken, keys_removeNode] at hperm
    have hothers : ∀ n ∈ g.nodes.keys, n ≠ id → n ∈ g.ordered.taken := by
      intro n hn hne
      have hkept : n ∈ g.nodes.keys.filter (· != id) := List.mem_filter.mpr ⟨hn, by simpa using hne⟩
      exact List.mem_of_mem_filter (hperm.mem_iff.mpr hkept)
    -- If all the others could be taken, the node could be taken after them.
    have hlast : id ∈ g.ordered.taken := by
      refine (g.mem_taken_ordered_iff id).mpr ⟨hid, fun a hfeeds => hothers a hfeeds.1 ?_⟩
      exact source_ne_of_mem_edges hsink ((g.mem_edges_iff a id).mpr hfeeds)
    have hsome := order?_of_forall_mem_taken fun n hn =>
      if hne : n = id then hne ▸ hlast else hothers n hn hne
    simp [horder] at hsome

/-- The first connection to an input of another node stays the same. -/
theorem connectionTo?_removeNode {e : Endpoint} (he : e.node ≠ id) :
    (g.removeNode id).connectionTo? e = g.connectionTo? e := by
  apply find?_filter_of_found
  intro c hc
  have htarget : c.target = e := by simpa using List.find?_some hc
  simp [Connection.involves, hsink c (List.mem_of_find?_eq_some hc), htarget, he]

/-- The inputs of another node stand for the same. -/
theorem inputs_removeNode (references : References) {n : NodeId} (hn : n ≠ id) :
    Inputs.ofNode (g.removeNode id) references n = Inputs.ofNode g references n := by
  funext type
  apply List.map_congr_left
  intro port _
  rw [resolve, resolve, connectionTo?_removeNode hsink hn]

/-- Another node adds the same block, or fails with the same error. -/
theorem add_removeNode {catalog : Catalog} (generation : Generation) {node : Node}
    (hnode : node.id ≠ id) :
    generation.add (g.removeNode id) catalog node = generation.add g catalog node := by
  rw [Generation.add, Generation.add, inputs_removeNode hsink _ hnode]

/-- The assignments of another node are the same. -/
theorem assignmentLines_removeNode {catalog : Catalog} (references : References) {output : Node}
    (houtput : output.id ≠ id) :
    (g.removeNode id).assignmentLines catalog references output =
      g.assignmentLines catalog references output := by
  rw [assignmentLines, assignmentLines]
  cases catalog.find? output.kind with
  | none => rfl
  | some type =>
    rw [MaterialField.assignments, MaterialField.assignments, inputs_removeNode hsink _ houtput]

end Sink

/-- Of the nodes to be added the removed one is missing. -/
theorem emitted_removeNode (g : Graph) (id output : NodeId) (order : List NodeId) :
    (g.removeNode id).emitted output (order.filter (· != id)) =
      (g.emitted output order).filter (·.id != id) := by
  rw [emitted, emitted, List.filter_filter, List.filterMap_filter, List.filterMap_filter,
    List.filter_filterMap]
  apply List.filterMap_congr
  intro n _
  have hfound : (g.node? n).filter (·.id != id) = if n = id then none else g.node? n := by
    cases hnode : g.node? n with
    | none => simp
    | some node =>
      have hid : node.id = n := (Table.mem_of_find?_eq_some hnode).2
      simp [Option.filter, hid]
  by_cases houtput : n = output
  · simp [houtput]
  · by_cases hn : n = id
    · rw [if_neg (by simp [hn]), if_pos (by simpa using houtput), hfound, if_pos hn]
    · simp [hn, houtput, hfound, node?_removeNode g hn]

/-- Nodes add the same without those of an identity, if these are silent. -/
theorem addAll_removeNode {g : Graph} {catalog : Catalog} {id : NodeId}
    (hsink : ∀ c ∈ g.connections.items, c.source.node ≠ id) {nodes : List Node}
    (hsilent : ∀ node ∈ nodes, node.id = id →
      node.kind? = none ∨ catalog.find? node.kind = none ∨ node.kind? = some .pbrOutput)
    (generation : Generation) :
    generation.addAll (g.removeNode id) catalog (nodes.filter (·.id != id)) =
      generation.addAll g catalog nodes := by
  induction nodes generalizing generation with
  | nil => rfl
  | cons node rest ih =>
    have hrest := ih fun n hn => hsilent n (List.mem_cons_of_mem _ hn)
    by_cases hnode : node.id = id
    · rw [List.filter_cons_of_neg (by simp [hnode]), hrest, Generation.addAll,
        add_of_silent (hsilent node List.mem_cons_self hnode)]
    · rw [List.filter_cons_of_pos (by simpa using hnode), Generation.addAll, Generation.addAll,
        add_removeNode hsink generation hnode]
      cases generation.add g catalog node with
      | error e => rfl
      | ok next => exact hrest next

/-- A node that contributes nothing, feeds nothing and is not the output can be removed: the shader
or the error stays the same, and the other nodes keep their order. -/
theorem compile_removeNode_of_silent {g : Graph} {catalog : Catalog} {node : Node}
    (hnode : node ∈ g.nodes.items) (hother : g.outputNode? ≠ some node)
    (hsilent : node.kind? = none ∨ catalog.find? node.kind = none ∨ node.kind? = some .pbrOutput)
    (hsink : ∀ c ∈ g.connections.items, c.source.node ≠ node.id) :
    (g.removeNode node.id).compile catalog = g.compile catalog ∧
      (g.removeNode node.id).order? = g.order?.map (List.filter (· != node.id)) := by
  have horder := order?_removeNode hsink (List.mem_map_of_mem hnode)
  refine ⟨?_, horder⟩
  rw [compile, compile, outputNode?_removeNode hnode hother]
  cases houtput : g.outputNode? with
  | none => rfl
  | some output =>
    simp only [horder]
    cases g.order? with
    | none => rfl
    | some order =>
      have hnodes : ∀ n ∈ g.emitted output.id order, n.id = node.id → n = node := by
        intro n hn hid
        obtain ⟨k, -, hk⟩ := List.mem_filterMap.mp hn
        exact List.inj_on_of_nodup_map g.nodes.distinct (Table.mem_of_find?_eq_some hk).1 hnode hid
      simp only [Option.map_some, emitted_removeNode]
      rw [addAll_removeNode hsink fun n hn hid => hnodes n hn hid ▸ hsilent]
      simp only [assignmentLines_removeNode hsink _ (id_ne_of_outputNode? hnode hother houtput)]

/-- The time feeds a sum and, in between, a second output node, which joins the queue before it. -/
def spareOutput : Graph where
  id := numbered 0
  name := untitled
  nodes := .ofList
    [.ofKind (numbered 4) "pbr_output", .ofKind (numbered 2) "add", .ofKind (numbered 1) "time",
      .ofKind (numbered 3) "pbr_output"]
  connections := .ofList
    [⟨numbered 10, ⟨numbered 1, "time"⟩, ⟨numbered 3, "metallic"⟩⟩,
      ⟨numbered 11, ⟨numbered 1, "time"⟩, ⟨numbered 2, "a"⟩⟩,
      ⟨numbered 12, ⟨numbered 1, "time"⟩, ⟨numbered 3, "roughness"⟩⟩,
      ⟨numbered 13, ⟨numbered 1, "time"⟩, ⟨numbered 2, "b"⟩⟩,
      ⟨numbered 14, ⟨numbered 2, "result"⟩, ⟨numbered 4, "metallic"⟩⟩]

/-- Without the second output node the shader is the same, and the sum follows the time. -/
theorem compile_removeNode_spareOutput :
    spareOutput.order? = some [numbered 1, numbered 3, numbered 2, numbered 4] ∧
      (spareOutput.removeNode (numbered 3)).order? = some [numbered 1, numbered 2, numbered 4] ∧
      ∃ text, spareOutput.compile Catalog.standard = .ok text ∧
        (spareOutput.removeNode (numbered 3)).compile Catalog.standard = .ok text := by
  have horder : spareOutput.order? = some [numbered 1, numbered 3, numbered 2, numbered 4] := by
    decide +kernel
  obtain ⟨text, htext⟩ := exists_eq_ok_of_isOk (x := spareOutput.compile Catalog.standard)
    (by decide +kernel)
  have hnode : Node.ofKind (numbered 3) "pbr_output" ∈ spareOutput.nodes.items := by decide +kernel
  have hkind : (Node.ofKind (numbered 3) "pbr_output").kind? = some .pbrOutput := by decide +kernel
  obtain ⟨hcompile, hothers⟩ := @compile_removeNode_of_silent _ Catalog.standard _ hnode
    (by decide +kernel) (.inr (.inr hkind)) (by decide +kernel)
  refine ⟨horder, ?_, text, htext, hcompile.trans htext⟩
  rw [horder] at hothers
  exact hothers.trans (by decide +kernel)

end MaterialGraph.Graph
