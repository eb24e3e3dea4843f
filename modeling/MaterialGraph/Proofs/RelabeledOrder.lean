import Mathlib.Data.List.Forall2
import Mathlib.Data.Set.Function
import MaterialGraph.Proofs.Acyclic
import MaterialGraph.Proofs.Relabeling

/-!
# The order of a relabeled graph

A graph is relabeled by giving its nodes other identities, with which their connections follow. The
identities need to stay distinct, those of missing nodes to which connections lead included. Then
everything that is looked up by an identity is found under the new one, and ordering takes the same
steps: it compares identities with each other and lists them in the order of nodes and connections,
and looks at nothing else. So the order of the relabeled graph is the relabeled order.
-/

namespace MaterialGraph

/-- A port of a node under another identity. -/
def Endpoint.relabel (f : NodeId → NodeId) (e : Endpoint) : Endpoint :=
  ⟨f e.node, e.port⟩

/-- A connection of any identity between the same ports of nodes under other identities. -/
structure Connection.Relabeled (f : NodeId → NodeId) (c d : Connection) : Prop where
  source : d.source = c.source.relabel f
  target : d.target = c.target.relabel f

/-- A node of this identity is in the graph, or a connection begins or ends at it. -/
def Graph.Mentions (g : Graph) (id : NodeId) : Prop :=
  id ∈ g.nodes.keys ∨ ∃ c ∈ g.connections.items, c.source.node = id ∨ c.target.node = id

/-- A graph with other identities of nodes, of which none fall together. The identities of the
connections, and identity and name of the graph, may be any. -/
structure Graph.Relabeled (f : NodeId → NodeId) (g h : Graph) : Prop where
  injective : Set.InjOn f {id | g.Mentions id}
  nodes : List.Forall₂ (Node.Relabeled f) g.nodes.items h.nodes.items
  connections : List.Forall₂ (Connection.Relabeled f) g.connections.items h.connections.items

/-- In lists whose entries correspond, corresponding entries are found by tests that agree on
them. -/
theorem rel_find? {α β : Type} {R : α → β → Prop} {as : List α} {bs : List β}
    (h : List.Forall₂ R as bs) {p : α → Bool} {q : β → Bool}
    (hpq : ∀ a ∈ as, ∀ b, R a b → q b = p a) : Option.Rel R (as.find? p) (bs.find? q) := by
  induction h with
  | nil => exact .none
  | @cons a b as bs hab _ ih =>
    rw [List.find?_cons, List.find?_cons, hpq a List.mem_cons_self b hab]
    cases p a with
    | true => exact .some hab
    | false => exact ih fun c hc => hpq c (List.mem_cons_of_mem _ hc)

/-- What corresponds to something that was found was found. -/
theorem exists_of_rel_some {α β : Type} {R : α → β → Prop} {a : α} {y : Option β}
    (h : Option.Rel R (some a) y) : ∃ b, y = some b ∧ R a b := by
  cases h with
  | some hab => exact ⟨_, rfl, hab⟩

/-- What corresponds to nothing is nothing. -/
theorem eq_none_of_rel_none {α β : Type} {R : α → β → Prop} {y : Option β}
    (h : Option.Rel R none y) : y = none := by
  cases h
  rfl

namespace Graph

/-- The nodes of a graph are mentioned. -/
theorem mentions_of_mem {g : Graph} {node : Node} (h : node ∈ g.nodes.items) :
    g.Mentions node.id :=
  Or.inl (List.mem_map_of_mem h)

/-- The sources of connections are mentioned. -/
theorem mentions_source {g : Graph} {c : Connection} (h : c ∈ g.connections.items) :
    g.Mentions c.source.node :=
  Or.inr ⟨c, h, Or.inl rfl⟩

/-- The targets of connections are mentioned. -/
theorem mentions_target {g : Graph} {c : Connection} (h : c ∈ g.connections.items) :
    g.Mentions c.target.node :=
  Or.inr ⟨c, h, Or.inr rfl⟩

namespace Relabeled

variable {f : NodeId → NodeId} {g h : Graph} (hrel : g.Relabeled f h)

include hrel

/-! ### Lookups -/

/-- Identities that are mentioned are the same if their new ones are. -/
theorem eq_iff {a b : NodeId} (ha : g.Mentions a) (hb : g.Mentions b) : f a = f b ↔ a = b :=
  hrel.injective.eq_iff ha hb

/-- The identities of the nodes are the new ones. -/
theorem keys_eq : h.nodes.keys = g.nodes.keys.map f := by
  have hall : ∀ {ns ms : List Node}, List.Forall₂ (Node.Relabeled f) ns ms →
      ms.map Node.id = (ns.map Node.id).map f := by
    intro ns ms hforall
    induction hforall with
    | nil => rfl
    | cons hnode _ ih => simp only [List.map_cons, hnode.id, ih]
  exact hall hrel.nodes

/-- There are as many nodes. -/
theorem size_eq : h.nodes.size = g.nodes.size :=
  hrel.nodes.length_eq.symm

/-- A node is there under the new identity exactly when it was there. -/
theorem contains_eq {id : NodeId} (hid : g.Mentions id) :
    h.nodes.contains (f id) = g.nodes.contains id := by
  rw [Bool.eq_iff_iff, Table.contains_iff_mem_keys, Table.contains_iff_mem_keys, hrel.keys_eq,
    List.mem_map]
  constructor
  · rintro ⟨other, hother, heq⟩
    exact (hrel.eq_iff (Or.inl hother) hid).mp heq ▸ hother
  · intro hmem
    exact ⟨id, hmem, rfl⟩

/-- The corresponding node is found under the new identity. -/
theorem node?_rel {id : NodeId} (hid : g.Mentions id) :
    Option.Rel (Node.Relabeled f) (g.node? id) (h.node? (f id)) := by
  refine rel_find? hrel.nodes fun n hn m hnm => decide_eq_decide.mpr ?_
  change m.id = f id ↔ n.id = id
  rw [hnm.id]
  exact hrel.eq_iff (mentions_of_mem hn) hid

/-- The output nodes correspond. -/
theorem outputNode?_rel :
    Option.Rel (Node.Relabeled f) g.outputNode? h.outputNode? :=
  rel_find? hrel.nodes fun _ _ _ hnm => hnm.isOutput_eq

/-- The first connections to an input correspond. -/
theorem connectionTo?_rel {e : Endpoint} (he : g.Mentions e.node) :
    Option.Rel (Connection.Relabeled f) (g.connectionTo? e) (h.connectionTo? (e.relabel f)) := by
  refine rel_find? hrel.connections fun c hc d hcd => ?_
  rw [Bool.eq_iff_iff, beq_iff_eq, beq_iff_eq, hcd.target]
  constructor
  · intro heq
    obtain ⟨hnode, hport⟩ := Endpoint.mk.inj heq
    cases hc' : c.target with
    | mk node port =>
      rw [hc'] at hnode hport
      obtain rfl : node = e.node := by
        have hmentioned : g.Mentions node := by simpa only [hc'] using mentions_target hc
        exact (hrel.eq_iff hmentioned he).mp hnode
      obtain rfl : port = e.port := hport
      rfl
  · intro heq
    rw [heq]

/-- The edges are the relabeled ones. -/
theorem edges_eq : h.edges = g.edges.map (Prod.map f f) := by
  have hall : ∀ {cs ds : List Connection}, List.Forall₂ (Connection.Relabeled f) cs ds →
      (∀ c ∈ cs, c ∈ g.connections.items) →
      (ds.filter fun d =>
          h.nodes.contains d.source.node && h.nodes.contains d.target.node).map
          (fun d => (d.source.node, d.target.node)) =
        ((cs.filter fun c =>
            g.nodes.contains c.source.node && g.nodes.contains c.target.node).map
          fun c => (c.source.node, c.target.node)).map (Prod.map f f) := by
    intro cs ds hforall hmem
    induction hforall with
    | nil => rfl
    | @cons c d cs ds hcd _ ih =>
      have hc := hmem c List.mem_cons_self
      have hsource : h.nodes.contains d.source.node = g.nodes.contains c.source.node := by
        rw [hcd.source]
        exact hrel.contains_eq (mentions_source hc)
      have htarget : h.nodes.contains d.target.node = g.nodes.contains c.target.node := by
        rw [hcd.target]
        exact hrel.contains_eq (mentions_target hc)
      have hrest := ih fun other hother => hmem other (List.mem_cons_of_mem _ hother)
      rw [List.filter_cons, List.filter_cons, hsource, htarget]
      split
      · simp only [List.map_cons, hrest, hcd.source, hcd.target]
        rfl
      · exact hrest
  exact hall hrel.connections fun _ hc => hc

end Relabeled

end Graph

/-! ### The run -/

namespace Graph.OrderState

/-- A state in which the same nodes wait and have been taken, under other identities. -/
structure Relabeled (f : NodeId → NodeId) (nodes : List NodeId) (s t : OrderState) : Prop where
  degree : ∀ n ∈ nodes, t.degree (f n) = s.degree n
  queue : t.queue = s.queue.map f
  taken : t.taken = s.taken.map f
  waiting : ∀ n ∈ s.queue, n ∈ nodes

section Run

variable {f : NodeId → NodeId} {nodes : List NodeId} (hf : Set.InjOn f {n | n ∈ nodes})
  {edges : List (NodeId × NodeId)} (hedges : ∀ e ∈ edges, e.1 ∈ nodes ∧ e.2 ∈ nodes)

include hf hedges

/-- As many edges lead to a node under its new identity. -/
theorem inDegree_map {n : NodeId} (hn : n ∈ nodes) :
    inDegree (edges.map (Prod.map f f)) (f n) = inDegree edges n := by
  rw [inDegree, inDegree, List.countP_map]
  apply List.countP_congr
  intro e he
  simp only [Function.comp_apply, Prod.map_snd, beq_iff_eq]
  exact hf.eq_iff (hedges e he).2 hn

/-- The edges that leave a node under its new identity end at the relabeled nodes. -/
theorem targets_map {n : NodeId} (hn : n ∈ nodes) :
    targets (edges.map (Prod.map f f)) (f n) = (targets edges n).map f := by
  have hsame : edges.filter ((fun e => e.1 == f n) ∘ Prod.map f f) =
      edges.filter fun e => e.1 == n := by
    apply List.filter_congr
    intro e he
    rw [Function.comp_apply, Prod.map_fst, Bool.eq_iff_iff, beq_iff_eq, beq_iff_eq]
    exact hf.eq_iff (hedges e he).1 hn
  rw [targets, targets, List.filter_map, hsame, List.map_map, List.map_map]
  rfl

/-- The starts correspond. -/
theorem relabeled_start :
    Relabeled f nodes (start nodes edges) (start (nodes.map f) (edges.map (Prod.map f f))) where
  degree _ hn := inDegree_map hf hedges hn
  queue := by
    have hsame : nodes.filter ((fun n => inDegree (edges.map (Prod.map f f)) n == 0) ∘ f) =
        nodes.filter fun n => inDegree edges n == 0 := by
      apply List.filter_congr
      intro n hn
      rw [Function.comp_apply, inDegree_map hf hedges hn]
    simp only [start, List.filter_map, hsame]
  taken := rfl
  waiting _ hn := List.mem_of_mem_filter hn

omit hedges in
/-- Releasing an edge to a node and one to it under its new identity correspond. -/
theorem Relabeled.release {s t : OrderState} (hst : Relabeled f nodes s t) {n : NodeId}
    (hn : n ∈ nodes) : Relabeled f nodes (s.release n) (t.release (f n)) := by
  have hleft : t.degree (f n) - 1 = s.degree n - 1 := by rw [hst.degree n hn]
  refine ⟨?_, ?_, hst.taken, ?_⟩
  · intro other hother
    simp only [OrderState.release, hf.eq_iff hother hn, hleft, hst.degree other hother]
  · simp only [OrderState.release, hleft, hst.queue]
    split
    · rw [List.map_append, List.map_singleton]
    · rfl
  · intro other hother
    simp only [OrderState.release] at hother
    split at hother
    · rcases List.mem_append.mp hother with hold | hnew
      · exact hst.waiting other hold
      · exact List.mem_singleton.mp hnew ▸ hn
    · exact hst.waiting other hother

omit hedges in
/-- Releasing edges one after the other corresponds. -/
theorem Relabeled.foldl_release {s t : OrderState} (hst : Relabeled f nodes s t)
    {pending : List NodeId} (hpending : ∀ n ∈ pending, n ∈ nodes) :
    Relabeled f nodes (pending.foldl OrderState.release s)
      ((pending.map f).foldl OrderState.release t) := by
  induction pending generalizing s t with
  | nil => exact hst
  | cons n rest ih =>
    exact ih (hst.release hf (hpending n List.mem_cons_self))
      fun other hother => hpending other (List.mem_cons_of_mem _ hother)

/-- Steps correspond. -/
theorem Relabeled.step {s t : OrderState} (hst : Relabeled f nodes s t) :
    Option.Rel (Relabeled f nodes) (s.step edges) (t.step (edges.map (Prod.map f f))) := by
  unfold OrderState.step
  rw [hst.queue]
  cases hqueue : s.queue with
  | nil => exact .none
  | cons n rest =>
    have hn : n ∈ nodes := hst.waiting n (by simp [hqueue])
    simp only [List.map_cons, targets_map hf hedges hn]
    refine .some (Relabeled.foldl_release hf ?_ ?_)
    · refine ⟨hst.degree, rfl, ?_, fun other hother => hst.waiting other ?_⟩
      · rw [hst.taken, List.map_append, List.map_singleton]
      · rw [hqueue]
        exact List.mem_cons_of_mem _ hother
    · intro target htarget
      obtain ⟨e, he, rfl⟩ := List.mem_map.mp htarget
      exact (hedges e (List.mem_of_mem_filter he)).2

/-- Runs correspond. -/
theorem Relabeled.run {s t : OrderState} (hst : Relabeled f nodes s t) (limit : Nat) :
    Relabeled f nodes (run edges limit s) (run (edges.map (Prod.map f f)) limit t) := by
  induction limit generalizing s t with
  | zero => exact hst
  | succ limit ih =>
    have hstep := hst.step hf hedges
    unfold OrderState.run
    cases hs : s.step edges with
    | none =>
      rw [hs] at hstep
      rw [eq_none_of_rel_none hstep]
      exact hst
    | some next =>
      rw [hs] at hstep
      obtain ⟨next', ht, hnext⟩ := exists_of_rel_some hstep
      rw [ht]
      exact ih hnext

end Run

end Graph.OrderState

/-- The order of a relabeled graph is the relabeled order. -/
theorem Graph.Relabeled.order?_eq {f : NodeId → NodeId} {g h : Graph} (hrel : g.Relabeled f h) :
    h.order? = g.order?.map (List.map f) := by
  have hf : Set.InjOn f {n | n ∈ g.nodes.keys} := hrel.injective.mono fun _ hn => Or.inl hn
  have hedges : ∀ e ∈ g.edges, e.1 ∈ g.nodes.keys ∧ e.2 ∈ g.nodes.keys := by
    rintro ⟨a, b⟩ he
    obtain ⟨ha, hb, -⟩ := (g.mem_edges_iff a b).mp he
    exact ⟨ha, hb⟩
  have hrun := (OrderState.relabeled_start hf hedges).run hf hedges g.nodes.size
  rw [order?, order?, hrel.edges_eq, hrel.keys_eq, hrel.size_eq]
  simp only [hrun.taken, List.length_map]
  split
  · rfl
  · rfl

end MaterialGraph
