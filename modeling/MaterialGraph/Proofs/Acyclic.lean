import Mathlib.Data.Set.Finite.List
import Mathlib.Logic.Relation
import Mathlib.Order.WellFoundedSet
import MaterialGraph.Proofs.OrderRun
import MaterialGraph.Proofs.Table

/-!
# Graphs that have an order

A graph has an order exactly when no node feeds itself through connections between nodes of the
graph. The order lists every node once, and each after the nodes that feed it. If nodes are left
over when no node waits, each of them is fed by another of them, which a finite graph without a
cycle cannot have. Connections that lead out of the graph or into it change neither.
-/

namespace MaterialGraph.Graph

open Relation (TransGen)

/-- Some connection leads from a node of the graph to a node of the graph. -/
def Feeds (g : Graph) (a b : NodeId) : Prop :=
  a ∈ g.nodes.keys ∧ b ∈ g.nodes.keys ∧
    ∃ c ∈ g.connections.items, c.source.node = a ∧ c.target.node = b

/-- Some node feeds itself, directly or through others. -/
def Cyclic (g : Graph) : Prop :=
  ∃ a, TransGen g.Feeds a a

/-- The connections that have both ends in the graph. -/
def innerConnections (g : Graph) : List Connection :=
  g.connections.items.filter fun c =>
    c.source.node ∈ g.nodes.keys ∧ c.target.node ∈ g.nodes.keys

/-- The edges are the ends of the connections that have both ends in the graph. -/
theorem edges_eq (g : Graph) :
    g.edges = g.innerConnections.map fun c => (c.source.node, c.target.node) := by
  unfold edges innerConnections
  congr 1
  apply List.filter_congr
  intro c _
  rw [Bool.eq_iff_iff, Bool.and_eq_true, Table.contains_iff_mem_keys, Table.contains_iff_mem_keys,
    decide_eq_true_eq]

/-- There is an edge between two nodes exactly when the first feeds the second. -/
theorem mem_edges_iff (g : Graph) (a b : NodeId) : (a, b) ∈ g.edges ↔ g.Feeds a b := by
  rw [edges_eq, List.mem_map]
  constructor
  · rintro ⟨c, hc, hends⟩
    obtain ⟨rfl, rfl⟩ := Prod.mk.inj hends
    obtain ⟨hmem, hinner⟩ := List.mem_filter.mp hc
    obtain ⟨hsource, htarget⟩ := of_decide_eq_true hinner
    exact ⟨hsource, htarget, c, hmem, rfl, rfl⟩
  · rintro ⟨hsource, htarget, c, hmem, rfl, rfl⟩
    exact ⟨c, List.mem_filter.mpr ⟨hmem, decide_eq_true ⟨hsource, htarget⟩⟩, rfl⟩

/-- The state in which ordering a graph ends. -/
def ordered (g : Graph) : OrderState :=
  OrderState.run g.edges g.nodes.size (.start g.nodes.keys g.edges)

/-- In the end every edge is accounted for, and no node waits. -/
theorem invariant_ordered (g : Graph) :
    OrderState.Invariant g.nodes.keys g.edges [] g.ordered ∧ g.ordered.queue = [] := by
  apply OrderState.invariant_run
  · rintro ⟨a, b⟩ he
    exact ((g.mem_edges_iff a b).mp he).2.1
  · simp [Table.keys, Table.size, OrderState.start]
  · exact OrderState.invariant_start _ _ g.nodes.distinct

/-- A graph has an order exactly when all its nodes were taken, in this order. -/
theorem order?_eq_some_iff (g : Graph) (order : List NodeId) :
    g.order? = some order ↔ g.ordered.taken = order ∧ order.Perm g.nodes.keys := by
  have hsize : g.nodes.keys.length = g.nodes.size := List.length_map _
  have hsub : g.ordered.taken.Subperm g.nodes.keys := by
    obtain ⟨hinv, hqueue⟩ := g.invariant_ordered
    apply List.Nodup.subperm
    · simpa [hqueue] using hinv.listed_once
    · intro n hn
      exact ((hinv.listed_iff n).mp (List.mem_append_left _ hn)).1
  have hdef : g.order? =
      if g.ordered.taken.length < g.nodes.size then none else some g.ordered.taken := rfl
  rw [hdef]
  constructor
  · intro h
    split at h
    · contradiction
    · next hlength =>
      obtain rfl := Option.some.inj h
      exact ⟨rfl, hsub.perm_of_length_le (by omega)⟩
  · rintro ⟨rfl, hperm⟩
    rw [if_neg (by rw [hperm.length_eq]; omega)]

/-- In the end a node has been taken exactly when all nodes that feed it have. -/
theorem mem_taken_ordered_iff (g : Graph) (n : NodeId) :
    n ∈ g.ordered.taken ↔ n ∈ g.nodes.keys ∧ ∀ a, g.Feeds a n → a ∈ g.ordered.taken := by
  obtain ⟨hinv, hqueue⟩ := g.invariant_ordered
  have hlisted : n ∈ g.ordered.taken ↔
      n ∈ g.nodes.keys ∧ OrderState.unreleased g.edges g.ordered.taken n = 0 := by
    simpa [hqueue, hinv.degree_eq] using hinv.listed_iff n
  rw [hlisted]
  refine and_congr_right fun _ => ⟨fun hzero a hfeeds => ?_, fun hfed => ?_⟩
  · exact OrderState.source_mem_of_unreleased_eq_zero hzero ((g.mem_edges_iff a n).mpr hfeeds) rfl
  · by_contra hpos
    obtain ⟨a, hedge, ha⟩ := OrderState.exists_source_of_unreleased_pos (Nat.pos_of_ne_zero hpos)
    exact ha (hfed a ((g.mem_edges_iff a n).mp hedge))

/-- A graph of which all nodes were taken has an order. -/
theorem order?_of_forall_mem_taken {g : Graph} (h : ∀ n ∈ g.nodes.keys, n ∈ g.ordered.taken) :
    g.order? = some g.ordered.taken := by
  obtain ⟨hinv, hqueue⟩ := g.invariant_ordered
  refine (g.order?_eq_some_iff _).mpr ⟨rfl, ?_⟩
  refine (List.perm_ext_iff_of_nodup ?_ g.nodes.distinct).mpr ?_
  · simpa [hqueue] using hinv.listed_once
  · exact fun n => ⟨fun hn => ((g.mem_taken_ordered_iff n).mp hn).1, h n⟩

/-- A node that feeds another stands before it in the order. -/
theorem idxOf_lt_of_feeds {g : Graph} {order : List NodeId} (h : g.order? = some order)
    {a b : NodeId} (hfeeds : g.Feeds a b) : order.idxOf a < order.idxOf b := by
  obtain ⟨rfl, hperm⟩ := (g.order?_eq_some_iff order).mp h
  obtain ⟨before, after, hsplit⟩ := List.append_of_mem (hperm.mem_iff.mpr hfeeds.2.1)
  have ha : a ∈ before := g.invariant_ordered.1.sources_first before b after hsplit (a, b)
    ((g.mem_edges_iff a b).mpr hfeeds) rfl
  have hb : b ∉ before := by
    have hnodup : g.ordered.taken.Nodup := hperm.nodup_iff.mpr g.nodes.distinct
    rw [hsplit, List.nodup_append] at hnodup
    exact fun hmem => hnodup.2.2 b hmem b List.mem_cons_self rfl
  rw [hsplit, List.idxOf_append_of_mem ha, List.idxOf_append_of_notMem hb]
  exact Nat.lt_add_right _ (List.idxOf_lt_length_iff.mpr ha)

/-- A node that feeds another through further nodes stands before it in the order. -/
theorem idxOf_lt_of_transGen {g : Graph} {order : List NodeId} (h : g.order? = some order)
    {a b : NodeId} (hpath : TransGen g.Feeds a b) : order.idxOf a < order.idxOf b := by
  induction hpath with
  | single hfeeds => exact idxOf_lt_of_feeds h hfeeds
  | tail _ hfeeds ih => exact ih.trans (idxOf_lt_of_feeds h hfeeds)

/-- A graph that has an order has no cycle. -/
theorem not_cyclic_of_order? {g : Graph} {order : List NodeId} (h : g.order? = some order) :
    ¬ g.Cyclic := by
  rintro ⟨a, hcycle⟩
  exact Nat.lt_irrefl _ (idxOf_lt_of_transGen h hcycle)

/-- Without a cycle, nodes of which each is fed by another of them are none at all. -/
theorem not_mem_of_fed {g : Graph} (hacyclic : ¬ g.Cyclic) (left : Set NodeId)
    (hnodes : ∀ b ∈ left, b ∈ g.nodes.keys) (hfed : ∀ b ∈ left, ∃ a ∈ left, g.Feeds a b)
    (b : NodeId) : b ∉ left := by
  have horder : IsStrictOrder NodeId (TransGen g.Feeds) :=
    { irrefl := fun a h => hacyclic ⟨a, h⟩
      trans := fun _ _ _ => TransGen.trans }
  have hfinite : left.Finite := (List.finite_toSet g.nodes.keys).subset hnodes
  intro hb
  -- Going back from node to node ends, because feeding is well-founded on a finite set.
  refine hfinite.wellFoundedOn.induction (r := TransGen g.Feeds) (P := fun _ => False) hb ?_
  intro target htarget ih
  obtain ⟨source, hsource, hfeeds⟩ := hfed target htarget
  exact ih source hsource (TransGen.single hfeeds)

/-- A graph without a cycle has an order. -/
theorem exists_order?_of_not_cyclic {g : Graph} (hacyclic : ¬ g.Cyclic) :
    ∃ order, g.order? = some order := by
  refine ⟨g.ordered.taken, order?_of_forall_mem_taken fun n hn => ?_⟩
  by_contra hleft
  refine not_mem_of_fed hacyclic {b | b ∈ g.nodes.keys ∧ b ∉ g.ordered.taken}
    (fun b hb => hb.1) ?_ n ⟨hn, hleft⟩
  rintro b ⟨hb, huntaken⟩
  by_contra hunfed
  refine huntaken ((g.mem_taken_ordered_iff b).mpr ⟨hb, fun a hfeeds => ?_⟩)
  by_contra ha
  exact hunfed ⟨a, ⟨hfeeds.1, ha⟩, hfeeds⟩

/-- A graph without an order has a cycle. -/
theorem cyclic_of_order?_eq_none {g : Graph} (h : g.order? = none) : g.Cyclic := by
  by_contra hacyclic
  obtain ⟨order, horder⟩ := exists_order?_of_not_cyclic hacyclic
  simp [h] at horder

/-- Ordering reads the identities of the nodes and the connections between them only. -/
theorem order?_congr {g h : Graph} (hnodes : h.nodes.keys = g.nodes.keys)
    (hconnections : h.innerConnections = g.innerConnections) : h.order? = g.order? := by
  have hedges : h.edges = g.edges := by rw [edges_eq, edges_eq, hconnections]
  have hsize : h.nodes.size = g.nodes.size := by
    simpa [Table.keys, Table.size] using congrArg List.length hnodes
  unfold order?
  rw [hedges, hnodes, hsize]

/-- A graph has an order exactly when no node feeds itself. The order lists every node once, and the
source of each connection between nodes before its target. Connections with an end outside the graph
do not count. -/
theorem order?_sorts_acyclic (g : Graph) :
    ((∃ order, g.order? = some order) ↔ ¬ g.Cyclic) ∧
      (∀ order, g.order? = some order →
        order.Perm g.nodes.keys ∧ order.Nodup ∧
          ∀ c ∈ g.connections.items, c.source.node ∈ g.nodes.keys → c.target.node ∈ g.nodes.keys →
            order.idxOf c.source.node < order.idxOf c.target.node) ∧
      ∀ h : Graph, h.nodes.keys = g.nodes.keys → h.innerConnections = g.innerConnections →
        h.order? = g.order? := by
  refine ⟨⟨?_, exists_order?_of_not_cyclic⟩, ?_, fun h => order?_congr⟩
  · rintro ⟨order, h⟩
    exact not_cyclic_of_order? h
  · intro order h
    have hperm := ((g.order?_eq_some_iff order).mp h).2
    refine ⟨hperm, hperm.nodup_iff.mpr g.nodes.distinct, ?_⟩
    intro c hc hsource htarget
    exact idxOf_lt_of_feeds h ⟨hsource, htarget, c, hc, rfl, rfl⟩

/-- An identity with a given number. -/
def numbered (n : Nat) : Uuid :=
  ⟨BitVec.ofNat 128 n⟩

/-- A graph whose nodes are listed against their order. Two connections lead from the time to the
sum, one from the sum to the output, and one from and one to a node that is not there. -/
def sumOfTime : Graph where
  id := numbered 0
  name := untitled
  nodes := .ofList
    [.ofKind (numbered 3) "pbr_output", .ofKind (numbered 2) "add", .ofKind (numbered 1) "time"]
  connections := .ofList
    [⟨numbered 10, ⟨numbered 9, "result"⟩, ⟨numbered 2, "a"⟩⟩,
      ⟨numbered 11, ⟨numbered 1, "time"⟩, ⟨numbered 2, "b"⟩⟩,
      ⟨numbered 12, ⟨numbered 1, "time"⟩, ⟨numbered 2, "a"⟩⟩,
      ⟨numbered 13, ⟨numbered 2, "result"⟩, ⟨numbered 3, "metallic"⟩⟩,
      ⟨numbered 14, ⟨numbered 2, "result"⟩, ⟨numbered 9, "a"⟩⟩]

/-- The sum of the time has an order, which the connections of the missing node do not change. -/
theorem order?_sorts_sumOfTime :
    ∃ order, sumOfTime.order? = some order ∧ ¬ sumOfTime.Cyclic ∧
      order.Perm sumOfTime.nodes.keys ∧ order.idxOf (numbered 1) < order.idxOf (numbered 2) ∧
      (sumOfTime.removeNode (numbered 9)).order? = some order := by
  have horder : sumOfTime.order? = some [numbered 1, numbered 2, numbered 3] := by decide +kernel
  obtain ⟨hexists, hsorted, hinner⟩ := order?_sorts_acyclic sumOfTime
  obtain ⟨hperm, -, hbefore⟩ := hsorted _ horder
  refine ⟨_, horder, hexists.mp ⟨_, horder⟩, hperm, ?_, ?_⟩
  · exact hbefore ⟨numbered 11, ⟨numbered 1, "time"⟩, ⟨numbered 2, "b"⟩⟩ (by decide +kernel)
      (by decide +kernel) (by decide +kernel)
  · exact (hinner (sumOfTime.removeNode (numbered 9)) (by decide +kernel)
      (by decide +kernel)).trans horder

end MaterialGraph.Graph
