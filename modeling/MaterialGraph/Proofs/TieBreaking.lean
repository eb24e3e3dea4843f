import Mathlib.Data.Finset.Max
import Mathlib.Data.List.Dedup
import MaterialGraph.Proofs.Acyclic

/-!
# Which of several orders is chosen

A graph can often be ordered in several ways. The nodes that nothing feeds come first, in node
order. The others come in the order in which their last edge is released: by the place of the last
node that feeds them, and among those that the same node feeds last, by the last connection from it.
The queue is not needed to say this, and there is one order only of which it holds.

While nodes are ordered, those that have been listed are the unfed ones and then the targets of the
released edges, each kept at its last release, as far as none of its edges is left.
-/

namespace MaterialGraph.Graph

/-! ### Last appearances in a list -/

/-- A further value comes last, and its earlier appearances go. -/
theorem dedup_append_singleton (values : List NodeId) (a : NodeId) :
    (values ++ [a]).dedup = values.dedup.filter (· ≠ a) ++ [a] := by
  induction values with
  | nil => rfl
  | cons b rest ih =>
    rw [List.cons_append, List.dedup_cons, List.dedup_cons, ih]
    by_cases hrest : b ∈ rest
    · simp [hrest]
    · by_cases ha : b = a
      · simp [ha, ha ▸ hrest]
      · simp [hrest, ha]

/-- What follows the last appearance of a value follows it also when each value is kept at its last
appearance. -/
theorem dedup_append_cons (before : List NodeId) {a : NodeId} {after : List NodeId}
    (h : a ∉ after) : ∃ front, (before ++ a :: after).dedup = front ++ a :: after.dedup := by
  induction before with
  | nil => exact ⟨[], List.dedup_cons_of_notMem h⟩
  | cons b rest ih =>
    obtain ⟨front, hfront⟩ := ih
    rw [List.cons_append, List.dedup_cons, hfront]
    split
    · exact ⟨front, rfl⟩
    · exact ⟨b :: front, rfl⟩

/-- A member of a list appears last at some index. -/
theorem exists_last_index {α : Type} {values : List α} {a : α} (h : a ∈ values) :
    ∃ index : Nat, values[index]? = some a ∧ ∀ i : Nat, values[i]? = some a → i ≤ index := by
  induction values with
  | nil => contradiction
  | cons b rest ih =>
    by_cases hrest : a ∈ rest
    · obtain ⟨index, hindex, hlast⟩ := ih hrest
      refine ⟨index + 1, hindex, ?_⟩
      intro i hi
      cases i with
      | zero => omega
      | succ i => exact Nat.succ_le_succ (hlast i hi)
    · obtain rfl : a = b := by simpa [hrest] using h
      refine ⟨0, rfl, ?_⟩
      intro i hi
      cases i with
      | zero => omega
      | succ i =>
        rw [List.getElem?_cons_succ] at hi
        exact absurd (List.mem_of_getElem? hi) hrest

/-- In a list without repetitions, the values after a given one are those of a larger place. -/
theorem mem_after_iff {order before after : List NodeId} {a b : NodeId} (hnodup : order.Nodup)
    (hsplit : order = before ++ a :: after) (hb : b ∈ order) :
    b ∈ after ↔ order.idxOf a < order.idxOf b := by
  subst hsplit
  rw [List.nodup_append, List.nodup_cons] at hnodup
  obtain ⟨-, ⟨ha, -⟩, hdisjoint⟩ := hnodup
  have hout : a ∉ before := fun hmem => hdisjoint a hmem a List.mem_cons_self rfl
  rw [List.idxOf_append_of_notMem hout, List.idxOf_cons_self]
  by_cases hbefore : b ∈ before
  · have hnot : b ∉ after := fun hmem => hdisjoint b hbefore b (List.mem_cons_of_mem _ hmem) rfl
    have hlt := List.idxOf_lt_length_of_mem hbefore
    rw [List.idxOf_append_of_mem hbefore]
    simp only [hnot, false_iff]
    omega
  · rw [List.idxOf_append_of_notMem hbefore]
    by_cases hba : b = a
    · simp [hba, ha]
    · rw [List.idxOf_cons_ne _ (Ne.symm hba)]
      have hmem : b ∈ after := by simpa [hbefore, hba] using hb
      simp only [hmem, true_iff]
      omega

/-! ### Release after release -/

namespace OrderState

/-- The listed nodes are given ones and then the released targets without edges left, each at its
last release. -/
def Logged (unfed released : List NodeId) (s : OrderState) : Prop :=
  s.taken ++ s.queue = unfed ++ released.dedup.filter fun node => s.degree node = 0

/-- Releasing an edge adds its target to the log. -/
theorem Logged.release {unfed released : List NodeId} {s : OrderState} {node : NodeId}
    (h : s.Logged unfed released) (hdegree : s.degree node ≠ 0) :
    (s.release node).Logged unfed (released ++ [node]) := by
  have hothers : (released.dedup.filter (· ≠ node)).filter
      (fun n => (s.release node).degree n = 0) =
        released.dedup.filter fun n => s.degree n = 0 := by
    rw [List.filter_filter]
    apply List.filter_congr
    intro n _
    by_cases hn : n = node
    · simp [hn, hdegree]
    · simp [OrderState.release, hn]
  unfold Logged
  rw [dedup_append_singleton, List.filter_append, hothers, ← List.append_assoc, ← h]
  by_cases hlast : s.degree node - 1 = 0
  · simp [OrderState.release, hlast]
  · simp [OrderState.release, hlast]

/-- Releasing edges one after the other adds their targets to the log. -/
theorem Logged.foldl_release {nodes : List NodeId} {edges : List (NodeId × NodeId)}
    {unfed released pending : List NodeId} {s : OrderState}
    (hpending : ∀ node ∈ pending, node ∈ nodes) (hinv : Invariant nodes edges pending s)
    (h : s.Logged unfed released) :
    (pending.foldl OrderState.release s).Logged unfed (released ++ pending) := by
  induction pending generalizing s released with
  | nil => simpa using h
  | cons node rest ih =>
    have hdegree : s.degree node ≠ 0 := by
      have hcount := hinv.degree_eq node
      rw [List.count_cons_self] at hcount
      omega
    have hnext := ih (fun n hn => hpending n (List.mem_cons_of_mem _ hn))
      (invariant_release (hpending node List.mem_cons_self) hinv) (h.release hdegree)
    rwa [List.append_assoc, List.singleton_append] at hnext

/-- A step adds the targets of the node that it takes to the log. -/
theorem Logged.step {nodes unfed : List NodeId} {edges : List (NodeId × NodeId)}
    {s next : OrderState} (hedges : ∀ e ∈ edges, e.2 ∈ nodes) (hstep : s.step edges = some next)
    (hinv : Invariant nodes edges [] s) (h : s.Logged unfed (s.taken.flatMap (targets edges))) :
    next.Logged unfed (next.taken.flatMap (targets edges)) := by
  unfold OrderState.step at hstep
  split at hstep
  · contradiction
  · next node rest hqueue =>
    obtain rfl := Option.some.inj hstep
    have htaken : Logged unfed (s.taken.flatMap (targets edges))
        { s with queue := rest, taken := s.taken ++ [node] } := by
      unfold Logged at h ⊢
      rw [← h, hqueue, List.append_assoc, List.singleton_append]
    have htargets : ∀ target ∈ targets edges node, target ∈ nodes := by
      intro target htarget
      obtain ⟨e, he, rfl⟩ := List.mem_map.mp htarget
      exact hedges e (List.mem_of_mem_filter he)
    have hall := htaken.foldl_release htargets (invariant_take hqueue hinv)
    rw [taken_foldl_release, List.flatMap_append, List.flatMap_singleton]
    exact hall

/-- A run keeps the log of its releases. -/
theorem Logged.run {nodes unfed : List NodeId} {edges : List (NodeId × NodeId)} (limit : Nat)
    {s : OrderState} (hedges : ∀ e ∈ edges, e.2 ∈ nodes) (hinv : Invariant nodes edges [] s)
    (h : s.Logged unfed (s.taken.flatMap (targets edges))) :
    (OrderState.run edges limit s).Logged unfed
      ((OrderState.run edges limit s).taken.flatMap (targets edges)) := by
  induction limit generalizing s with
  | zero => exact h
  | succ limit ih =>
    unfold OrderState.run
    split
    · exact h
    · next next hstep => exact ih (invariant_step hedges hstep hinv).1 (h.step hedges hstep hinv)

end OrderState

/-! ### The order as a list of releases -/

/-- The nodes that no connection between nodes of the graph leads to, in node order. -/
def unfed (g : Graph) : List NodeId :=
  g.nodes.keys.filter fun node => node ∉ g.edges.map Prod.snd

/-- At the start the unfed nodes wait. -/
theorem queue_start (g : Graph) : (OrderState.start g.nodes.keys g.edges).queue = g.unfed := by
  apply List.filter_congr
  intro node _
  rw [Bool.eq_iff_iff, beq_iff_eq, inDegree, List.countP_eq_zero, decide_eq_true_eq]
  simp only [List.mem_map, not_exists, not_and, beq_iff_eq]

/-- A node has an edge among its targets exactly if there is one. -/
theorem mem_targets_iff {edges : List (NodeId × NodeId)} {source target : NodeId} :
    target ∈ targets edges source ↔ (source, target) ∈ edges := by
  simp [targets]

/-- The order is made of the unfed nodes, and then of the targets of the nodes in order, each kept
at its last appearance. -/
theorem eq_unfed_append_of_order? {g : Graph} {order : List NodeId} (h : g.order? = some order) :
    order = g.unfed ++ (order.flatMap (targets g.edges)).dedup := by
  obtain ⟨rfl, hperm⟩ := (g.order?_eq_some_iff order).mp h
  obtain ⟨hinv, hqueue⟩ := g.invariant_ordered
  have hedges : ∀ e ∈ g.edges, e.2 ∈ g.nodes.keys := fun e he =>
    ((g.mem_edges_iff e.1 e.2).mp he).2.1
  have hlog : g.ordered.Logged g.unfed (g.ordered.taken.flatMap (targets g.edges)) := by
    apply OrderState.Logged.run _ hedges (OrderState.invariant_start _ _ g.nodes.distinct)
    unfold OrderState.Logged
    rw [queue_start]
    simp [OrderState.start]
  -- Every node has been taken, so no target has edges left and the log is kept whole.
  have hall : ∀ target ∈ (g.ordered.taken.flatMap (targets g.edges)).dedup,
      decide (g.ordered.degree target = 0) = true := by
    intro target htarget
    rw [List.mem_dedup, List.mem_flatMap] at htarget
    obtain ⟨source, -, hmem⟩ := htarget
    have hnode : target ∈ g.ordered.taken :=
      hperm.mem_iff.mpr (hedges _ (mem_targets_iff.mp hmem))
    exact decide_eq_true ((hinv.listed_iff target).mp (List.mem_append_left _ hnode)).2
  unfold OrderState.Logged at hlog
  rwa [hqueue, List.append_nil, List.filter_eq_self.mpr hall] at hlog

/-! ### Ties -/

/-- A node is fed last by a source, through the edge of an index: of all sources of the node this
one stands last in an order, and of all edges from it to the node this is the last. -/
structure LastFeed (g : Graph) (order : List NodeId) (node source : NodeId) (index : Nat) :
    Prop where
  edge : g.edges[index]? = some (source, node)
  last_source : ∀ other, (other, node) ∈ g.edges → order.idxOf other ≤ order.idxOf source
  last_edge : ∀ i, g.edges[i]? = some (source, node) → i ≤ index

instance (g : Graph) (order : List NodeId) (node source : NodeId) (index : Nat) :
    Decidable (g.LastFeed order node source index) :=
  decidable_of_iff
    (g.edges[index]? = some (source, node) ∧
      (∀ e ∈ g.edges, e.2 = node → order.idxOf e.1 ≤ order.idxOf source) ∧
      ∀ i < g.edges.length, g.edges[i]? = some (source, node) → i ≤ index)
    ⟨fun h => ⟨h.1, fun _ hother => h.2.1 _ hother rfl,
        fun i hi => h.2.2 i (List.getElem?_eq_some_iff.mp hi).1 hi⟩,
      fun h => ⟨h.edge, fun e he hnode => h.last_source e.1 (hnode ▸ he),
        fun i _ hi => h.last_edge i hi⟩⟩

/-- An order in which the unfed nodes come first, in node order, and the others by the place of
their last source and the index of the last edge from it. -/
structure Arranged (g : Graph) (order : List NodeId) : Prop where
  unfed_first : g.unfed <+: order
  before_iff : ∀ u v source target i j, u ≠ v → g.LastFeed order u source i →
    g.LastFeed order v target j →
      (order.idxOf u < order.idxOf v ↔
        order.idxOf source < order.idxOf target ∨
          order.idxOf source = order.idxOf target ∧ i < j)

/-- The sources of edges are nodes, so an order of the nodes has them. -/
theorem source_mem_of_perm {g : Graph} {order : List NodeId} (hperm : order.Perm g.nodes.keys)
    {source target : NodeId} (h : (source, target) ∈ g.edges) : source ∈ order :=
  hperm.mem_iff.mpr ((g.mem_edges_iff source target).mp h).1

/-- A node that some edge leads to is fed last by some source, through some edge. -/
theorem exists_lastFeed {g : Graph} (order : List NodeId) {node : NodeId}
    (hfed : node ∈ g.edges.map Prod.snd) : ∃ source index, g.LastFeed order node source index := by
  obtain ⟨first, hfirst, rfl⟩ := List.mem_map.mp hfed
  obtain ⟨⟨source, node⟩, hmem, hlast⟩ := (g.edges.toFinset.filter (·.2 = first.2)).exists_max_image
    (fun e => order.idxOf e.1) ⟨first, by simpa using hfirst⟩
  simp only [Finset.mem_filter, List.mem_toFinset] at hmem hlast
  obtain ⟨hmem, rfl⟩ := hmem
  obtain ⟨index, hindex, hlastIndex⟩ := exists_last_index hmem
  have hlastSource : ∀ other, (other, first.2) ∈ g.edges →
      order.idxOf other ≤ order.idxOf source := fun other hother =>
    hlast (other, first.2) ⟨hother, rfl⟩
  exact ⟨source, index, hindex, hlastSource, hlastIndex⟩

/-- The source and the edge through which a node is fed last are unique. -/
theorem LastFeed.unique {g : Graph} {order : List NodeId} (hperm : order.Perm g.nodes.keys)
    {node s t : NodeId} {i j : Nat} (hs : g.LastFeed order node s i)
    (ht : g.LastFeed order node t j) : s = t ∧ i = j := by
  have hplace : order.idxOf s = order.idxOf t := by
    apply Nat.le_antisymm
    · exact ht.last_source s (List.mem_of_getElem? hs.edge)
    · exact hs.last_source t (List.mem_of_getElem? ht.edge)
  obtain rfl : s = t :=
    (List.idxOf_inj (source_mem_of_perm hperm (List.mem_of_getElem? hs.edge))).mp hplace
  exact ⟨rfl, Nat.le_antisymm (ht.last_edge i hs.edge) (hs.last_edge j ht.edge)⟩

/-- The targets of a source before and after an edge that leaves it. -/
theorem targets_append_cons (before after : List (NodeId × NodeId)) (source target : NodeId) :
    targets (before ++ (source, target) :: after) source =
      targets before source ++ target :: targets after source := by
  simp [targets]

/-- What is released before and after an edge, if the nodes are taken in an order. -/
theorem flatMap_targets_eq {edges : List (NodeId × NodeId)} {front back : List NodeId}
    {source target : NodeId} {i : Nat} (h : edges[i]? = some (source, target)) :
    (front ++ source :: back).flatMap (targets edges) =
      (front.flatMap (targets edges) ++ targets (edges.take i) source) ++
        target :: (targets (edges.drop (i + 1)) source ++ back.flatMap (targets edges)) := by
  have hedges : edges = edges.take i ++ (source, target) :: edges.drop (i + 1) := by
    obtain ⟨hi, hget⟩ := List.getElem?_eq_some_iff.mp h
    rw [← hget, ← List.drop_eq_getElem_cons hi, List.take_append_drop]
  have htargets := targets_append_cons (edges.take i) (edges.drop (i + 1)) source target
  rw [← hedges] at htargets
  rw [List.flatMap_append, List.flatMap_cons, htargets]
  simp only [List.append_assoc, List.cons_append]

/-- A node that is fed last before another is released for the last time before it. -/
theorem exists_release_of_lt {g : Graph} {order : List NodeId} (hperm : order.Perm g.nodes.keys)
    {u v source target : NodeId} {i j : Nat} (hu : g.LastFeed order u source i)
    (hv : g.LastFeed order v target j)
    (hlt : order.idxOf source < order.idxOf target ∨
      order.idxOf source = order.idxOf target ∧ i < j) :
    ∃ before after, order.flatMap (targets g.edges) = before ++ u :: after ∧ u ∉ after ∧
      v ∈ after := by
  have hnodup : order.Nodup := hperm.nodup_iff.mpr g.nodes.distinct
  have hsource := source_mem_of_perm hperm (List.mem_of_getElem? hu.edge)
  have htarget := source_mem_of_perm hperm (List.mem_of_getElem? hv.edge)
  obtain ⟨front, back, horder⟩ := List.append_of_mem hsource
  refine ⟨_, _, horder ▸ flatMap_targets_eq hu.edge, ?_, ?_⟩
  · rw [List.mem_append, not_or, mem_targets_iff, List.mem_flatMap]
    constructor
    · intro hmem
      obtain ⟨k, hk⟩ := List.mem_iff_getElem?.mp hmem
      rw [List.getElem?_drop] at hk
      have hle := hu.last_edge _ hk
      omega
    · intro hmem
      obtain ⟨other, hother, hfeeds⟩ := hmem
      have hedge := mem_targets_iff.mp hfeeds
      have hle := hu.last_source other hedge
      have hafter := (mem_after_iff hnodup horder (source_mem_of_perm hperm hedge)).mp hother
      omega
  · rw [List.mem_append, mem_targets_iff, List.mem_flatMap]
    rcases hlt with hbefore | ⟨hsame, hij⟩
    · right
      exact ⟨target, (mem_after_iff hnodup horder htarget).mpr hbefore,
        mem_targets_iff.mpr (List.mem_of_getElem? hv.edge)⟩
    · left
      obtain rfl := (List.idxOf_inj hsource).mp hsame
      apply List.mem_iff_getElem?.mpr
      refine ⟨j - (i + 1), ?_⟩
      rw [List.getElem?_drop, Nat.add_sub_cancel' hij]
      exact hv.edge

/-- A node that is fed last before another stands before it. -/
theorem idxOf_lt_of_lastFeed {g : Graph} {order : List NodeId} (h : g.order? = some order)
    {u v source target : NodeId} {i j : Nat} (hu : g.LastFeed order u source i)
    (hv : g.LastFeed order v target j)
    (hlt : order.idxOf source < order.idxOf target ∨
      order.idxOf source = order.idxOf target ∧ i < j) :
    order.idxOf u < order.idxOf v := by
  have hperm := ((g.order?_eq_some_iff order).mp h).2
  obtain ⟨before, after, hreleases, hu, hv⟩ := exists_release_of_lt hperm hu hv hlt
  obtain ⟨front, hfront⟩ := dedup_append_cons before hu
  have hsplit : order = g.unfed ++ front ++ u :: after.dedup := by
    conv_lhs => rw [eq_unfed_append_of_order? h]
    rw [hreleases, hfront, List.append_assoc]
  have hv : v ∈ after.dedup := List.mem_dedup.mpr hv
  have hmem : v ∈ order := by
    rw [hsplit]
    exact List.mem_append_right _ (List.mem_cons_of_mem _ hv)
  exact (mem_after_iff (hperm.nodup_iff.mpr g.nodes.distinct) hsplit hmem).mp hv

/-- The order of a graph is arranged by the last feeds of its nodes. -/
theorem arranged_of_order? {g : Graph} {order : List NodeId} (h : g.order? = some order) :
    g.Arranged order where
  unfed_first := ⟨_, (eq_unfed_append_of_order? h).symm⟩
  before_iff u v source target i j hne hu hv := by
    constructor
    · intro hlt
      by_contra hnot
      have hback : ¬ (order.idxOf target < order.idxOf source ∨
          order.idxOf target = order.idxOf source ∧ j < i) := by
        intro hlt'
        have hgt := idxOf_lt_of_lastFeed h hv hu hlt'
        omega
      -- The two feeds are the same edge, which leads to one node only.
      obtain ⟨hsame, rfl⟩ : order.idxOf source = order.idxOf target ∧ i = j := by omega
      have hperm := ((g.order?_eq_some_iff order).mp h).2
      have hsource := source_mem_of_perm hperm (List.mem_of_getElem? hu.edge)
      obtain rfl := (List.idxOf_inj hsource).mp hsame
      have hedge := Option.some.inj (hu.edge.symm.trans hv.edge)
      exact hne (Prod.mk.inj hedge).2
    · exact idxOf_lt_of_lastFeed h hu hv

/-! ### One order only -/

/-- Nodes in a common start of two orders have the same places in both. -/
theorem idxOf_eq_of_take_eq {order other : List NodeId} {k : Nat}
    (htake : order.take k = other.take k) {a : NodeId} (ha : a ∈ order)
    (hlt : order.idxOf a < k) : order.idxOf a = other.idxOf a := by
  have hmem : a ∈ order.take k := (List.mem_take_iff_idxOf_lt ha).mpr hlt
  calc order.idxOf a = (order.take k).idxOf a :=
        ((List.take_prefix k order).idxOf_eq_of_mem hmem).symm
    _ = (other.take k).idxOf a := by rw [htake]
    _ = other.idxOf a := (List.take_prefix k other).idxOf_eq_of_mem (htake ▸ hmem)

/-- A node whose last source is in a common start of two orders is fed last in the same way in
both, since its other sources stand before that one. -/
theorem LastFeed.of_take_eq {g : Graph} {order other : List NodeId} {node source : NodeId}
    {index k : Nat} (h : g.LastFeed order node source index) (hperm : order.Perm g.nodes.keys)
    (htake : order.take k = other.take k) (hlt : order.idxOf source < k) :
    order.idxOf source = other.idxOf source ∧ g.LastFeed other node source index := by
  have hplaces : ∀ s, (s, node) ∈ g.edges → order.idxOf s = other.idxOf s := by
    intro s hs
    have hle := h.last_source s hs
    exact idxOf_eq_of_take_eq htake (source_mem_of_perm hperm hs) (by omega)
  have hplace := hplaces source (List.mem_of_getElem? h.edge)
  refine ⟨hplace, h.edge, ?_, h.last_edge⟩
  intro s hs
  rw [← hplaces s hs, ← hplace]
  exact h.last_source s hs

/-- Where two orders with a common start part, each has the node of the other later than its own. -/
theorem lt_idxOf_of_take_eq {order other : List NodeId} {k : Nat} {a b : NodeId}
    (hnodup : order.Nodup) (hother : other.Nodup) (htake : order.take k = other.take k)
    (ha : order[k]? = some a) (hb : other[k]? = some b) (hmem : b ∈ order) (hne : a ≠ b) :
    order.idxOf a = k ∧ k < order.idxOf b := by
  obtain ⟨hk, rfl⟩ := List.getElem?_eq_some_iff.mp ha
  obtain ⟨hk', rfl⟩ := List.getElem?_eq_some_iff.mp hb
  refine ⟨hnodup.idxOf_getElem k hk, ?_⟩
  have hle : ¬ order.idxOf other[k] < k := by
    intro hlt
    have hsame := idxOf_eq_of_take_eq htake hmem hlt
    rw [hother.idxOf_getElem k hk'] at hsame
    omega
  have hplace : order.idxOf other[k] ≠ k := by
    intro heq
    apply hne
    rw [← List.getElem_idxOf (List.idxOf_lt_length_of_mem hmem)]
    simp only [heq]
  omega

/-- A node behind the unfed ones is fed. -/
theorem fed_of_length_le {g : Graph} {order : List NodeId} (hperm : order.Perm g.nodes.keys)
    (hfirst : g.unfed <+: order) {node : NodeId} (hnode : node ∈ order)
    (hle : g.unfed.length ≤ order.idxOf node) : node ∈ g.edges.map Prod.snd := by
  by_contra hunfed
  have hmem : node ∈ g.unfed :=
    List.mem_filter.mpr ⟨hperm.mem_iff.mp hnode, decide_eq_true hunfed⟩
  have hlt := (hfirst.mem_iff_idxOf_lt_length node).mp hmem
  omega

/-- Behind the unfed nodes, an arranged order goes on as the order of the graph does. -/
theorem Arranged.eq_of_fed {g : Graph} {order other : List NodeId} (h : g.order? = some order)
    (hperm : other.Perm g.nodes.keys) (hother : g.Arranged other) {k : Nat}
    (htake : order.take k = other.take k) (hunfed : g.unfed.length ≤ k) {u v : NodeId}
    (hu : order[k]? = some u) (hv : other[k]? = some v) : u = v := by
  have harranged := arranged_of_order? h
  have hpermOrder := ((g.order?_eq_some_iff order).mp h).2
  have hnodup : order.Nodup := hpermOrder.nodup_iff.mpr g.nodes.distinct
  have hnodupOther : other.Nodup := hperm.nodup_iff.mpr g.nodes.distinct
  have hsame := hpermOrder.trans hperm.symm
  have humem := List.mem_of_getElem? hu
  have hvmem := List.mem_of_getElem? hv
  by_contra hne
  obtain ⟨huk, hulate⟩ :=
    lt_idxOf_of_take_eq hnodup hnodupOther htake hu hv (hsame.mem_iff.mpr hvmem) hne
  obtain ⟨hvk, hvlate⟩ :=
    lt_idxOf_of_take_eq hnodupOther hnodup htake.symm hv hu (hsame.mem_iff.mp humem) (Ne.symm hne)
  obtain ⟨s, i, hs⟩ := exists_lastFeed order
    (fed_of_length_le hpermOrder harranged.unfed_first humem (by omega))
  obtain ⟨t, j, ht⟩ := exists_lastFeed other
    (fed_of_length_le hperm hother.unfed_first hvmem (by omega))
  -- The sources of the first node stand before it, so the other order has them at the same places.
  have hslt := idxOf_lt_of_feeds h ((g.mem_edges_iff _ _).mp (List.mem_of_getElem? hs.edge))
  obtain ⟨hsplace, hs'⟩ := hs.of_take_eq hpermOrder htake (by omega)
  have hback := (hother.before_iff _ _ _ _ _ _ (Ne.symm hne) ht hs').mp (by omega)
  -- The second node is fed last before the first, so its sources are in the common start, too.
  obtain ⟨htplace, ht'⟩ := ht.of_take_eq hperm htake.symm (by omega)
  have hforth := (harranged.before_iff _ _ _ _ _ _ hne hs ht').mp (by omega)
  omega

/-- There is one arranged order only. -/
theorem Arranged.eq_of_order? {g : Graph} {order other : List NodeId} (h : g.order? = some order)
    (hperm : other.Perm g.nodes.keys) (hother : g.Arranged other) : other = order := by
  have hlength : other.length = order.length :=
    (hperm.trans ((g.order?_eq_some_iff order).mp h).2.symm).length_eq
  have htake : ∀ k, order.take k = other.take k := by
    intro k
    induction k with
    | zero => rfl
    | succ k ih =>
      have hnext : order[k]? = other[k]? := by
        by_cases hk : k < order.length
        · have hk' : k < other.length := hlength ▸ hk
          rw [List.getElem?_eq_getElem hk, List.getElem?_eq_getElem hk', Option.some.injEq]
          by_cases hunfed : k < g.unfed.length
          · rw [← (arranged_of_order? h).unfed_first.getElem hunfed,
              ← hother.unfed_first.getElem hunfed]
          · exact hother.eq_of_fed h hperm ih (by omega) (List.getElem?_eq_getElem hk)
              (List.getElem?_eq_getElem hk')
        · rw [List.getElem?_eq_none (by omega), List.getElem?_eq_none (by omega)]
      rw [List.take_add_one, List.take_add_one, ih, hnext]
  have hall := htake order.length
  rwa [List.take_length, List.take_of_length_le hlength.le, eq_comm] at hall

/-- The order of a graph has the nodes that nothing feeds first, in node order, and the others by
the place of their last source and the index of the last edge from it, which every fed node has. No
other order of the nodes is like this. -/
theorem order?_breaks_ties {g : Graph} {order : List NodeId} (h : g.order? = some order) :
    g.Arranged order ∧
      (∀ node ∈ g.nodes.keys, node ∉ g.unfed →
        ∃ source index, g.LastFeed order node source index ∧
          ∀ s i, g.LastFeed order node s i → s = source ∧ i = index) ∧
      ∀ other : List NodeId, other.Perm g.nodes.keys → g.Arranged other → other = order := by
  have hperm := ((g.order?_eq_some_iff order).mp h).2
  refine ⟨arranged_of_order? h, ?_, fun other hother harranged => harranged.eq_of_order? h hother⟩
  intro node hnode hunfed
  have hfed : node ∈ g.edges.map Prod.snd := by
    by_contra hfed
    exact hunfed (List.mem_filter.mpr ⟨hnode, decide_eq_true hfed⟩)
  obtain ⟨source, index, hfeed⟩ := exists_lastFeed order hfed
  exact ⟨source, index, hfeed, fun s i hother => hother.unique hperm hfeed⟩

/-- The nodes of a graph against the order of its connections: the product is listed before the sum,
and two connections lead to it, but the sum lies between them. -/
def sumBetween : Graph where
  id := numbered 0
  name := untitled
  nodes := .ofList
    [.ofKind (numbered 4) "multiply", .ofKind (numbered 3) "add", .ofKind (numbered 2) "uv",
      .ofKind (numbered 1) "time"]
  connections := .ofList
    [⟨numbered 10, ⟨numbered 1, "time"⟩, ⟨numbered 4, "a"⟩⟩,
      ⟨numbered 11, ⟨numbered 1, "time"⟩, ⟨numbered 3, "a"⟩⟩,
      ⟨numbered 12, ⟨numbered 9, "result"⟩, ⟨numbered 3, "b"⟩⟩,
      ⟨numbered 13, ⟨numbered 1, "time"⟩, ⟨numbered 4, "b"⟩⟩]

/-- The sum comes before the product, and it would not be arranged otherwise. -/
theorem order?_breaks_ties_sumBetween :
    ∃ order, sumBetween.order? = some order ∧
      sumBetween.LastFeed order (numbered 3) (numbered 1) 1 ∧
      sumBetween.LastFeed order (numbered 4) (numbered 1) 2 ∧
      order.idxOf (numbered 3) < order.idxOf (numbered 4) ∧
      ¬ sumBetween.Arranged [numbered 2, numbered 1, numbered 4, numbered 3] := by
  have horder : sumBetween.order? = some [numbered 2, numbered 1, numbered 3, numbered 4] := by
    decide +kernel
  obtain ⟨harranged, -, hunique⟩ := order?_breaks_ties horder
  have hsum : sumBetween.LastFeed [numbered 2, numbered 1, numbered 3, numbered 4]
      (numbered 3) (numbered 1) 1 := by decide +kernel
  have hproduct : sumBetween.LastFeed [numbered 2, numbered 1, numbered 3, numbered 4]
      (numbered 4) (numbered 1) 2 := by decide +kernel
  refine ⟨_, horder, hsum, hproduct, ?_, ?_⟩
  · exact (harranged.before_iff _ _ _ _ _ _ (by decide) hsum hproduct).mpr
      (Or.inr ⟨rfl, by decide⟩)
  · intro hother
    have heq := hunique _ (by decide +kernel) hother
    exact absurd heq (by decide)

end MaterialGraph.Graph
