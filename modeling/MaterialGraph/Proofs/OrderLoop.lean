import MaterialGraph.Proofs.Acyclic

/-!
# The loop that orders a graph

Ordering is a loop within a loop: a node is taken from the queue, and then the connections that
leave it are visited one by one, each releasing an edge to its target. The moments of this loop are
numbered, and the loop has ended when no moment follows. At every moment the degree of a node is the
number of connections to it whose source has not been processed, where of the node that is being
processed those count that have not been visited. So a degree is positive whenever it is lowered, no
node joins the queue twice, and no more nodes are taken than there are, in graphs with cycles too.
-/

namespace MaterialGraph.Graph

/-- Where the loop stands: between two nodes, or among the connections that leave the node taken
last. -/
inductive LoopPoint where
  | between
  | among (node : NodeId) (visited pending : List Connection)

/-- A moment of the loop: how far ordering has come, how many nodes have been taken from the queue,
and which have joined it, in order. -/
structure Moment where
  state : OrderState
  point : LoopPoint
  iterations : Nat
  joined : List NodeId

/-- The connections between nodes of the graph that leave a node, in order. -/
def outgoing (g : Graph) (node : NodeId) : List Connection :=
  g.innerConnections.filter fun c => c.source.node == node

/-- The targets of a node are those of the connections that leave it. -/
theorem targets_edges (g : Graph) (node : NodeId) :
    targets g.edges node = (g.outgoing node).map fun c => c.target.node := by
  rw [targets, edges_eq, List.filter_map, List.map_map, outgoing]
  rfl

/-- The connections that leave a node lead to nodes of the graph. -/
theorem target_mem_keys {g : Graph} {node : NodeId} {c : Connection} (h : c ∈ g.outgoing node) :
    c.target.node ∈ g.nodes.keys := by
  have hinner : c ∈ g.innerConnections := List.mem_of_mem_filter h
  have hends := of_decide_eq_true (List.mem_filter.mp hinner).2
  exact hends.2

namespace Moment

/-- The connections of the node that is being processed that have been visited. -/
def visited (m : Moment) : List Connection :=
  match m.point with
  | .between => []
  | .among _ visited _ => visited

/-- The connections of the node that is being processed that are still to be visited. -/
def pending (m : Moment) : List Connection :=
  match m.point with
  | .between => []
  | .among _ _ pending => pending

/-- The nodes that have been taken, without the one that is being processed. -/
def processed (m : Moment) : List NodeId :=
  match m.point with
  | .between => m.state.taken
  | .among node _ _ => m.state.taken.filter (· != node)

/-- The first moment, with the nodes in the queue that nothing feeds. -/
def start (g : Graph) : Moment where
  state := .start g.nodes.keys g.edges
  point := .between
  iterations := 0
  joined := (OrderState.start g.nodes.keys g.edges).queue

/-- Take the first node of the queue. -/
def take (g : Graph) (m : Moment) (node : NodeId) (rest : List NodeId) : Moment where
  state := { m.state with queue := rest, taken := m.state.taken ++ [node] }
  point := .among node [] (g.outgoing node)
  iterations := m.iterations + 1
  joined := m.joined

/-- Visit a connection, which may add nodes at the end of the queue. -/
def visit (m : Moment) (node : NodeId) (visited : List Connection) (c : Connection)
    (pending : List Connection) : Moment where
  state := m.state.release c.target.node
  point := .among node (visited ++ [c]) pending
  iterations := m.iterations
  joined := m.joined ++ (m.state.release c.target.node).queue.drop m.state.queue.length

/-- What comes after a moment. The loop ends between two nodes when the queue is empty. -/
def next (g : Graph) (m : Moment) : Option Moment :=
  match m.point, m.state.queue with
  | .between, [] => none
  | .between, node :: rest => some (m.take g node rest)
  | .among node visited (c :: pending), _ => some (m.visit node visited c pending)
  | .among _ _ [], _ => some { m with point := .between }

end Moment

/-- The moments of the loop by number, as far as it goes. -/
def moment? (g : Graph) : Nat → Option Moment
  | 0 => some (.start g)
  | k + 1 => (g.moment? k).bind (Moment.next g)

namespace Moment

variable {g : Graph} {m : Moment}

/-! ### What every step keeps -/

/-- What holds at every moment. The invariant of ordering counts the edges that are still to be
released, what has joined the queue has been taken or waits, and releasing what is pending completes
the current iteration. -/
structure Sound (g : Graph) (m : Moment) : Prop where
  counted : OrderState.Invariant g.nodes.keys g.edges (m.pending.map fun c => c.target.node) m.state
  joined_eq : m.joined = m.state.taken ++ m.state.queue
  iterations_eq : m.iterations = m.state.taken.length
  run_eq : OrderState.run g.edges m.iterations (.start g.nodes.keys g.edges) =
    (m.pending.map fun c => c.target.node).foldl OrderState.release m.state
  point_eq : ∀ node visited pending, m.point = .among node visited pending →
    g.outgoing node = visited ++ pending ∧ ∃ before, m.state.taken = before ++ [node]

theorem sound_start (g : Graph) : (start g).Sound g where
  counted := OrderState.invariant_start _ _ g.nodes.distinct
  joined_eq := rfl
  iterations_eq := rfl
  run_eq := rfl
  point_eq := by
    intro node visited pending hpoint
    contradiction

/-- When nothing is pending, all edges are accounted for and the iteration is complete. -/
theorem Sound.settled (h : m.Sound g) (hpending : m.pending = []) :
    OrderState.Invariant g.nodes.keys g.edges [] m.state ∧
      OrderState.run g.edges m.iterations (.start g.nodes.keys g.edges) = m.state := by
  have hcounted := h.counted
  have hrun := h.run_eq
  rw [hpending] at hcounted hrun
  exact ⟨hcounted, hrun⟩

/-- Taking a node keeps what holds. -/
theorem sound_take (h : m.Sound g) (hpoint : m.point = .between) {node : NodeId}
    {rest : List NodeId} (hqueue : m.state.queue = node :: rest) :
    (m.take g node rest).Sound g := by
  obtain ⟨hcounted, hrun⟩ := h.settled (by rw [pending, hpoint])
  constructor
  · have htaken := OrderState.invariant_take hqueue hcounted
    rwa [targets_edges] at htaken
  · have hjoined := h.joined_eq
    rw [hqueue, ← List.singleton_append, ← List.append_assoc] at hjoined
    exact hjoined
  · rw [take, h.iterations_eq, List.length_append, List.length_singleton]
  · -- One more iteration is a step from here, which visits all connections of the node.
    have hstep : (OrderState.run g.edges m.iterations (.start g.nodes.keys g.edges)).step g.edges =
        some ((targets g.edges node).foldl OrderState.release (m.take g node rest).state) := by
      rw [hrun, OrderState.step, hqueue]
      rfl
    rw [targets_edges] at hstep
    exact OrderState.run_succ_of_step_run hstep
  · intro n visited pending hamong
    obtain ⟨rfl, rfl, rfl⟩ := LoopPoint.among.inj hamong
    exact ⟨rfl, m.state.taken, rfl⟩

/-- The queue after the release of an edge is the queue before and what has joined it. -/
theorem queue_release (s : OrderState) (node : NodeId) :
    (s.release node).queue = s.queue ++ (s.release node).queue.drop s.queue.length := by
  simp only [OrderState.release]
  split
  · rw [List.drop_left]
  · rw [List.drop_length, List.append_nil]

/-- Visiting a connection keeps what holds. -/
theorem sound_visit (h : m.Sound g) {node : NodeId} {visited pending : List Connection}
    {c : Connection} (hpoint : m.point = .among node visited (c :: pending)) :
    (m.visit node visited c pending).Sound g := by
  have hpending : m.pending = c :: pending := by rw [Moment.pending, hpoint]
  obtain ⟨houtgoing, htaken⟩ := h.point_eq node visited (c :: pending) hpoint
  have hcounted := h.counted
  have hrun := h.run_eq
  rw [hpending, List.map_cons] at hcounted hrun
  constructor
  · have hmem : c ∈ g.outgoing node := by simp [houtgoing]
    exact OrderState.invariant_release (target_mem_keys hmem) hcounted
  · rw [visit, h.joined_eq, List.append_assoc, ← queue_release]
    rfl
  · exact h.iterations_eq
  · exact hrun
  · intro n visited' pending' hamong
    obtain ⟨rfl, rfl, rfl⟩ := LoopPoint.among.inj hamong
    refine ⟨?_, htaken⟩
    rw [houtgoing, List.append_assoc, List.singleton_append]

/-- Going on when all connections have been visited keeps what holds. -/
theorem sound_leave (h : m.Sound g) {node : NodeId} {visited : List Connection}
    (hpoint : m.point = .among node visited []) : Sound g { m with point := .between } := by
  obtain ⟨hcounted, hrun⟩ := h.settled (by rw [pending, hpoint])
  refine ⟨hcounted, h.joined_eq, h.iterations_eq, hrun, ?_⟩
  intro n visited' pending' hamong
  contradiction

/-- Every step keeps what holds. -/
theorem Sound.next (h : m.Sound g) {m' : Moment} (hnext : m.next g = some m') : m'.Sound g := by
  unfold Moment.next at hnext
  split at hnext
  · contradiction
  · next node rest hpoint hqueue =>
    obtain rfl := Option.some.inj hnext
    exact sound_take h hpoint hqueue
  · next node visited c pending hpoint =>
    obtain rfl := Option.some.inj hnext
    exact sound_visit h hpoint
  · next node visited hpoint =>
    obtain rfl := Option.some.inj hnext
    exact sound_leave h hpoint

end Moment

variable {g : Graph} {m : Moment}

/-- What holds at every moment holds throughout the loop. -/
theorem sound_of_moment? {k : Nat} (hm : g.moment? k = some m) : m.Sound g := by
  induction k generalizing m with
  | zero =>
    obtain rfl := Option.some.inj hm
    exact Moment.sound_start g
  | succ k ih =>
    obtain ⟨before, hbefore, hnext⟩ := Option.bind_eq_some_iff.mp hm
    exact (ih hbefore).next hnext

/-! ### What the counters say -/

/-- The edges to a node from others than given ones are the connections that lead there. -/
theorem unreleased_edges (g : Graph) (taken : List NodeId) (n : NodeId) :
    OrderState.unreleased g.edges taken n =
      g.innerConnections.countP fun c => c.target.node = n ∧ c.source.node ∉ taken := by
  rw [OrderState.unreleased, edges_eq, List.countP_map]
  apply List.countP_congr
  intro c _
  simp

/-- The nodes that were taken before the one that is being processed have been processed. -/
theorem Moment.Sound.taken_eq (h : m.Sound g) {node : NodeId} {visited pending : List Connection}
    (hpoint : m.point = .among node visited pending) :
    m.state.taken = m.processed ++ [node] ∧ node ∉ m.processed := by
  obtain ⟨-, before, htaken⟩ := h.point_eq node visited pending hpoint
  have hfresh : node ∉ before := by
    have hnodup := h.counted.listed_once
    rw [htaken, List.append_assoc, List.nodup_append] at hnodup
    exact fun hmem => hnodup.2.2 node hmem node (by simp) rfl
  have hothers : before.filter (· != node) = before := by
    rw [List.filter_eq_self]
    intro other hother
    exact bne_iff_ne.mpr fun heq => hfresh (heq ▸ hother)
  have hprocessed : m.processed = before := by
    simp [processed, hpoint, htaken, hothers]
  rw [hprocessed]
  exact ⟨htaken, hfresh⟩

/-- The degree of a node counts the connections to it whose source has not been processed, less
those that have been visited. -/
theorem Moment.Sound.degree_add (h : m.Sound g) (n : NodeId) :
    m.state.degree n + m.visited.countP (fun c => c.target.node = n) =
      g.innerConnections.countP fun c => c.target.node = n ∧ c.source.node ∉ m.processed := by
  have hdegree := h.counted.degree_eq n
  rw [← unreleased_edges]
  cases hpoint : m.point with
  | between =>
    simp only [pending, visited, processed, hpoint] at hdegree ⊢
    simpa using hdegree
  | among node visited pending =>
    obtain ⟨houtgoing, -⟩ := h.point_eq node visited pending hpoint
    obtain ⟨htaken, hfresh⟩ := h.taken_eq hpoint
    have hcount (cs : List Connection) : (cs.map fun c => c.target.node).count n =
        cs.countP fun c => c.target.node = n := by
      rw [List.count, List.countP_map]
      rfl
    -- Taking the node made its connections pending; some of them have been visited since.
    rw [OrderState.unreleased_append_singleton g.edges m.processed node n hfresh, targets_edges,
      houtgoing, hcount, List.countP_append]
    rw [htaken, hcount, Moment.pending, hpoint] at hdegree
    rw [Moment.visited, hpoint]
    dsimp only at hdegree ⊢
    omega

/-- The degree of the target of a connection that is to be visited is positive. -/
theorem Moment.Sound.degree_pos (h : m.Sound g) {c : Connection} {rest : List Connection}
    (hpending : m.pending = c :: rest) : 0 < m.state.degree c.target.node := by
  have hdegree := h.counted.degree_eq c.target.node
  rw [hpending, List.map_cons, List.count_cons_self] at hdegree
  omega

/-- No node joins the queue twice. -/
theorem Moment.Sound.nodup_joined (h : m.Sound g) : m.joined.Nodup := by
  rw [h.joined_eq]
  exact h.counted.listed_once

/-- There are no more iterations than nodes. -/
theorem Moment.Sound.iterations_le (h : m.Sound g) : m.iterations ≤ g.nodes.size := by
  have hlength := OrderState.length_taken_le h.counted
  have hsize : g.nodes.keys.length = g.nodes.size := List.length_map _
  rw [h.iterations_eq]
  omega

/-! ### The end of the loop -/

/-- From among the connections of a node the loop comes to the next one, when all of them have been
visited. -/
theorem exists_moment?_between {k : Nat} (hm : g.moment? k = some m) {node : NodeId}
    {visited pending : List Connection} (hpoint : m.point = .among node visited pending) :
    ∃ k' m', g.moment? k' = some m' ∧ m'.point = .between ∧
      m'.state = (pending.map fun c => c.target.node).foldl OrderState.release m.state := by
  induction pending generalizing k m visited with
  | nil =>
    refine ⟨k + 1, { m with point := .between }, ?_, rfl, rfl⟩
    rw [moment?, hm, Option.bind_some, Moment.next, hpoint]
  | cons c pending ih =>
    have hnext : g.moment? (k + 1) = some (m.visit node visited c pending) := by
      rw [moment?, hm, Option.bind_some, Moment.next, hpoint]
    exact ih hnext rfl

/-- From between two nodes the loop comes as far as any run. -/
theorem exists_moment?_run (limit : Nat) {k : Nat} (hm : g.moment? k = some m)
    (hpoint : m.point = .between) :
    ∃ k' m', g.moment? k' = some m' ∧ m'.point = .between ∧
      m'.state = OrderState.run g.edges limit m.state := by
  induction limit generalizing k m with
  | zero => exact ⟨k, m, hm, hpoint, rfl⟩
  | succ limit ih =>
    cases hqueue : m.state.queue with
    | nil => exact ⟨k, m, hm, hpoint, (OrderState.run_of_queue_eq_nil hqueue _).symm⟩
    | cons node rest =>
      have hnext : g.moment? (k + 1) = some (m.take g node rest) := by
        rw [moment?, hm, Option.bind_some, Moment.next, hpoint, hqueue]
      obtain ⟨k₁, m₁, hm₁, hpoint₁, hstate₁⟩ := exists_moment?_between hnext rfl
      rw [← targets_edges] at hstate₁
      have hstep : m.state.step g.edges = some m₁.state := by
        rw [OrderState.step, hqueue, hstate₁]
        rfl
      rw [OrderState.run_succ_of_step hstep]
      exact ih hm₁ hpoint₁

/-- No moment comes after the end. -/
theorem moment?_eq_none_of_le {stop k : Nat} (hle : stop ≤ k) (hstop : g.moment? stop = none) :
    g.moment? k = none := by
  induction hle with
  | refl => exact hstop
  | step _ ih => rw [moment?, ih, Option.bind_none]

/-- The loop ends in the state from which the order is read. -/
theorem exists_last_moment (g : Graph) :
    ∃ stop last, g.moment? stop = some last ∧ g.moment? (stop + 1) = none ∧
      last.state = g.ordered := by
  obtain ⟨stop, last, hlast, hpoint, hstate⟩ :=
    exists_moment?_run g.nodes.size (k := 0) (g := g) rfl rfl
  have hqueue : last.state.queue = [] := by
    rw [hstate]
    exact g.invariant_ordered.2
  refine ⟨stop, last, hlast, ?_, hstate⟩
  rw [moment?, hlast, Option.bind_some, Moment.next, hpoint, hqueue]

/-- At every moment of the loop the degree of each node, and the connections to it that the current
iteration has visited, make up the connections to it from nodes that have not been processed. The
degree that a visit lowers is positive, no node has joined the queue twice, and there have been no
more iterations than there are nodes. Completing the iteration gives the state of the run, and the
loop ends with the state from which the order is read, whether there is a cycle or not. -/
theorem order?_loop_safe (g : Graph) (k : Nat) (m : Moment) (hm : g.moment? k = some m) :
    (∀ n, m.state.degree n + m.visited.countP (fun c => c.target.node = n) =
        g.innerConnections.countP fun c => c.target.node = n ∧ c.source.node ∉ m.processed) ∧
      (∀ c rest, m.pending = c :: rest → 0 < m.state.degree c.target.node) ∧
      m.joined.Nodup ∧ m.iterations ≤ g.nodes.size ∧
      OrderState.run g.edges m.iterations (.start g.nodes.keys g.edges) =
        (m.pending.map fun c => c.target.node).foldl OrderState.release m.state ∧
      ∃ stop last, k ≤ stop ∧ g.moment? stop = some last ∧ g.moment? (stop + 1) = none ∧
        last.iterations ≤ g.nodes.size ∧
        g.order? = if last.state.taken.length < g.nodes.size then none
          else some last.state.taken := by
  have hsound := sound_of_moment? hm
  refine ⟨hsound.degree_add, fun c rest => hsound.degree_pos, hsound.nodup_joined,
    hsound.iterations_le, hsound.run_eq, ?_⟩
  obtain ⟨stop, last, hlast, hend, hstate⟩ := g.exists_last_moment
  refine ⟨stop, last, ?_, hlast, hend, (sound_of_moment? hlast).iterations_le, ?_⟩
  · by_contra hlt
    rw [moment?_eq_none_of_le (by omega) hend] at hm
    contradiction
  · rw [hstate]
    rfl

/-- Two connections lead from the time to the sum, one from the sum to the wave, and one from the
wave to itself. -/
def selfFedWave : Graph where
  id := numbered 0
  name := untitled
  nodes := .ofList
    [.ofKind (numbered 1) "time", .ofKind (numbered 2) "add", .ofKind (numbered 3) "sin"]
  connections := .ofList
    [⟨numbered 11, ⟨numbered 1, "time"⟩, ⟨numbered 2, "a"⟩⟩,
      ⟨numbered 12, ⟨numbered 1, "time"⟩, ⟨numbered 2, "b"⟩⟩,
      ⟨numbered 13, ⟨numbered 2, "result"⟩, ⟨numbered 3, "a"⟩⟩,
      ⟨numbered 14, ⟨numbered 3, "result"⟩, ⟨numbered 3, "a"⟩⟩]

/-- Between the visits of the two connections to the sum its degree is one, while both come from a
node that has not been processed. The loop ends without an order, because the wave is never
released. -/
theorem order?_loop_safe_selfFedWave :
    ∃ m, selfFedWave.moment? 2 = some m ∧ m.state.degree (numbered 2) = 1 ∧
      (selfFedWave.innerConnections.countP fun c =>
        c.target.node = numbered 2 ∧ c.source.node ∉ m.processed) = 2 ∧
      m.pending = [⟨numbered 12, ⟨numbered 1, "time"⟩, ⟨numbered 2, "b"⟩⟩] ∧
      0 < m.state.degree (numbered 2) ∧ m.joined.Nodup ∧ m.iterations ≤ 3 ∧
      ∃ stop last, 2 ≤ stop ∧ selfFedWave.moment? stop = some last ∧
        selfFedWave.moment? (stop + 1) = none ∧ last.iterations ≤ 3 ∧
        last.state.taken.length < 3 ∧ selfFedWave.order? = none := by
  have hview : (selfFedWave.moment? 2).map (fun m => (m.state.degree (numbered 2), m.pending,
      m.visited.countP fun c => c.target.node = numbered 2)) =
        some (1, [⟨numbered 12, ⟨numbered 1, "time"⟩, ⟨numbered 2, "b"⟩⟩], 1) := by
    decide +kernel
  have hcyclic : selfFedWave.order? = none := by decide +kernel
  have hsize : selfFedWave.nodes.size = 3 := by decide +kernel
  obtain ⟨m, hm, hfields⟩ := Option.map_eq_some_iff.mp hview
  simp only [Prod.mk.injEq] at hfields
  obtain ⟨hdegree, hpending, hvisited⟩ := hfields
  obtain ⟨hcount, hpositive, hnodup, hiterations, -, stop, last, hstop, hlast, hend, hle, horder⟩ :=
    order?_loop_safe selfFedWave 2 m hm
  rw [hsize] at hiterations hle horder
  refine ⟨m, hm, hdegree, ?_, hpending, hpositive _ _ hpending, hnodup, hiterations, stop, last,
    hstop, hlast, hend, hle, ?_, hcyclic⟩
  · rw [← hcount, hdegree, hvisited]
  · by_contra hlength
    rw [hcyclic, if_neg hlength] at horder
    contradiction

end MaterialGraph.Graph
