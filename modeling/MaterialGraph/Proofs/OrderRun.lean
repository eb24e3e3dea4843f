import Mathlib.Data.List.Count
import Mathlib.Data.List.Nodup
import Mathlib.Data.List.Perm.Subperm
import MaterialGraph.Graph.Order

/-!
# What holds while nodes are ordered

The degree of a node counts the edges to it whose source has not been taken, and in the midst of a
step also the targets that are still to be released. A node has been listed, taken or waiting,
exactly when its degree is zero, so that none is listed twice and none is listed before the nodes
that feed it. A run of as many steps as there are nodes leaves no node waiting.
-/

namespace MaterialGraph.Graph.OrderState

/-- The number of edges to a node whose source has not been taken. -/
def unreleased (edges : List (NodeId × NodeId)) (taken : List NodeId) (node : NodeId) : Nat :=
  edges.countP fun e => e.2 == node && !taken.contains e.1

/-- What holds of a state in which the edges to some pending targets are still to be released. -/
structure Invariant (nodes : List NodeId) (edges : List (NodeId × NodeId)) (pending : List NodeId)
    (s : OrderState) : Prop where
  degree_eq : ∀ node, s.degree node = unreleased edges s.taken node + pending.count node
  listed_once : (s.taken ++ s.queue).Nodup
  listed_iff : ∀ node, node ∈ s.taken ++ s.queue ↔ node ∈ nodes ∧ s.degree node = 0
  sources_first : ∀ before node after, s.taken = before ++ node :: after →
    ∀ e ∈ edges, e.2 = node → e.1 ∈ before

/-- Every source of a node without unreleased edges has been taken. -/
theorem source_mem_of_unreleased_eq_zero {edges : List (NodeId × NodeId)} {taken : List NodeId}
    {node : NodeId} (h : unreleased edges taken node = 0) {e : NodeId × NodeId} (he : e ∈ edges)
    (hnode : e.2 = node) : e.1 ∈ taken := by
  have hcount := List.countP_eq_zero.mp h e he
  simpa [hnode] using hcount

/-- A node with an unreleased edge has a source that has not been taken. -/
theorem exists_source_of_unreleased_pos {edges : List (NodeId × NodeId)} {taken : List NodeId}
    {node : NodeId} (h : 0 < unreleased edges taken node) :
    ∃ source, (source, node) ∈ edges ∧ source ∉ taken := by
  obtain ⟨⟨source, target⟩, he, htest⟩ := List.countP_pos_iff.mp h
  simp only [Bool.and_eq_true, beq_iff_eq, Bool.not_eq_true', List.contains_eq_mem,
    decide_eq_false_iff_not] at htest
  obtain ⟨rfl, hsource⟩ := htest
  exact ⟨source, he, hsource⟩

/-- Taking a node turns the edges that leave it from unreleased into pending ones. -/
theorem unreleased_append_singleton (edges : List (NodeId × NodeId)) (taken : List NodeId)
    (node target : NodeId) (hnode : node ∉ taken) :
    unreleased edges taken target =
      unreleased edges (taken ++ [node]) target + (targets edges node).count target := by
  induction edges with
  | nil => rfl
  | cons e rest ih =>
    simp only [unreleased, targets, List.countP_cons, List.filter_cons] at ih ⊢
    rw [ih]
    by_cases hsource : e.1 = node
    · by_cases htarget : e.2 = target
      · simp [hsource, htarget, hnode]
        omega
      · simp [hsource, htarget, hnode]
    · simp [hsource]
      omega

/-- At the start every edge is unreleased, and exactly the nodes without edges to them wait. -/
theorem invariant_start (nodes : List NodeId) (edges : List (NodeId × NodeId))
    (hnodes : nodes.Nodup) : Invariant nodes edges [] (start nodes edges) where
  degree_eq node := by simp [start, inDegree, unreleased]
  listed_once := by simpa [start] using hnodes.filter _
  listed_iff node := by simp [start]
  sources_first before node after h := by simp [start] at h

/-- Releasing an edge keeps what holds, with one pending target less. -/
theorem invariant_release {nodes : List NodeId} {edges : List (NodeId × NodeId)}
    {pending : List NodeId} {s : OrderState} {node : NodeId} (hnode : node ∈ nodes)
    (h : Invariant nodes edges (node :: pending) s) :
    Invariant nodes edges pending (s.release node) := by
  have hdegree := h.degree_eq node
  rw [List.count_cons_self] at hdegree
  have hunlisted : node ∉ s.taken ++ s.queue := by
    intro hmem
    have := ((h.listed_iff node).mp hmem).2
    omega
  refine ⟨?_, ?_, ?_, h.sources_first⟩
  · intro n
    by_cases hn : n = node
    · subst hn
      simp only [release, if_true]
      omega
    · simpa only [release, if_neg hn, List.count_cons_of_ne (Ne.symm hn)] using h.degree_eq n
  · simp only [release]
    split
    · rw [← List.append_assoc]
      exact List.Nodup.append h.listed_once (List.nodup_singleton node) (by simpa using hunlisted)
    · exact h.listed_once
  · intro n
    have hn := h.listed_iff n
    by_cases heq : n = node
    · subst heq
      simp only [release, if_true]
      split
      · next hzero => exact ⟨fun _ => ⟨hnode, hzero⟩, fun _ => by simp⟩
      · next hpos => exact ⟨fun hmem => absurd hmem hunlisted, fun hboth => absurd hboth.2 hpos⟩
    · simp only [release, if_neg heq]
      split
      · rw [← hn]
        simp [heq]
      · exact hn

/-- Releasing edges one after the other leaves the taken nodes as they are. -/
theorem taken_foldl_release (pending : List NodeId) (s : OrderState) :
    (pending.foldl release s).taken = s.taken := by
  induction pending generalizing s with
  | nil => rfl
  | cons node rest ih => exact ih (s.release node)

/-- Releasing all pending targets leaves none pending. -/
theorem invariant_foldl_release {nodes : List NodeId} {edges : List (NodeId × NodeId)}
    {pending : List NodeId} {s : OrderState} (hpending : ∀ node ∈ pending, node ∈ nodes)
    (h : Invariant nodes edges pending s) : Invariant nodes edges [] (pending.foldl release s) := by
  induction pending generalizing s with
  | nil => exact h
  | cons node rest ih =>
    exact ih (fun n hn => hpending n (List.mem_cons_of_mem _ hn))
      (invariant_release (hpending node List.mem_cons_self) h)

/-- Taking the first waiting node keeps what holds, with its targets pending. -/
theorem invariant_take {nodes : List NodeId} {edges : List (NodeId × NodeId)} {s : OrderState}
    {node : NodeId} {rest : List NodeId} (hqueue : s.queue = node :: rest)
    (h : Invariant nodes edges [] s) :
    Invariant nodes edges (targets edges node)
      { s with queue := rest, taken := s.taken ++ [node] } := by
  have hlisted : s.taken ++ s.queue = s.taken ++ [node] ++ rest := by simp [hqueue]
  have hmem : node ∈ s.taken ++ s.queue := by simp [hqueue]
  have huntaken : node ∉ s.taken := by
    have hnodup := h.listed_once
    rw [hqueue, List.nodup_append] at hnodup
    exact fun hin => hnodup.2.2 node hin node List.mem_cons_self rfl
  have hreleased : unreleased edges s.taken node = 0 := by
    have hzero := ((h.listed_iff node).mp hmem).2
    rw [h.degree_eq node] at hzero
    omega
  refine ⟨?_, hlisted ▸ h.listed_once, ?_, ?_⟩
  · intro n
    rw [h.degree_eq n, List.count_nil, Nat.add_zero]
    exact unreleased_append_singleton edges s.taken node n huntaken
  · intro n
    rw [← hlisted]
    exact h.listed_iff n
  · intro before n after hsplit e he hn
    -- The new node stands last, so a split of the taken nodes is at it or was there before.
    rcases List.eq_nil_or_concat after with rfl | ⟨middle, last, rfl⟩
    · obtain ⟨rfl, hlast⟩ := List.append_inj' hsplit rfl
      obtain rfl : node = n := by simpa using hlast
      exact source_mem_of_unreleased_eq_zero hreleased he hn
    · rw [List.concat_eq_append, ← List.cons_append, ← List.append_assoc] at hsplit
      exact h.sources_first before n middle (List.append_inj' hsplit rfl).1 e he hn

/-- A step takes the first waiting node and keeps what holds. -/
theorem invariant_step {nodes : List NodeId} {edges : List (NodeId × NodeId)} {s next : OrderState}
    (hedges : ∀ e ∈ edges, e.2 ∈ nodes) (hstep : s.step edges = some next)
    (h : Invariant nodes edges [] s) :
    Invariant nodes edges [] next ∧ next.taken.length = s.taken.length + 1 := by
  unfold step at hstep
  split at hstep
  · contradiction
  · next node rest hqueue =>
    obtain rfl := Option.some.inj hstep
    refine ⟨invariant_foldl_release ?_ (invariant_take hqueue h), ?_⟩
    · intro target htarget
      obtain ⟨e, he, rfl⟩ := List.mem_map.mp htarget
      exact hedges e (List.mem_of_mem_filter he)
    · rw [taken_foldl_release, List.length_append, List.length_singleton]

/-- Ordering stops exactly when no node waits. -/
theorem step_eq_none_iff {edges : List (NodeId × NodeId)} {s : OrderState} :
    s.step edges = none ↔ s.queue = [] := by
  unfold step
  split
  · next hqueue => simp [hqueue]
  · next hqueue => simp [hqueue]

/-- No more nodes are taken than there are. -/
theorem length_taken_le {nodes : List NodeId} {edges : List (NodeId × NodeId)}
    {pending : List NodeId} {s : OrderState} (h : Invariant nodes edges pending s) :
    s.taken.length + s.queue.length ≤ nodes.length := by
  have hsub : s.taken ++ s.queue ⊆ nodes := fun n hn => ((h.listed_iff n).mp hn).1
  simpa using (h.listed_once.subperm hsub).length_le

/-- A run keeps what holds, and leaves no node waiting once its limit covers the nodes left. -/
theorem invariant_run {nodes : List NodeId} {edges : List (NodeId × NodeId)} (limit : Nat)
    {s : OrderState} (hedges : ∀ e ∈ edges, e.2 ∈ nodes)
    (hlimit : nodes.length ≤ s.taken.length + limit) (h : Invariant nodes edges [] s) :
    Invariant nodes edges [] (run edges limit s) ∧ (run edges limit s).queue = [] := by
  induction limit generalizing s with
  | zero =>
    refine ⟨h, List.eq_nil_of_length_eq_zero ?_⟩
    have hlength := length_taken_le h
    show s.queue.length = 0
    omega
  | succ limit ih =>
    unfold run
    split
    · next hstop => exact ⟨h, step_eq_none_iff.mp hstop⟩
    · next next hstep =>
      obtain ⟨hnext, hlength⟩ := invariant_step hedges hstep h
      exact ih (by omega) hnext

/-- A run from a state in which no node waits stays there. -/
theorem run_of_queue_eq_nil {edges : List (NodeId × NodeId)} {s : OrderState} (h : s.queue = [])
    (limit : Nat) : run edges limit s = s := by
  cases limit with
  | zero => rfl
  | succ limit => rw [run, step_eq_none_iff.mpr h]

/-- A run goes on from the state after its first step. -/
theorem run_succ_of_step {edges : List (NodeId × NodeId)} {s next : OrderState}
    (h : s.step edges = some next) (limit : Nat) :
    run edges (limit + 1) s = run edges limit next := by
  rw [run, h]

/-- A run that has left no node waiting does not change with a higher limit. -/
theorem run_of_le {edges : List (NodeId × NodeId)} {s : OrderState} {limit more : Nat}
    (hle : limit ≤ more) (h : (run edges limit s).queue = []) :
    run edges more s = run edges limit s := by
  induction limit generalizing s more with
  | zero => exact run_of_queue_eq_nil h more
  | succ limit ih =>
    obtain ⟨more, rfl⟩ : ∃ m, more = m + 1 := ⟨more - 1, by omega⟩
    cases hstep : s.step edges with
    | none =>
      have hqueue := step_eq_none_iff.mp hstep
      rw [run_of_queue_eq_nil hqueue, run_of_queue_eq_nil hqueue]
    | some next =>
      rw [run_succ_of_step hstep] at h ⊢
      rw [run_succ_of_step hstep]
      exact ih (by omega) h

/-- A run goes on with a step from where it has come. -/
theorem run_succ_of_step_run {edges : List (NodeId × NodeId)} {limit : Nat} {s next : OrderState}
    (h : (run edges limit s).step edges = some next) : run edges (limit + 1) s = next := by
  induction limit generalizing s with
  | zero => exact run_succ_of_step h 0
  | succ limit ih =>
    cases hstep : s.step edges with
    | none =>
      rw [run_of_queue_eq_nil (step_eq_none_iff.mp hstep), hstep] at h
      contradiction
    | some t =>
      rw [run_succ_of_step hstep] at h ⊢
      exact ih h

end MaterialGraph.Graph.OrderState
