import MaterialGraph.Catalog.Standard
import MaterialGraph.Proofs.Outcome

/-!
# Shadowed connections

Of several connections to one input the first counts, and the others are shadowed: no input stands
for what they bring. They are not without effect, though, because ordering the nodes counts every
connection between them. A graph has a shader exactly when it has one without its shadowed
connections, and they close no cycle.
-/

namespace MaterialGraph.Graph

/-- Whether a connection is the first to its input. -/
def leads (g : Graph) (c : Connection) : Bool :=
  g.connectionTo? c.target == some c

/-- The graph without its shadowed connections. -/
def unshadowed (g : Graph) : Graph :=
  { g with connections := g.connections.filter g.leads }

/-- The first connection to an input leads. -/
theorem leads_of_connectionTo? {g : Graph} {e : Endpoint} {c : Connection}
    (h : g.connectionTo? e = some c) : g.leads c = true := by
  have htarget : c.target = e := by simpa using List.find?_some h
  rw [leads, htarget, h, beq_self_eq_true]

/-- Every input keeps its first connection. -/
theorem connectionTo?_unshadowed (g : Graph) (e : Endpoint) :
    g.unshadowed.connectionTo? e = g.connectionTo? e := by
  change (g.connections.items.filter g.leads).find? (·.target == e) = _
  rw [List.find?_filter]
  cases hfirst : g.connectionTo? e with
  | none =>
    rw [List.find?_eq_none]
    intro c hc hboth
    exact List.find?_eq_none.mp hfirst c hc (of_decide_eq_true hboth).2
  | some c =>
    obtain ⟨hmatch, before, after, hsplit, hbefore⟩ := List.find?_eq_some_iff_append.mp hfirst
    rw [List.find?_eq_some_iff_append]
    refine ⟨?_, before, after, hsplit, ?_⟩
    · exact decide_eq_true ⟨leads_of_connectionTo? hfirst, hmatch⟩
    · intro b hb
      have hother : (b.target == e) = false := by simpa using hbefore b hb
      simp [hother]

/-- A cycle without shadowed connections is a cycle. -/
theorem cyclic_of_unshadowed {g : Graph} (h : g.unshadowed.Cyclic) : g.Cyclic := by
  obtain ⟨a, hcycle⟩ := h
  refine ⟨a, Relation.TransGen.mono ?_ a a hcycle⟩
  rintro b c ⟨hb, hc, connection, hmem, hends⟩
  exact ⟨hb, hc, connection, (List.mem_filter.mp hmem).1, hends⟩

/-- Shadowed connections change what no input stands for. But a graph has a shader exactly when it
has one without them and they close no cycle; if they close one, this is why it has none. -/
theorem compile_unshadowed (g : Graph) (catalog : Catalog) :
    (∀ e, g.unshadowed.connectionTo? e = g.connectionTo? e) ∧
      ((∃ text, g.compile catalog = .ok text) ↔
        (∃ text, g.unshadowed.compile catalog = .ok text) ∧ ¬ g.Cyclic) ∧
      ∀ text, g.unshadowed.compile catalog = .ok text → g.Cyclic →
        g.compile catalog = .error .cyclicDependency := by
  refine ⟨g.connectionTo?_unshadowed, ?_, ?_⟩
  · rw [exists_compile_eq_ok_iff, exists_compile_eq_ok_iff]
    constructor
    · rintro ⟨hacyclic, hnodes⟩
      exact ⟨⟨fun hcyclic => hacyclic (cyclic_of_unshadowed hcyclic), hnodes⟩, hacyclic⟩
    · rintro ⟨⟨-, hnodes⟩, hacyclic⟩
      exact ⟨hacyclic, hnodes⟩
  · intro text htext hcyclic
    obtain ⟨-, output, houtput, -⟩ := (exists_compile_eq_ok_iff _ _).mp ⟨text, htext⟩
    have hsame : g.outputNode? = some output := houtput
    exact (compile_eq_cyclicDependency_iff catalog hsame).mpr hcyclic

/-- The cosine of the sine of the time, which is also connected back to the sine, but only after the
time. -/
def waveFedBack : Graph where
  id := numbered 0
  name := untitled
  nodes := .ofList
    [.ofKind (numbered 1) "time", .ofKind (numbered 2) "sin", .ofKind (numbered 3) "cos",
      .ofKind (numbered 4) "pbr_output"]
  connections := .ofList
    [⟨numbered 10, ⟨numbered 1, "time"⟩, ⟨numbered 2, "angle"⟩⟩,
      ⟨numbered 11, ⟨numbered 2, "result"⟩, ⟨numbered 3, "angle"⟩⟩,
      ⟨numbered 12, ⟨numbered 3, "result"⟩, ⟨numbered 4, "metallic"⟩⟩,
      ⟨numbered 13, ⟨numbered 3, "result"⟩, ⟨numbered 2, "angle"⟩⟩]

/-- The connection back to the sine counts for nothing but the cycle. -/
theorem compile_unshadowed_waveFedBack :
    waveFedBack.connectionTo? ⟨numbered 2, "angle"⟩ =
        some ⟨numbered 10, ⟨numbered 1, "time"⟩, ⟨numbered 2, "angle"⟩⟩ ∧
      waveFedBack.Cyclic ∧ ∃ text, waveFedBack.unshadowed.compile Catalog.standard = .ok text ∧
        waveFedBack.compile Catalog.standard = .error .cyclicDependency := by
  have hcyclic : waveFedBack.Cyclic := by
    have hforth : waveFedBack.Feeds (numbered 2) (numbered 3) := by
      rw [← mem_edges_iff]
      decide +kernel
    have hback : waveFedBack.Feeds (numbered 3) (numbered 2) := by
      rw [← mem_edges_iff]
      decide +kernel
    exact ⟨numbered 2, .tail (.single hforth) hback⟩
  obtain ⟨text, htext⟩ := exists_eq_ok_of_isOk
    (x := waveFedBack.unshadowed.compile Catalog.standard) (by decide +kernel)
  exact ⟨by decide +kernel, hcyclic, text, htext,
    (compile_unshadowed waveFedBack Catalog.standard).2.2 text htext hcyclic⟩

/-- A shadowed connection can take the shader away. -/
theorem compile_waveFedBack :
    (∃ text, waveFedBack.unshadowed.compile Catalog.standard = .ok text) ∧
      ¬ ∃ text, waveFedBack.compile Catalog.standard = .ok text := by
  constructor
  · exact exists_eq_ok_of_isOk (by decide +kernel)
  · rintro ⟨text, htext⟩
    have hfails : (waveFedBack.compile Catalog.standard).isOk = false := by decide +kernel
    rw [htext] at hfails
    cases hfails

end MaterialGraph.Graph
