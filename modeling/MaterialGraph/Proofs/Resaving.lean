import MaterialGraph.Proofs.JsonNumber
import MaterialGraph.Proofs.Loading

/-!
# Saving a loaded graph in JSON

JSON takes back a document exactly if all its numbers are finite. Loading a document checks the
parameters of the kinds it knows, so they are finite in every graph that has been loaded. Positions
are no part of the check: a graph with a node at an infinite place loads and is saved, but the JSON
text cannot be read again.
-/

namespace MaterialGraph

/-- The numbers of parameters are finite if the parameters are. -/
theorem Params.isFinite_iff (p : Params) :
    p.isFinite = true ↔ ∀ x ∈ p.singles, x.isFinite = true := by
  cases p with
  | constant value => simp [isFinite, singles, value?, PortValue.isFinite]
  | none | colorRamp | texture => simp [isFinite, singles, value?]

namespace Document

/-- A document that is written in JSON can be read again exactly if its numbers are finite. -/
theorem isSome_ofJson?_toJson_iff (d : Document) :
    (ofJson? d.toJson).isSome = true ↔ ∀ x ∈ d.singles, x.isFinite = true := by
  rw [ofJson?_toJson_eq_replaced, isSome_replaced_iff]
  exact forall₂_congr fun x _ => Json.isSome_reread_iff x

/-- The numbers of a document are the coordinates and the numbers of the parameters of its nodes. -/
theorem forall_singles_isFinite_iff (d : Document) :
    (∀ x ∈ d.singles, x.isFinite = true) ↔
      ∀ node ∈ d.nodes, node.position.x.isFinite = true ∧ node.position.y.isFinite = true ∧
        node.params.isFinite = true := by
  simp only [singles, Node.singles, List.forall_mem_flatMap, List.forall_mem_cons,
    Params.isFinite_iff]

/-- In a graph that has been loaded, the parameters of known kinds are finite. Its JSON text can be
read again exactly if the positions and the parameters of all its nodes are finite. -/
theorem isSome_ofJson?_of_load {d : Document} {catalog : Catalog} {policy : ValidationPolicy}
    {g : Graph} (h : (d.load catalog policy).result = .ok g) :
    (∀ node ∈ g.nodes.items, node.kind?.isSome = true → node.params.isFinite = true) ∧
      ((ofJson? g.toDocument.toJson).isSome = true ↔
        ∀ node ∈ g.nodes.items, node.position.x.isFinite = true ∧
          node.position.y.isFinite = true ∧ node.params.isFinite = true) := by
  obtain ⟨hdistinct, hfitting, -, -, rfl⟩ := load_eq_ok_iff.mp h
  have hitems : d.build.nodes.items = d.nodes := (Table.items_ofList_eq_iff d.nodes).mpr hdistinct
  refine ⟨fun node hnode hkind => ?_, ?_⟩
  · obtain ⟨kind, hkind⟩ := Option.isSome_iff_exists.mp hkind
    exact (hfitting node (hitems ▸ hnode) kind hkind).2
  · rw [isSome_ofJson?_toJson_iff, forall_singles_isFinite_iff]
    rfl

/-- A metal of a third and a color that is not used, with all nodes away from the origin. -/
def paleMetal : Document where
  id := ⟨7⟩
  name := "Pale metal"
  nodes :=
    [⟨⟨1⟩, "pbr_output", ⟨.ofNat 400, .ofQuotient 5 2⟩, .none⟩,
      ⟨⟨2⟩, "float_constant", ⟨.ofQuotient 1 10, .ofRatio true ⟨75, 1⟩⟩,
        .constant (.float (.ofQuotient 1 3))⟩,
      ⟨⟨3⟩, "color_constant", ⟨.ofRatio true ⟨1, 1000000⟩, ⟨0x7f7fffff⟩⟩,
        .constant (.color .one .zero (.ofQuotient 4 5) .one)⟩]
  edges := [⟨⟨10⟩, ⟨⟨2⟩, "value"⟩, ⟨⟨1⟩, "metallic"⟩⟩]

/-- The pale metal is loaded, its constants are finite, and its JSON text can be read again. -/
theorem isSome_ofJson?_of_load_paleMetal :
    ∃ g, (paleMetal.load Catalog.standard .strict).result = .ok g ∧
      (∀ node ∈ g.nodes.items, node.kind?.isSome = true → node.params.isFinite = true) ∧
      (ofJson? g.toDocument.toJson).isSome = true := by
  obtain ⟨g, hg⟩ := exists_eq_ok_of_isOk
    (x := (paleMetal.load Catalog.standard .strict).result) (by decide +kernel)
  obtain ⟨hfinite, hread⟩ := isSome_ofJson?_of_load hg
  obtain ⟨-, -, -, -, rfl⟩ := load_eq_ok_iff.mp hg
  exact ⟨_, hg, hfinite, hread.mpr (by decide +kernel)⟩

/-- The text of a document with a node at an infinite place. -/
def infinitePlace : String :=
  "(name: \"Untitled\", nodes: [(id: \"00000000-0000-0000-0000-000000000001\", kind: \"time\", " ++
    "position: (inf, 0.0))])"

/-- Even the policy that refuses all ambiguities accepts the document, and the JSON text of the
graph cannot be read. -/
theorem load_infinitePlace :
    ∃ d g, ofRon? infinitePlace = some d ∧ (d.load Catalog.standard .strict).result = .ok g ∧
      ofJson? g.toDocument.toJson = none := by
  let d : Document := ⟨.nil, Graph.untitled,
    [⟨⟨1⟩, "time", ⟨.infinity false, .zero⟩, .none⟩], []⟩
  have hread : ofRon? infinitePlace = some d := by decide +kernel
  obtain ⟨g, hg⟩ := exists_eq_ok_of_isOk (x := (d.load Catalog.standard .strict).result)
    (by decide +kernel)
  obtain ⟨-, -, -, -, rfl⟩ := load_eq_ok_iff.mp hg
  refine ⟨d, _, hread, hg, ?_⟩
  rw [← Option.not_isSome_iff_eq_none, isSome_ofJson?_toJson_iff, forall_singles_isFinite_iff]
  decide +kernel

end Document

end MaterialGraph
