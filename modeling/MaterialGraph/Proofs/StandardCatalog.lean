import MaterialGraph.Catalog.Standard
import MaterialGraph.Proofs.EmissionFault
import MaterialGraph.Proofs.Table

/-!
# Kinds and the standard catalog

The names of kinds tell them apart, so a name is that of one kind at most. The standard catalog has
a type for every kind, and the type declares all ports that the rule of the kind reads.
-/

namespace MaterialGraph

namespace NodeKind

/-- Every kind is listed. -/
theorem mem_all (kind : NodeKind) : kind ∈ all := by
  cases kind <;> decide

/-- The name of a kind is read as this kind. -/
theorem ofId?_id (kind : NodeKind) : ofId? kind.id = some kind := by
  have hall : ∀ kind ∈ all, ofId? kind.id = some kind := by decide +kernel
  exact hall kind kind.mem_all

/-- A text is read as a kind exactly when it is its name. -/
theorem ofId?_eq_some_iff (text : String) (kind : NodeKind) :
    ofId? text = some kind ↔ text = kind.id := by
  constructor
  · intro h
    have hname : kind.id = text := by simpa using List.find?_some h
    exact hname.symm
  · rintro rfl
    exact ofId?_id kind

end NodeKind

/-- A node is an output exactly when it has the name of this kind. -/
theorem Node.isOutput_iff (node : Node) : node.isOutput = true ↔ node.kind = "pbr_output" := by
  rw [Node.isOutput, beq_iff_eq, Node.kind?]
  exact NodeKind.ofId?_eq_some_iff node.kind .pbrOutput

namespace Catalog

/-- The types of the standard catalog are those it was made from. -/
theorem mem_standardTypes_of_find? {kind : String} {type : NodeType}
    (h : standard.find? kind = some type) : type ∈ standardTypes ∧ type.id = kind := by
  obtain ⟨hmem, hkey⟩ := Table.mem_of_find?_eq_some h
  exact ⟨Table.mem_of_mem_ofList hmem, hkey⟩

/-- The standard catalog has a type for every kind, with all ports that its rule reads. -/
theorem exists_find?_standard (kind : NodeKind) :
    ∃ type, standard.find? kind.id = some type ∧
      missingFault? kind type kind.emission.needs = none := by
  have hall : ∀ kind ∈ NodeKind.all, ((standard.find? kind.id).any fun type =>
      (missingFault? kind type kind.emission.needs).isNone) = true := by decide +kernel
  have hkind := hall kind kind.mem_all
  cases htype : standard.find? kind.id with
  | none => simp [htype] at hkind
  | some type => exact ⟨type, rfl, by simpa [htype] using hkind⟩

end Catalog

end MaterialGraph
