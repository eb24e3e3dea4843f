import Mathlib.Data.Prod.Basic
import Mathlib.Logic.Equiv.Defs
import MaterialGraph.Proofs.Generation
import MaterialGraph.Proofs.SoundEmission

/-!
# How variables are numbered

The kind of a node and its type say how many variables the node declares, whatever its inputs stand
for. A sequence of nodes therefore numbers the variables of its members one after the other. In
another order the same nodes have the same variables under other numbers, and a permutation of the
numbers leads from one order to the other.
-/

namespace MaterialGraph

/-! ### The number of variables of a node -/

/-- The number of variables that an expansion declares. -/
def Expansion.variableCount : Expansion → Nat
  | fresnel => 3
  | noise => 9
  | voronoi => 3
  | hsvToRgb => 3
  | rgbToHsv => 7
  | colorRamp => 2

/-- The number of variables that a node of a family and a type declares. -/
def Emission.variableCount (type : NodeType) : Emission → Nat
  | binary _ => 1
  | call _ => 1
  | decompose => type.outputs.length
  | compose => 1
  | expand expansion => expansion.variableCount
  | output | source _ | constant | placeholder => 0

/-- The number of variables that a node declares. -/
def Node.variableCount (catalog : Catalog) (node : Node) : Nat :=
  match node.kind?, catalog.find? node.kind with
  | some kind, some type => kind.emission.variableCount type
  | _, _ => 0

/-- An expansion declares as many variables for all inputs. -/
theorem Expansion.declared_block (node : Node) (inputs : Inputs) (start : Nat)
    (expansion : Expansion) :
    Yields (expansion.block node inputs start) fun block =>
      Statement.declared block.statements = expansion.variableCount := by
  unfold Expansion.block
  cases expansion with
  | fresnel | noise | voronoi =>
    exact .bind (.any _) fun _ _ => .bind (.any _) fun _ _ => .ok rfl
  | hsvToRgb =>
    exact .bind (.any _) fun _ _ => .bind (.any _) fun _ _ => .bind (.any _) fun _ _ => .ok rfl
  | rgbToHsv => exact .bind (.any _) fun _ _ => .ok rfl
  | colorRamp =>
    dsimp only
    split
    · exact .bind (.any _) fun _ _ => .bind (.any _) fun _ _ => .bind (.any _) fun _ _ => .ok rfl
    · exact .error _

/-- The rule of a kind declares as many variables for all inputs. -/
theorem Node.declared_block (node : Node) (kind : NodeKind) (type : NodeType) (inputs : Inputs)
    (start : Nat) :
    Yields (node.block kind type inputs start) fun block =>
      Statement.declared block.statements = kind.emission.variableCount type := by
  unfold Node.block
  cases kind.emission with
  | output | placeholder => exact .ok rfl
  | source expression => exact .bind (.any _) fun _ _ => .ok rfl
  | constant => exact .bind (.any _) fun _ _ => .bind (.any _) fun _ _ => .ok rfl
  | binary op =>
    exact .bind (.any _) fun _ _ => .bind (.any _) fun _ _ => .bind (.any _) fun _ _ => .ok rfl
  | call function => exact .bind (.any _) fun _ _ => .ok rfl
  | decompose => exact .bind (.any _) fun _ _ => .ok (Block.declared_map_define _ _)
  | compose => exact .bind (.any _) fun _ _ => .ok rfl
  | expand expansion =>
    exact .bind (expansion.declared_block node inputs start) fun _ hcount => .ok hcount

/-- A node declares as many variables for all inputs. -/
theorem Node.declared_contribution (node : Node) (catalog : Catalog) (inputs : NodeType → Inputs)
    (start : Nat) :
    Yields (node.contribution catalog inputs start) fun block =>
      Statement.declared block.statements = node.variableCount catalog := by
  unfold Node.contribution Node.variableCount
  cases node.kind? with
  | none => exact .ok rfl
  | some kind =>
    cases catalog.find? node.kind with
    | none => exact .ok rfl
    | some type => exact node.declared_block kind type (inputs type) start

/-! ### The variables of a sequence of nodes -/

/-- The variables of nodes in the order of their numbers, each as a node and the place among the
variables of that node. -/
def slots (catalog : Catalog) (nodes : List Node) : List (NodeId × Nat) :=
  nodes.flatMap fun node => (List.range (node.variableCount catalog)).map fun i => (node.id, i)

section Slots

variable {catalog : Catalog}

/-- The same nodes in another order have the same variables. -/
theorem slots_perm {nodes others : List Node} (h : nodes.Perm others) :
    (slots catalog nodes).Perm (slots catalog others) :=
  h.flatMap_right _

/-- A variable has one number only. -/
theorem nodup_slots {nodes : List Node} (h : (nodes.map Node.id).Nodup) :
    (slots catalog nodes).Nodup := by
  rw [slots, List.nodup_flatMap]
  refine ⟨fun node _ => List.nodup_range.map (Prod.mk_right_injective node.id), ?_⟩
  refine (List.pairwise_map.mp h).imp fun hne => ?_
  intro slot ha hb
  obtain ⟨i, -, rfl⟩ := List.mem_map.mp ha
  obtain ⟨j, -, heq⟩ := List.mem_map.mp hb
  exact hne (congrArg Prod.fst heq).symm

/-- The variables of a node come after those of the nodes before it. -/
theorem getElem?_slots (before after : List Node) (node : Node) {i : Nat}
    (hi : i < node.variableCount catalog) :
    (slots catalog (before ++ node :: after))[(slots catalog before).length + i]? =
      some (node.id, i) := by
  rw [slots, List.flatMap_append, ← slots, List.getElem?_append_right (Nat.le_add_right _ _),
    Nat.add_sub_cancel_left, List.flatMap_cons, List.getElem?_append_left (by simpa using hi)]
  simp [hi]

/-- Adding nodes declares their variables. -/
theorem Generation.declared_addAll {g : Graph} {generation final : Generation} {nodes : List Node}
    (h : generation.addAll g catalog nodes = .ok final) :
    Statement.declared final.statements =
      Statement.declared generation.statements + (slots catalog nodes).length := by
  induction nodes generalizing generation with
  | nil =>
    obtain rfl := Except.ok.inj h
    rfl
  | cons node rest ih =>
    obtain ⟨next, hadd, hrest⟩ := addAll_cons_eq_ok_iff.mp h
    obtain ⟨block, hblock, rfl⟩ := add_eq_ok_iff.mp hadd
    have hcount := node.declared_contribution catalog _ _ block hblock
    rw [ih hrest, Statement.declared_append, hcount]
    simp [slots, Nat.add_assoc]

end Slots

/-! ### Renumbering -/

section Renumber

variable {α : Type} [DecidableEq α] {l l' : List α}

/-- The place in another list of what stands at a place of a list. -/
def renumber (l l' : List α) (place : Nat) : Nat :=
  l[place]?.elim place l'.idxOf

/-- An element is found at its only place in the other list. -/
theorem renumber_eq (hnodup : l'.Nodup) {x : α} {place target : Nat} (h : l[place]? = some x)
    (h' : l'[target]? = some x) : renumber l l' place = target := by
  obtain ⟨hlt, rfl⟩ := List.getElem?_eq_some_iff.mp h'
  rw [renumber, h, Option.elim_some, hnodup.idxOf_getElem]

/-- Places behind the end stay as they are. -/
theorem renumber_of_length_le {place : Nat} (h : l.length ≤ place) :
    renumber l l' place = place := by
  rw [renumber, List.getElem?_eq_none h, Option.elim_none]

/-- Going to another order of a list and back leads to the same place. -/
theorem renumber_renumber (hperm : l.Perm l') (hnodup : l.Nodup) (place : Nat) :
    renumber l' l (renumber l l' place) = place := by
  rcases Nat.lt_or_ge place l.length with hlt | hge
  · have hplace : l[place]? = some l[place] := List.getElem?_eq_getElem hlt
    obtain ⟨target, htarget⟩ := List.getElem?_of_mem (hperm.mem_iff.mp (List.getElem_mem hlt))
    rw [renumber_eq (hperm.nodup_iff.mp hnodup) hplace htarget,
      renumber_eq hnodup htarget hplace]
  · rw [renumber_of_length_le hge, renumber_of_length_le (hperm.length_eq ▸ hge)]

/-- A place leads to one of the other list exactly when it is one of the first. -/
theorem renumber_lt_iff (hperm : l.Perm l') (place : Nat) :
    renumber l l' place < l'.length ↔ place < l.length := by
  rcases Nat.lt_or_ge place l.length with hlt | hge
  · refine iff_of_true ?_ hlt
    rw [renumber, List.getElem?_eq_getElem hlt, Option.elim_some]
    exact List.idxOf_lt_length_of_mem (hperm.mem_iff.mp (List.getElem_mem hlt))
  · rw [renumber_of_length_le hge, hperm.length_eq]

end Renumber

/-- A renaming that leads from the variables of each node to those of the same node in another
order. -/
def CarriesVariables (catalog : Catalog) (σ : Nat → Nat) (nodes others : List Node) : Prop :=
  ∀ before node after before' after', nodes = before ++ node :: after →
    others = before' ++ node :: after' → ∀ i < node.variableCount catalog,
      σ ((slots catalog before).length + i) = (slots catalog before').length + i

section Renaming

variable (catalog : Catalog) {nodes others : List Node} (hperm : nodes.Perm others)
  (hdistinct : (nodes.map Node.id).Nodup)

/-- The renaming of variables that leads from nodes in an order to the same nodes in another. -/
def variableRenaming : Equiv.Perm Nat where
  toFun := renumber (slots catalog nodes) (slots catalog others)
  invFun := renumber (slots catalog others) (slots catalog nodes)
  left_inv := renumber_renumber (slots_perm hperm) (nodup_slots hdistinct)
  right_inv := renumber_renumber (slots_perm hperm.symm)
    (nodup_slots ((hperm.map Node.id).nodup_iff.mp hdistinct))

/-- Variables are renamed to variables. -/
theorem variableRenaming_lt_iff (index : Nat) :
    variableRenaming catalog hperm hdistinct index < (slots catalog others).length ↔
      index < (slots catalog nodes).length :=
  renumber_lt_iff (slots_perm hperm) index

/-- The variables of each node keep their places among those of the node. -/
theorem carriesVariables_variableRenaming :
    CarriesVariables catalog (variableRenaming catalog hperm hdistinct) nodes others := by
  intro before node after before' after' hsplit hsplit' i hi
  have hothers := (hperm.map Node.id).nodup_iff.mp hdistinct
  refine renumber_eq (nodup_slots hothers) (x := (node.id, i)) ?_ ?_
  · rw [hsplit]
    exact getElem?_slots before after node hi
  · rw [hsplit']
    exact getElem?_slots before' after' node hi

end Renaming

end MaterialGraph
