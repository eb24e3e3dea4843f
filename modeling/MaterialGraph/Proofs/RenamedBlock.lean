import MaterialGraph.Proofs.Generation
import MaterialGraph.Proofs.Renaming
import MaterialGraph.Proofs.SoundBlock

/-!
# Blocks with other variables

A rule puts the phrases of its inputs and the numbers of its own variables into a block, and looks
at neither. So if the variables in its inputs are renamed, and its own are renamed to consecutive
ones, then it gives the renamed block from the first of these.
-/

namespace MaterialGraph

/-! ### Phrases and statements -/

section Parts

variable (σ : Nat → Nat)

namespace Phrase

@[simp]
theorem rename_text (s : String) : rename σ [.text s] = [.text s] :=
  rfl

@[simp]
theorem rename_ofVariable (index : Nat) : (ofVariable index).rename σ = ofVariable (σ index) :=
  rfl

@[simp]
theorem rename_join (parts : List Phrase) : (join parts).rename σ = join (parts.map (rename σ)) :=
  List.map_flatten

/-- Phrases with a separator between them are renamed one by one. -/
theorem rename_separate (separator : String) (parts : List Phrase) :
    (separate separator parts).rename σ = separate separator (parts.map (rename σ)) := by
  fun_induction separate separator parts with
  | case1 => rfl
  | case2 part => rfl
  | case3 part rest hrest ih =>
    obtain ⟨next, others, rfl⟩ := List.exists_cons_of_ne_nil hrest
    rw [rename, List.map_append, List.map_cons]
    exact congrArg (fun tail => part.rename σ ++ .text separator :: tail) ih

end Phrase

namespace Statement

@[simp]
theorem rename_declare (storage : Storage) (type : Option String) (value : Phrase) :
    (declare storage type value).rename σ = declare storage type (value.rename σ) :=
  rfl

@[simp]
theorem rename_line (text : Phrase) : (line text).rename σ = line (text.rename σ) :=
  rfl

@[simp]
theorem rename_define (type : PortType) (value : Phrase) :
    (Block.define type value).rename σ = Block.define type (value.rename σ) :=
  rfl

end Statement

end Parts

/-- What stands under a name after each entry has been changed. -/
theorem lookup_map_snd {α β : Type} (change : α → β) (entries : List (PortId × α))
    (port : PortId) :
    (entries.map fun (name, value) => (name, change value)).lookup port =
      (entries.lookup port).map change := by
  induction entries with
  | nil => rfl
  | cons entry rest ih =>
    rw [List.map_cons, List.lookup_cons, List.lookup_cons, ih]
    cases port == entry.1 <;> rfl

/-- A block with other variables. -/
def Block.rename (σ : Nat → Nat) (block : Block) : Block :=
  ⟨block.statements.map (Statement.rename σ),
    block.bindings.map fun (port, phrase) => (port, phrase.rename σ)⟩

/-! ### Inputs -/

/-- What an input stands for, with other variables. -/
def Resolved.rename (σ : Nat → Nat) (resolved : Resolved) : Resolved :=
  ⟨resolved.phrase.rename σ, resolved.connected⟩

namespace Inputs

/-- Inputs that stand for phrases with other variables. -/
def rename (σ : Nat → Nat) (inputs : Inputs) : Inputs :=
  inputs.map fun (port, resolved) => (port, resolved.rename σ)

variable (σ : Nat → Nat) (inputs : Inputs) (kind : NodeKind) (port : PortId)

/-- An input that a rule reads is renamed with the others. -/
theorem get_rename :
    (inputs.rename σ).get kind port = (inputs.get kind port).map (Resolved.rename σ) := by
  rw [get, rename, lookup_map_snd, get]
  cases inputs.lookup port <;> rfl

/-- What a rule takes from an input is renamed, if it does not look at the phrase. -/
theorem map_get_rename {take : Resolved → Phrase}
    (htake : ∀ resolved : Resolved, take (resolved.rename σ) = (take resolved).rename σ)
    {p : Phrase} (h : (inputs.get kind port).map take = .ok p) :
    ((inputs.rename σ).get kind port).map take = .ok (p.rename σ) := by
  rw [get_rename]
  cases hget : inputs.get kind port with
  | error e =>
    rw [hget] at h
    contradiction
  | ok resolved =>
    rw [hget] at h
    obtain rfl := Except.ok.inj h
    exact congrArg Except.ok (htake resolved)

/-- The phrase that a rule reads is renamed. -/
theorem phrase_rename {p : Phrase} (h : inputs.phrase kind port = .ok p) :
    (inputs.rename σ).phrase kind port = .ok (p.rename σ) :=
  map_get_rename σ inputs kind port (fun _ => rfl) h

/-- The phrase that a rule reads is renamed, or is an expression of the shader. -/
theorem phraseOr_rename {builtin : String} {p : Phrase}
    (h : inputs.phraseOr kind port builtin = .ok p) :
    (inputs.rename σ).phraseOr kind port builtin = .ok (p.rename σ) := by
  refine map_get_rename σ inputs kind port ?_ h
  rintro ⟨phrase, connected⟩
  cases connected <;> rfl

/-- All inputs as arguments are renamed. -/
theorem arguments_rename : (inputs.rename σ).arguments = inputs.arguments.rename σ := by
  rw [arguments, arguments, Phrase.rename_separate, rename, List.map_map, List.map_map]
  rfl

end Inputs

/-! ### Rules -/

section Rules

variable {σ : Nat → Nat} {start target : Nat} {block : Block}

/-- An expansion of renamed inputs from another number is the renamed expansion. -/
theorem Expansion.block_rename {node : Node} {inputs : Inputs} {expansion : Expansion}
    (h : expansion.block node inputs start = .ok block)
    (hσ : ∀ i < Statement.declared block.statements, σ (start + i) = target + i) :
    expansion.block node (inputs.rename σ) target = .ok (block.rename σ) := by
  -- In every case the block is opened up to the variables of its own, of which there are as many as
  -- its statements declare.
  unfold Expansion.block at h ⊢
  cases expansion with
  | fresnel =>
    simp only [bind_eq_ok_iff, pure, Except.pure, Except.ok.injEq] at h ⊢
    obtain ⟨normal, hnormal, power, hpower, rfl⟩ := h
    have hall : ∀ i < 3, σ (start + i) = target + i := hσ
    have hfirst : σ start = target := hall 0 (by decide)
    refine ⟨_, inputs.phraseOr_rename σ _ _ hnormal, _, inputs.phrase_rename σ _ _ hpower, ?_⟩
    simp [fresnelBlock, Block.rename, hall, hfirst]
  | noise =>
    simp only [bind_eq_ok_iff, pure, Except.pure, Except.ok.injEq] at h ⊢
    obtain ⟨uv, huv, scale, hscale, rfl⟩ := h
    have hall : ∀ i < 9, σ (start + i) = target + i := hσ
    have hfirst : σ start = target := hall 0 (by decide)
    refine ⟨_, inputs.phraseOr_rename σ _ _ huv, _, inputs.phrase_rename σ _ _ hscale, ?_⟩
    simp [noiseBlock, hashed, Block.rename, hall, hfirst]
  | voronoi =>
    simp only [bind_eq_ok_iff, pure, Except.pure, Except.ok.injEq] at h ⊢
    obtain ⟨uv, huv, scale, hscale, rfl⟩ := h
    have hall : ∀ i < 3, σ (start + i) = target + i := hσ
    have hfirst : σ start = target := hall 0 (by decide)
    refine ⟨_, inputs.phraseOr_rename σ _ _ huv, _, inputs.phrase_rename σ _ _ hscale, ?_⟩
    simp [voronoiBlock, Block.rename, hall, hfirst]
  | hsvToRgb =>
    simp only [bind_eq_ok_iff, pure, Except.pure, Except.ok.injEq] at h ⊢
    obtain ⟨hue, hhue, saturation, hsaturation, value, hvalue, rfl⟩ := h
    have hall : ∀ i < 3, σ (start + i) = target + i := hσ
    have hfirst : σ start = target := hall 0 (by decide)
    refine ⟨_, inputs.phrase_rename σ _ _ hhue, _, inputs.phrase_rename σ _ _ hsaturation,
      _, inputs.phrase_rename σ _ _ hvalue, ?_⟩
    simp [hsvToRgbBlock, Block.rename, hall, hfirst]
  | rgbToHsv =>
    simp only [bind_eq_ok_iff, pure, Except.pure, Except.ok.injEq] at h ⊢
    obtain ⟨rgb, hrgb, rfl⟩ := h
    have hall : ∀ i < 7, σ (start + i) = target + i := hσ
    have hfirst : σ start = target := hall 0 (by decide)
    refine ⟨_, inputs.phrase_rename σ _ _ hrgb, ?_⟩
    simp [rgbToHsvBlock, Block.rename, hall, hfirst]
  | colorRamp =>
    dsimp only at h ⊢
    split at h
    · next interpolation hparams =>
      simp only [bind_eq_ok_iff, pure, Except.pure, Except.ok.injEq] at h ⊢
      obtain ⟨factor, hfactor, colorA, hcolorA, colorB, hcolorB, rfl⟩ := h
      have hall : ∀ i < 2, σ (start + i) = target + i := hσ
      have hfirst : σ start = target := hall 0 (by decide)
      refine ⟨_, inputs.phrase_rename σ _ _ hfactor, _, inputs.phrase_rename σ _ _ hcolorA,
        _, inputs.phrase_rename σ _ _ hcolorB, ?_⟩
      cases interpolation <;> simp [colorRampBlock, shaped, Block.rename, hall, hfirst]
    · contradiction

/-- The rule of a kind gives the renamed block for renamed inputs from another number. -/
theorem Node.block_rename {node : Node} {kind : NodeKind} {type : NodeType} {inputs : Inputs}
    (h : node.block kind type inputs start = .ok block)
    (hσ : ∀ i < Statement.declared block.statements, σ (start + i) = target + i) :
    node.block kind type (inputs.rename σ) target = .ok (block.rename σ) := by
  unfold Node.block at h ⊢
  cases hemission : kind.emission with
  | output =>
    simp only [hemission] at h ⊢
    obtain rfl := Except.ok.inj h
    rfl
  | source expression =>
    simp only [hemission, bind_eq_ok_iff, pure, Except.pure, Except.ok.injEq] at h ⊢
    obtain ⟨output, houtput, rfl⟩ := h
    exact ⟨output, houtput, rfl⟩
  | constant =>
    simp only [hemission, bind_eq_ok_iff, pure, Except.pure, Except.ok.injEq] at h ⊢
    obtain ⟨literal, hliteral, output, houtput, rfl⟩ := h
    exact ⟨literal, hliteral, output, houtput, rfl⟩
  | binary op =>
    simp only [hemission, bind_eq_ok_iff, pure, Except.pure, Except.ok.injEq] at h ⊢
    obtain ⟨output, houtput, a, ha, b, hb, rfl⟩ := h
    have hfirst : σ start = target := hσ 0 Nat.one_pos
    refine ⟨output, houtput, _, inputs.phrase_rename σ _ _ ha, _, inputs.phrase_rename σ _ _ hb, ?_⟩
    simp [Block.rename, hfirst]
  | call function =>
    simp only [hemission, bind_eq_ok_iff, pure, Except.pure, Except.ok.injEq] at h ⊢
    obtain ⟨output, houtput, rfl⟩ := h
    have hfirst : σ start = target := hσ 0 Nat.one_pos
    refine ⟨output, houtput, ?_⟩
    simp [Block.rename, hfirst, inputs.arguments_rename]
  | decompose =>
    simp only [hemission, bind_eq_ok_iff, pure, Except.pure, Except.ok.injEq] at h ⊢
    obtain ⟨vector, hvector, rfl⟩ := h
    refine ⟨_, inputs.phrase_rename σ _ _ hvector, ?_⟩
    rw [Block.declared_map_define] at hσ
    rw [Block.rename, Block.mk.injEq, List.map_map, List.map_map]
    refine ⟨by simp, List.map_congr_left ?_⟩
    rintro ⟨output, i⟩ hi
    have hlt : i < type.outputs.length := by simpa using (List.mem_zipIdx hi).2.1
    simp [hσ i hlt]
  | compose =>
    simp only [hemission, bind_eq_ok_iff, pure, Except.pure, Except.ok.injEq] at h ⊢
    obtain ⟨output, houtput, rfl⟩ := h
    have hfirst : σ start = target := hσ 0 Nat.one_pos
    refine ⟨output, houtput, ?_⟩
    simp [Block.rename, hfirst, inputs.arguments_rename]
  | expand expansion =>
    simp only [hemission, bind_eq_ok_iff, pure, Except.pure, Except.ok.injEq] at h ⊢
    obtain ⟨whole, hwhole, rfl⟩ := h
    refine ⟨_, Expansion.block_rename hwhole hσ, ?_⟩
    simp only [Block.rename, Block.declaredOnly, List.filter_map]
    rfl
  | placeholder =>
    simp only [hemission] at h ⊢
    obtain rfl := Except.ok.inj h
    simp [Block.rename, Block.ofBindings]

/-- A node contributes the renamed block for renamed inputs from another number. -/
theorem Node.contribution_rename {node : Node} {catalog : Catalog} {inputs : NodeType → Inputs}
    (h : node.contribution catalog inputs start = .ok block)
    (hσ : ∀ i < Statement.declared block.statements, σ (start + i) = target + i) :
    node.contribution catalog (fun type => (inputs type).rename σ) target =
      .ok (block.rename σ) := by
  unfold Node.contribution at h ⊢
  split at h
  · exact Node.block_rename h hσ
  · obtain rfl := Except.ok.inj h
    rfl

end Rules

end MaterialGraph
