import MaterialGraph.Proofs.SoundLiteral
import MaterialGraph.Shader.Expansion

/-!
# Blocks that use what is declared

The inputs of a rule are single fragments: a variable or a text that names none. A rule sets them
between separators, so its phrases are sound if the inputs are. The statements of an expansion do
not depend on the inputs otherwise: they are those of a skeleton, whose first variables are holes
for the inputs, and filling the holes keeps them sound.
-/

namespace MaterialGraph

/-- A text that names no variable and sets off what stands on either side. -/
def IsSeparator (s : String) : Prop :=
  s.toList ≠ [] ∧ variableWords s.toList = [] ∧ startsInWord s.toList = false ∧
    endsInWord s.toList = false

instance (s : String) : Decidable (IsSeparator s) :=
  inferInstanceAs (Decidable (_ ∧ _))

namespace Phrase

/-- A phrase of a single fragment with a property. -/
def Single (P : Fragment → Prop) (p : Phrase) : Prop :=
  ∃ f : Fragment, p = [f] ∧ P f

instance (P : Fragment → Prop) [DecidablePred P] : DecidablePred (Single P)
  | [f] => decidable_of_iff (P f) (by simp [Single])
  | [] => isFalse (by simp [Single])
  | _ :: _ :: _ => isFalse (by simp [Single])

/-- A fragment with a property is such a phrase. -/
theorem single_singleton {P : Fragment → Prop} {f : Fragment} (h : P f) : Single P [f] :=
  ⟨f, rfl, h⟩

/-- A phrase of a single fragment, which names no variable but itself, below a bound. -/
def Atomic (bound : Nat) (p : Phrase) : Prop :=
  ∃ f : Fragment, p = [f] ∧ f.Sound bound

instance (bound : Nat) : DecidablePred (Atomic bound) :=
  inferInstanceAs (DecidablePred (Single (Fragment.Sound bound)))

/-- A sound fragment is an atomic phrase. -/
theorem atomic_singleton {bound : Nat} {f : Fragment} (h : f.Sound bound) : Atomic bound [f] :=
  ⟨f, rfl, h⟩

/-- An atomic phrase is sound. -/
theorem Atomic.sound {bound : Nat} {p : Phrase} (h : p.Atomic bound) : p.Sound bound := by
  obtain ⟨f, rfl, hf⟩ := h
  exact ⟨by simpa using hf, List.isChain_singleton f⟩

/-- An atomic phrase is atomic below any larger bound. -/
theorem Atomic.mono {bound larger : Nat} {p : Phrase} (h : p.Atomic bound) (hle : bound ≤ larger) :
    p.Atomic larger := by
  obtain ⟨f, rfl, hf⟩ := h
  exact ⟨f, rfl, hf.mono hle⟩

/-- A variable below the bound is atomic. -/
theorem atomic_ofVariable {bound index : Nat} (h : index < bound) :
    (ofVariable index).Atomic bound :=
  atomic_singleton h

/-- The empty phrase names no variables. -/
theorem sound_nil (bound : Nat) : Sound bound [] :=
  ⟨by simp, List.isChain_nil⟩

/-- A separator keeps sound phrases apart. -/
theorem Sound.between {bound : Nat} {p q : Phrase} {s : String} (hp : p.Sound bound)
    (hq : q.Sound bound) (hs : IsSeparator s) : Sound bound (p ++ .text s :: q) := by
  obtain ⟨hne, hwords, hopens, hcloses⟩ := hs
  have htext : Fragment.Sound bound (.text s) := ⟨hne, hwords⟩
  have hseparator : Sound bound [.text s] := (atomic_singleton htext).sound
  have htail : Sound bound (.text s :: q) := by
    refine hseparator.append hq ?_
    rintro f hf g -
    obtain rfl : Fragment.text s = f := by simpa using hf
    exact Or.inl hcloses
  refine hp.append htail ?_
  rintro f - g hg
  obtain rfl : Fragment.text s = g := by simpa using hg
  exact Or.inr hopens

/-- Sound phrases with a separator between them are sound. -/
theorem sound_separate {bound : Nat} {s : String} (hs : IsSeparator s) {parts : List Phrase}
    (h : ∀ p ∈ parts, p.Sound bound) : (separate s parts).Sound bound := by
  induction parts with
  | nil => exact sound_nil bound
  | cons part rest ih =>
    have hpart := h part List.mem_cons_self
    have hrest := ih fun p hp => h p (List.mem_cons_of_mem _ hp)
    cases rest with
    | nil => exact hpart
    | cons next others => exact hpart.between hrest hs

/-- A phrase in brackets after the name of what it is given to is sound. -/
theorem sound_applied {bound : Nat} {name : String} {p : Phrase}
    (hname : Fragment.Sound bound (.text name)) (hp : p.Sound bound) :
    Sound bound (join [name, "(", p, ")"]) := by
  have hclosed : Sound bound (p ++ .text ")" :: []) := hp.between (sound_nil bound) (by decide)
  exact (atomic_singleton hname).sound.between hclosed (by decide)

/-- An operation between sound operands is sound. -/
theorem sound_operation {bound : Nat} {a b : Phrase} (ha : a.Sound bound) (hb : b.Sound bound)
    (op : BinaryOp) : Sound bound (join [a, " ", op.symbol, " ", b]) := by
  have hsymbol : Fragment.Sound bound (.text op.symbol) := by
    cases op <;> exact ⟨by decide, by decide⟩
  have hright : Sound bound ([.text op.symbol] ++ .text " " :: b) :=
    (atomic_singleton hsymbol).sound.between hb (by decide)
  have hall := ha.between hright (s := " ") (by decide)
  simpa [join] using hall

/-- A component of a sound phrase is sound. -/
theorem sound_component {bound : Nat} {p : Phrase} {name : String} (hp : p.Sound bound)
    (hname : Fragment.Sound bound (.text name)) : Sound bound (join [p, ".", name]) :=
  hp.between (atomic_singleton hname).sound (by decide)

end Phrase

/-! ### Skeletons -/

/-- Put fragments in place of the first variables, and number the others from a start. -/
def Fragment.fill (args : List Fragment) (start : Nat) : Fragment → Fragment
  | text s => text s
  | .variable i => args[i]?.getD (.variable (start + (i - args.length)))

/-- Fill the holes of a statement. -/
def Statement.fill (args : List Fragment) (start : Nat) : Statement → Statement
  | declare storage type value => declare storage type (value.map (Fragment.fill args start))
  | line text => line (text.map (Fragment.fill args start))

/-- Fill the holes of a block. -/
def Block.fill (args : List Fragment) (start : Nat) (block : Block) : Block :=
  ⟨block.statements.map (Statement.fill args start),
    block.bindings.map fun (port, phrase) => (port, phrase.map (Fragment.fill args start))⟩

section Fill

variable {args : List Fragment} {start : Nat} (hargs : ∀ f ∈ args, f.Sound start)

include hargs

/-- A filled fragment is sound below a bound that has grown by as much as that of the skeleton. -/
theorem Fragment.Sound.fill {count : Nat} {f : Fragment} (h : f.Sound (args.length + count)) :
    (f.fill args start).Sound (start + count) := by
  cases f with
  | text s => exact h
  | «variable» i =>
    change i < args.length + count at h
    rw [Fragment.fill]
    cases hi : args[i]? with
    | some f =>
      exact (hargs f (List.mem_of_getElem? hi)).mono (Nat.le_add_right start count)
    | none =>
      have hle := List.getElem?_eq_none_iff.mp hi
      change start + (i - args.length) < start + count
      omega

/-- A filled phrase is sound, since no word runs over the border of a hole. -/
theorem Phrase.Sound.fill {count : Nat} {p : Phrase} (h : p.Sound (args.length + count)) :
    Phrase.Sound (start + count) (p.map (Fragment.fill args start)) := by
  constructor
  · intro f hf
    obtain ⟨hole, hhole, rfl⟩ := List.mem_map.mp hf
    exact (h.1 hole hhole).fill hargs
  · rw [List.isChain_map]
    refine h.2.imp fun f g hfg => ?_
    rcases hfg with hf | hg
    · cases f with
      | text s => exact Or.inl hf
      | «variable» i => cases hf
    · cases g with
      | text s => exact Or.inr hg
      | «variable» i => cases hg

/-- Filled statements are sound one after the other. -/
theorem Statement.SoundFrom.fill {count : Nat} {statements : List Statement}
    (h : SoundFrom (args.length + count) statements) :
    SoundFrom (start + count) (statements.map (Statement.fill args start)) := by
  induction statements generalizing count with
  | nil => trivial
  | cons s rest ih =>
    obtain ⟨hs, hrest⟩ := h
    cases s with
    | declare storage type value =>
      have htail : SoundFrom (args.length + (count + 1)) rest := hrest
      exact ⟨⟨hs.1, hs.2.fill hargs⟩, ih htail⟩
    | line text =>
      refine ⟨⟨hs.1.fill hargs, ?_⟩, ih hrest⟩
      have hplain := hs.2
      cases text with
      | nil => exact hplain
      | cons f others =>
        cases f with
        | text s => exact hplain
        | «variable» i => cases hplain

end Fill

namespace Block

/-- A block whose statements use only variables below the first of its own and declared ones, and
which binds outputs to variables that are declared at its end. -/
def Sound (start : Nat) (block : Block) : Prop :=
  Statement.SoundFrom start block.statements ∧
    ∀ binding ∈ block.bindings,
      binding.2.Atomic (start + Statement.declared block.statements)

instance (start : Nat) (block : Block) : Decidable (block.Sound start) :=
  inferInstanceAs (Decidable (_ ∧ _))

/-- Filling the holes of statements declares as many variables. -/
theorem declared_map_fill (args : List Fragment) (start : Nat) (statements : List Statement) :
    Statement.declared (statements.map (Statement.fill args start)) =
      Statement.declared statements :=
  Statement.declared_map (fun s => by cases s <;> rfl) statements

/-- A block is sound if it is a sound skeleton with sound fragments in its holes. -/
theorem Sound.fill {skeleton : Block} {start : Nat} (args : List Fragment)
    (h : skeleton.Sound args.length) (hargs : ∀ f ∈ args, f.Sound start) :
    (skeleton.fill args start).Sound start := by
  have hstatements : Statement.SoundFrom (args.length + 0) skeleton.statements := h.1
  refine ⟨hstatements.fill hargs, ?_⟩
  intro binding hbinding
  obtain ⟨⟨port, phrase⟩, hmem, rfl⟩ := List.mem_map.mp hbinding
  obtain ⟨f, rfl, hf⟩ : phrase.Atomic _ := h.2 _ hmem
  rw [Block.fill, declared_map_fill]
  exact Phrase.atomic_singleton (hf.fill hargs)

/-- One variable of each type is declared. -/
theorem declared_map_define (outputs : List Port) (value : Port → Phrase) :
    Statement.declared (outputs.map fun output => define output.type (value output)) =
      outputs.length := by
  rw [Statement.declared, List.countP_map]
  exact List.countP_eq_length.mpr fun _ _ => rfl

/-- Leaving out bindings keeps a block sound. -/
theorem Sound.declaredOnly {start : Nat} {block : Block} (h : block.Sound start)
    (type : NodeType) :
    Sound start { block with bindings := declaredOnly type block.bindings } :=
  ⟨h.1, fun binding hbinding => h.2 binding (List.mem_filter.mp hbinding).1⟩

/-- A block that only binds outputs to sound fragments is sound. -/
theorem sound_ofBindings {start : Nat} {bindings : List (PortId × Phrase)}
    (h : ∀ binding ∈ bindings, binding.2.Atomic start) : (ofBindings bindings).Sound start :=
  ⟨trivial, h⟩

/-- A block of one declaration, to which an output is bound, is sound if the value is. -/
theorem sound_single {start : Nat} {type : Option String} {value : Phrase}
    (htype : (type.all fun t => variableWords t.toList = []) = true) (hvalue : value.Sound start)
    (port : PortId) :
    Sound start ⟨[.declare .fixed type value], [(port, Phrase.ofVariable start)]⟩ := by
  refine ⟨⟨⟨htype, hvalue⟩, trivial⟩, ?_⟩
  intro binding hbinding
  obtain rfl := List.mem_singleton.mp hbinding
  exact Phrase.atomic_ofVariable (Nat.lt_succ_self start)

end Block

end MaterialGraph
