import Mathlib.Data.List.Basic
import Mathlib.Data.List.Forall2
import Mathlib.Data.Option.Basic
import MaterialGraph.Document.Basic
import MaterialGraph.Proofs.Digits
import MaterialGraph.Shader.Compile

/-!
# Documents in a text format

What a text format promises to typed data: what it builds can be read again, and every place of the
tree that is read shows what has been built there. Numbers are the exception, since a format may
lose some of them; it says itself what it makes of each. A document that is written in such a format
is read back with every number replaced by what the format makes of it, or not at all if that is
nothing for one of them.

A format may limit how deep a tree is nested. The room at a place counts the steps that can still be
taken into the tree.
-/

namespace MaterialGraph

/-- Whether a text is a plain name: letters, digits and underscores, with a letter first. -/
def isPlainName (s : String) : Bool :=
  s.toList.head?.any Char.isAlpha && s.toList.all fun c => c.isAlphanum || c == '_'

/-- Fields that a format can write as a record, where their values are fit for it. -/
structure FitFields {τ : Type} (Fit : τ → Prop) (fields : List (String × τ)) : Prop where
  ne_nil : fields ≠ []
  names : (fields.map Prod.fst).all isPlainName = true
  values : ∀ field ∈ fields, Fit field.2

/-- A row shows fields: in every column the field that is declared there, or none. -/
def RowShows {σ τ : Type} (Shows : σ → τ → Prop) (rules : List FieldRule)
    (fields : List (String × τ)) (row : List (Option σ)) : Prop :=
  List.Forall₂ (Option.Rel Shows) row (rules.map fun rule => fields.lookup rule.name)

/-- Names of fields that a list of rules declares, each once. -/
abbrev Declared (rules : List FieldRule) (names : List String) : Prop :=
  names.Nodup ∧ ∀ name ∈ names, name ∈ rules.map FieldRule.name

/-- A text format that gives back what it takes, numbers apart. -/
structure TextFormat (σ τ : Type) [DataSource σ] [DataSink τ] where
  /-- The text of a tree. -/
  write : τ → String
  /-- The first place of a text. -/
  read : String → Option σ
  /-- How deep a tree may be nested. -/
  budget : Nat
  budget_ge : 16 ≤ budget
  /-- Trees that can be written where there is some room. -/
  Fit : Nat → τ → Prop
  /-- A place with some room shows a tree. -/
  Shows : Nat → σ → τ → Prop
  /-- What is read where a number has been written. -/
  reread : Single → Option Single
  fit_text : ∀ room text, Fit room (DataSink.text text)
  fit_number : ∀ room x, Fit room (DataSink.number x)
  fit_numbers : ∀ room {xs}, xs ≠ [] → Fit (room + 1) (DataSink.numbers xs)
  fit_items : ∀ {room trees}, (∀ tree ∈ trees, Fit room tree) →
    Fit (room + 1) (DataSink.items trees)
  fit_option_none : ∀ room, Fit room (DataSink.option none)
  fit_option_some : ∀ {room tree}, Fit room tree → Fit (room + 1) (DataSink.option (some tree))
  fit_record : ∀ {room fields} name, FitFields (Fit room) fields →
    Fit (room + 1) (DataSink.record name fields)
  fit_unit : ∀ room {name}, isPlainName name = true → Fit room (DataSink.variant name .unit)
  fit_variant : ∀ {room name fields}, isPlainName name = true → FitFields (Fit room) fields →
    Fit (room + 1) (DataSink.variant name (.record fields))
  read_write : ∀ {tree}, Fit budget tree →
    ∃ place, read (write tree) = some place ∧ Shows budget place tree
  text?_eq : ∀ {room place text}, Shows room place (DataSink.text text) →
    DataSource.text? place = some text
  number?_eq : ∀ {room place x}, Shows room place (DataSink.number x) →
    DataSource.number? place = reread x
  numbers?_eq : ∀ {room place xs}, Shows (room + 2) place (DataSink.numbers xs) →
    DataSource.numbers? xs.length place = xs.mapM reread
  items?_eq : ∀ {room place trees}, Shows (room + 2) place (DataSink.items trees) →
    ∃ places, DataSource.items? place = some places ∧ List.Forall₂ (Shows room) places trees
  option?_none : ∀ {room place}, Shows room place (DataSink.option none) →
    DataSource.option? place = some none
  option?_text : ∀ {room place text},
    Shows (room + 1) place (DataSink.option (some (DataSink.text text))) →
    ∃ inner, DataSource.option? place = some (some inner) ∧ Shows room inner (DataSink.text text)
  record?_eq : ∀ {room place name fields rules},
    Shows (room + 2) place (DataSink.record name fields) → Declared rules (fields.map Prod.fst) →
    ∃ row, DataSource.record? name rules place = some row ∧
      RowShows (Shows room) rules fields row
  variant?_unit : ∀ {room place name variants},
    Shows (room + 2) place (DataSink.variant name .unit) →
    variants.lookup name = some .unit → DataSource.variant? variants place = some (name, [])
  variant?_record : ∀ {room place name fields rules variants},
    Shows (room + 3) place (DataSink.variant name (.record fields)) →
    Declared rules (fields.map Prod.fst) →
    variants.lookup name = some (.record rules) →
    ∃ row, DataSource.variant? variants place = some (name, row) ∧
      RowShows (Shows room) rules fields row

/-- The fields of one name, where no name stands twice. -/
theorem filter_name_eq {τ : Type} {fields : List (String × τ)}
    (hdistinct : (fields.map Prod.fst).Nodup) (name : String) :
    fields.filter (fun field => field.1 == name) =
      (fields.lookup name).toList.map fun tree => (name, tree) := by
  induction fields with
  | nil => rfl
  | cons field fields ih =>
    obtain ⟨other, tree⟩ := field
    rw [List.map_cons, List.nodup_cons] at hdistinct
    by_cases hname : other = name
    · subst hname
      have hnone : fields.filter (fun field => field.1 == other) = [] := by
        rw [List.filter_eq_nil_iff]
        intro field hfield hsame
        have hmem : field.1 ∈ fields.map Prod.fst := List.mem_map_of_mem hfield
        rw [beq_iff_eq.mp hsame] at hmem
        exact hdistinct.1 hmem
      simp [hnone]
    · have hname' : (name == other) = false := by simpa using Ne.symm hname
      simp [List.lookup_cons, hname, hname', ih hdistinct.2]

/-! ### Numbers replaced -/

/-- A value with every component replaced. -/
def PortValue.replaced (f : Single → Option Single) (v : PortValue) : Option PortValue :=
  (v.components.mapM f).bind (ofComponents? v.type)

/-- Parameters with every number replaced. -/
def Params.replaced (f : Single → Option Single) : Params → Option Params
  | .constant value => (value.replaced f).map .constant
  | params => some params

/-- A position with both coordinates replaced. -/
def Position.replaced (f : Single → Option Single) (p : Position) : Option Position :=
  (f p.x).bind fun x => (f p.y).map fun y => ⟨x, y⟩

/-- A node with every number replaced. -/
def Node.replaced (f : Single → Option Single) (n : Node) : Option Node :=
  (n.position.replaced f).bind fun position =>
    (n.params.replaced f).map fun params => { n with position, params }

/-- A document with every number replaced. -/
def Document.replaced (f : Single → Option Single) (d : Document) : Option Document :=
  (d.nodes.mapM (Node.replaced f)).map fun nodes => { d with nodes }

/-- The numbers of parameters. -/
def Params.singles (p : Params) : List Single :=
  p.value?.elim [] PortValue.components

/-- The numbers of a node. -/
def Node.singles (n : Node) : List Single :=
  n.position.x :: n.position.y :: n.params.singles

/-- The numbers of a document. -/
def Document.singles (d : Document) : List Single :=
  d.nodes.flatMap Node.singles

/-- A document with all sorts of parameters, with numbers at the ends of their range and with texts
that need escapes. -/
def Document.assortment : Document where
  id := ⟨BitVec.allOnes 128⟩
  name := "\"Stone\" \\ \u00e9\u4e2d \t\n\r\x00\x07\x7f\u2028"
  nodes :=
    [⟨⟨1⟩, "float", ⟨⟨0x3dcccccd⟩, ⟨0x80000000⟩⟩, .constant (.float ⟨1⟩)⟩,
      ⟨⟨2⟩, "color", ⟨⟨0x7f7fffff⟩, ⟨0xff7fffff⟩⟩, .constant (.color .one .zero ⟨0x3eaaaaab⟩ .one)⟩,
      ⟨⟨3⟩, "", .origin, .colorRamp .ease⟩,
      ⟨⟨3⟩, "None", .origin, .texture (some "Some(\"x\")")⟩,
      ⟨⟨4⟩, "texture", .origin, .texture none⟩,
      ⟨⟨5⟩, "time", .origin, .none⟩]
  edges := [⟨⟨6⟩, ⟨⟨1⟩, "value"⟩, ⟨⟨9⟩, "\u00fcber"⟩⟩]

/-- A list of which every item is replaced by a known one. -/
theorem mapM_eq_some_map {α β : Type} {f : α → Option β} {g : α → β} {xs : List α}
    (h : ∀ x ∈ xs, f x = some (g x)) : xs.mapM f = some (xs.map g) := by
  induction xs with
  | nil => rfl
  | cons x xs ih =>
    rw [List.forall_mem_cons] at h
    simp [List.mapM_cons, h.1, ih h.2]

/-- A list in which every item is replaced by itself is the same. -/
theorem mapM_eq_some_self {α : Type} {f : α → Option α} {xs : List α}
    (h : ∀ x ∈ xs, f x = some x) : xs.mapM f = some xs := by
  rw [mapM_eq_some_map h, List.map_id']

/-- A list is replaced if all of its items are. -/
theorem isSome_mapM_iff {α β : Type} {f : α → Option β} {xs : List α} :
    (xs.mapM f).isSome = true ↔ ∀ x ∈ xs, (f x).isSome = true := by
  induction xs with
  | nil => simp
  | cons x xs ih =>
    rw [List.mapM_cons, List.forall_mem_cons, ← ih]
    cases f x with
    | none => simp
    | some y => cases xs.mapM f <;> simp

/-- Items that are replaced by related ones are replaced by a related list. -/
theorem exists_mapM_eq_some {α β : Type} {f : α → Option β} {R : β → α → Prop} {xs : List α}
    (h : ∀ x ∈ xs, ∃ y, f x = some y ∧ R y x) :
    ∃ ys, xs.mapM f = some ys ∧ List.Forall₂ R ys xs := by
  induction xs with
  | nil => exact ⟨[], rfl, .nil⟩
  | cons x xs ih =>
    rw [List.forall_mem_cons] at h
    obtain ⟨y, hy, hrel⟩ := h.1
    obtain ⟨ys, hys, hrels⟩ := ih h.2
    exact ⟨y :: ys, by simp [List.mapM_cons, hy, hys], .cons hrel hrels⟩

/-- Replacing items keeps their number. -/
theorem length_eq_of_mapM_eq_some {α β : Type} {f : α → Option β} {xs : List α} {ys : List β}
    (h : xs.mapM f = some ys) : ys.length = xs.length := by
  induction xs generalizing ys with
  | nil =>
    obtain rfl : [] = ys := by simpa using h
    rfl
  | cons x xs ih =>
    simp only [List.mapM_cons, Option.bind_eq_bind, Option.bind_eq_some_iff, Option.pure_def,
      Option.some.injEq] at h
    obtain ⟨y, -, rest, hrest, rfl⟩ := h
    rw [List.length_cons, List.length_cons, ih hrest]

/-- Places that are read as items are replaced are read as the whole list is. -/
theorem mapM_eq_of_forall₂ {α β γ : Type} {P : α → β → Prop} {f : α → Option γ}
    {g : β → Option γ} (hfg : ∀ a b, P a b → f a = g b) {xs : List α} {ys : List β}
    (h : List.Forall₂ P xs ys) : xs.mapM f = ys.mapM g := by
  induction h with
  | nil => rfl
  | cons hhead _ ih => rw [List.mapM_cons, List.mapM_cons, ih, hfg _ _ hhead]

namespace PortValue

/-- A value has its components. -/
theorem ofComponents?_components (v : PortValue) :
    ofComponents? v.type v.components = some v := by
  cases v <;> rfl

/-- As many numbers as a value has components are a value of its type. -/
theorem isSome_ofComponents? (v : PortValue) {xs : List Single}
    (h : xs.length = v.components.length) : (ofComponents? v.type xs).isSome = true := by
  cases v with
  | float =>
    obtain ⟨x, rfl⟩ := List.length_eq_one_iff.mp h
    rfl
  | vec2 =>
    obtain ⟨x, y, rfl⟩ := List.length_eq_two.mp h
    rfl
  | vec3 =>
    obtain ⟨x, y, z, rfl⟩ := List.length_eq_three.mp h
    rfl
  | vec4 | color =>
    obtain ⟨x, y, z, w, rfl⟩ := List.length_eq_four.mp h
    rfl

/-- A value is replaced if all of its components are. -/
theorem isSome_replaced_iff {f : Single → Option Single} {v : PortValue} :
    (v.replaced f).isSome = true ↔ ∀ x ∈ v.components, (f x).isSome = true := by
  rw [← isSome_mapM_iff, replaced]
  cases hxs : v.components.mapM f with
  | none => simp
  | some xs => simpa using v.isSome_ofComponents? (length_eq_of_mapM_eq_some hxs)

/-- A value whose components are replaced by themselves is the same. -/
theorem replaced_eq_self {f : Single → Option Single} {v : PortValue}
    (h : ∀ x ∈ v.components, f x = some x) : v.replaced f = some v := by
  rw [replaced, mapM_eq_some_self h, Option.bind_some, ofComponents?_components]

end PortValue

/-- Parameters are replaced if all of their numbers are. -/
theorem Params.isSome_replaced_iff {f : Single → Option Single} {p : Params} :
    (p.replaced f).isSome = true ↔ ∀ x ∈ p.singles, (f x).isSome = true := by
  cases p with
  | constant value =>
    rw [replaced, Option.isSome_map, PortValue.isSome_replaced_iff]
    rfl
  | none | colorRamp | texture => simp [replaced, singles, value?]

/-- Parameters whose numbers are replaced by themselves are the same. -/
theorem Params.replaced_eq_self {f : Single → Option Single} {p : Params}
    (h : ∀ x ∈ p.singles, f x = some x) : p.replaced f = some p := by
  cases p with
  | constant value => rw [replaced, PortValue.replaced_eq_self h]; rfl
  | none | colorRamp | texture => rfl

/-- A node is replaced if all of its numbers are. -/
theorem Node.isSome_replaced_iff {f : Single → Option Single} {n : Node} :
    (n.replaced f).isSome = true ↔ ∀ x ∈ n.singles, (f x).isSome = true := by
  rw [singles, List.forall_mem_cons, List.forall_mem_cons, ← Params.isSome_replaced_iff, replaced,
    Position.replaced]
  cases f n.position.x <;> cases f n.position.y <;> cases n.params.replaced f <;> simp

/-- A node whose numbers are replaced by themselves is the same. -/
theorem Node.replaced_eq_self {f : Single → Option Single} {n : Node}
    (h : ∀ x ∈ n.singles, f x = some x) : n.replaced f = some n := by
  rw [singles, List.forall_mem_cons, List.forall_mem_cons] at h
  rw [replaced, Position.replaced, h.1, h.2.1, Params.replaced_eq_self h.2.2]
  rfl

namespace Document

/-- A document is replaced if all of its numbers are. -/
theorem isSome_replaced_iff {f : Single → Option Single} {d : Document} :
    (d.replaced f).isSome = true ↔ ∀ x ∈ d.singles, (f x).isSome = true := by
  rw [replaced, Option.isSome_map, isSome_mapM_iff]
  simp only [Node.isSome_replaced_iff, singles, List.forall_mem_flatMap]

/-- A document whose numbers are replaced by themselves is the same. -/
theorem replaced_eq_self {f : Single → Option Single} {d : Document}
    (h : ∀ x ∈ d.singles, f x = some x) : d.replaced f = some d := by
  simp only [singles, List.forall_mem_flatMap] at h
  rw [replaced, mapM_eq_some_self fun n hn => Node.replaced_eq_self (h n hn)]
  rfl

end Document

/-! ### What is written can be read -/

namespace TextFormat

variable {σ τ : Type} [DataSource σ] [DataSink τ] (F : TextFormat σ τ)

/-- A position can be written. -/
theorem fit_position (room : Nat) (p : Position) : F.Fit (room + 1) p.encode :=
  F.fit_numbers room (List.cons_ne_nil _ _)

/-- The components of a value can be written. -/
theorem fit_components (room : Nat) (v : PortValue) : F.Fit (room + 1) v.encodeComponents := by
  cases v with
  | float x => exact F.fit_number _ x
  | vec2 | vec3 | vec4 | color => exact F.fit_numbers room (List.cons_ne_nil _ _)

/-- Parameters can be written. -/
theorem fit_params (room : Nat) (p : Params) : F.Fit (room + 2) p.encode := by
  have hone {name : String} {tree : τ} (hname : isPlainName name = true)
      (htree : F.Fit (room + 1) tree) : FitFields (F.Fit (room + 1)) [(name, tree)] :=
    ⟨List.cons_ne_nil _ _, by simpa using hname, by simpa using htree⟩
  cases p with
  | none => exact F.fit_unit _ (by decide)
  | constant v =>
    have hname : isPlainName v.variantName = true := by
      cases v <;> (rw [PortValue.variantName]; decide)
    exact F.fit_variant hname (hone (by decide) (F.fit_components room v))
  | colorRamp interpolation =>
    have hname : isPlainName interpolation.name = true := by cases interpolation <;> rfl
    exact F.fit_variant (by decide) (hone (by decide) (F.fit_unit _ hname))
  | texture asset =>
    refine F.fit_variant (by decide) (hone (by decide) ?_)
    cases asset with
    | none => exact F.fit_option_none _
    | some text => exact F.fit_option_some (F.fit_text room text)

/-- A node can be written. -/
theorem fit_node (room : Nat) (n : Node) : F.Fit (room + 3) n.encode := by
  refine F.fit_record _ ⟨List.cons_ne_nil _ _, by simp only [List.map]; decide, ?_⟩
  simp only [List.forall_mem_cons, List.not_mem_nil, false_implies, implies_true, and_true]
  exact ⟨F.fit_text _ _, F.fit_text _ _, F.fit_position _ _, F.fit_params room _⟩

/-- A connection can be written. -/
theorem fit_connection (room : Nat) (c : Connection) : F.Fit (room + 1) c.encode := by
  refine F.fit_record _ ⟨List.cons_ne_nil _ _, by simp only [List.map]; decide, ?_⟩
  simp only [List.forall_mem_cons, List.not_mem_nil, false_implies, implies_true, and_true]
  exact ⟨F.fit_text _ _, F.fit_text _ _, F.fit_text _ _, F.fit_text _ _, F.fit_text _ _⟩

/-- A document can be written. -/
theorem fit_document (room : Nat) (d : Document) : F.Fit (room + 5) d.encode := by
  have hnodes : F.Fit (room + 4) (DataSink.items (d.nodes.map Node.encode)) :=
    F.fit_items (by simpa using fun n _ => F.fit_node room n)
  have hedges : F.Fit (room + 4) (DataSink.items (d.edges.map Connection.encode)) :=
    F.fit_items (by simpa using fun c _ => F.fit_connection (room + 2) c)
  refine F.fit_record _ ⟨List.cons_ne_nil _ _, by simp only [List.map]; decide, ?_⟩
  simp only [List.forall_mem_cons, List.not_mem_nil, false_implies, implies_true, and_true]
  exact ⟨F.fit_text _ _, F.fit_text _ _, hnodes, hedges⟩

/-- A result can be written. -/
theorem fit_result (room : Nat) (r : CompileResult) : F.Fit (room + 2) r.encode := by
  obtain ⟨code, error⟩ := r
  cases error with
  | none =>
    refine F.fit_record _ ⟨List.cons_ne_nil _ _, by simp only [List.map]; decide, ?_⟩
    simpa using F.fit_text _ code
  | some error =>
    refine F.fit_record _ ⟨List.cons_ne_nil _ _, by simp only [List.map]; decide, ?_⟩
    simpa using ⟨F.fit_text _ code, F.fit_option_some (F.fit_text room error)⟩

/-! ### What is read is what was written -/

variable {F}

/-- A required field that is written is read from its place. -/
theorem required_eq {α : Type} {room : Nat} {entry : Option σ} {tree : τ} {read : σ → Option α}
    {a : Option α} (h : Option.Rel (F.Shows room) entry (some tree))
    (hread : ∀ {place}, F.Shows room place tree → read place = a) :
    DataSource.required read entry = a := by
  cases h with
  | some hplace => exact hread hplace

/-- A field that is written is read from its place, whatever it would be if it was missing. -/
theorem orElse_eq {α : Type} {room : Nat} {entry : Option σ} {tree : τ} {read : σ → Option α}
    {a : Option α} {value : α} (h : Option.Rel (F.Shows room) entry (some tree))
    (hread : ∀ {place}, F.Shows room place tree → read place = a) :
    DataSource.orElse value read entry = a := by
  cases h with
  | some hplace => exact hread hplace

/-- An identity is read as it was written. -/
theorem decode_uuid {room : Nat} {place : σ} {id : Uuid} (h : F.Shows room place id.encode) :
    Uuid.decode place = some id := by
  rw [Uuid.decode, F.text?_eq h, Option.bind_some, Uuid.toString, String.toList_ofList,
    Uuid.ofText?_text]

/-- An optional text is read as it was written. -/
theorem optionOf_text {room : Nat} {place : σ} {content : Option String}
    (h : F.Shows (room + 1) place (DataSink.option (content.map DataSink.text))) :
    DataSource.optionOf DataSource.text? place = some content := by
  cases content with
  | none => rw [DataSource.optionOf, F.option?_none h]
  | some text =>
    obtain ⟨inner, hoption, hinner⟩ := F.option?_text h
    simp only [DataSource.optionOf, hoption, F.text?_eq hinner, Option.map_some]

/-- A position is read with both coordinates replaced. -/
theorem decode_position {room : Nat} {place : σ} {p : Position}
    (h : F.Shows (room + 2) place p.encode) :
    Position.decode place = p.replaced F.reread := by
  have hnumbers : DataSource.numbers? 2 place = [p.x, p.y].mapM F.reread := F.numbers?_eq h
  rw [Position.decode, hnumbers, Position.replaced]
  cases hx : F.reread p.x <;> cases hy : F.reread p.y <;> simp [hx, hy]

/-- The components of a value are read replaced. -/
theorem decode_components {room : Nat} {place : σ} {v : PortValue}
    (h : F.Shows (room + 2) place v.encodeComponents) :
    PortValue.decodeComponents v.type place = v.replaced F.reread := by
  cases v with
  | float x =>
    rw [PortValue.type, PortValue.decodeComponents, F.number?_eq h, PortValue.replaced]
    cases hx : F.reread x <;>
      simp [PortValue.components, PortValue.type, PortValue.ofComponents?, hx]
  | vec2 | vec3 | vec4 | color =>
    rw [PortValue.replaced, ← F.numbers?_eq h]
    rfl

/-- A variant that holds one field is read from its place. -/
theorem exists_variant?_eq {room : Nat} {place : σ} {name field : String} {tree : τ}
    {variants : List (String × VariantRule)}
    (h : F.Shows (room + 3) place (DataSink.variant name (.record [(field, tree)])))
    (hlookup : variants.lookup name = some (.record [⟨field, false⟩])) :
    ∃ inner, DataSource.variant? variants place = some (name, [some inner]) ∧
      F.Shows room inner tree := by
  have hdeclared : Declared [⟨field, false⟩] [field] := ⟨by simp, by simp⟩
  obtain ⟨row, hvariant, hrow⟩ := F.variant?_record h hdeclared hlookup
  simp only [RowShows, List.map_cons, List.map_nil, List.lookup_cons_self,
    List.forall₂_cons_right_iff, List.forall₂_nil_right_iff] at hrow
  obtain ⟨entry, _, hentry, rfl, rfl⟩ := hrow
  cases hentry with
  | some hinner => exact ⟨_, hvariant, hinner⟩

/-- Parameters are read with every number replaced. -/
theorem decode_params {room : Nat} {place : σ} {p : Params}
    (h : F.Shows (room + 5) place p.encode) :
    Params.decode place = p.replaced F.reread := by
  cases p with
  | none =>
    rw [Params.decode, F.variant?_unit h rfl]
    rfl
  | constant v =>
    have hlookup : Params.variants.lookup v.variantName = some (.record [⟨"value", false⟩]) := by
      cases v <;> rfl
    obtain ⟨inner, hvariant, hinner⟩ := exists_variant?_eq h hlookup
    rw [Params.replaced, ← decode_components hinner, Params.decode, hvariant]
    cases v <;> rfl
  | colorRamp interpolation =>
    have hlookup : Params.variants.lookup "ColorRamp" = some (.record [⟨"interpolation", false⟩]) :=
      rfl
    obtain ⟨inner, hvariant, hinner⟩ := exists_variant?_eq h hlookup
    have hinterpolation :
        DataSource.oneOf RampInterpolation.names inner = some interpolation := by
      rw [DataSource.oneOf, F.variant?_unit hinner (by cases interpolation <;> rfl)]
      cases interpolation <;> rfl
    simp only [Params.decode, hvariant, DataSource.required, Option.bind_some, hinterpolation,
      Option.map_some, Params.replaced]
  | texture asset =>
    have hlookup : Params.variants.lookup "Texture" = some (.record [⟨"asset", false⟩]) := rfl
    obtain ⟨inner, hvariant, hinner⟩ := exists_variant?_eq h hlookup
    simp only [Params.decode, hvariant, DataSource.orElse, optionOf_text hinner, Option.map_some,
      Params.replaced]

/-- A node is read with every number replaced. -/
theorem decode_node {room : Nat} {place : σ} {n : Node} (h : F.Shows (room + 7) place n.encode) :
    Node.decode place = n.replaced F.reread := by
  have hdeclared : Declared Node.fields ["id", "kind", "position", "params"] := by decide
  obtain ⟨row, hrecord, hrow⟩ := F.record?_eq h hdeclared
  have hrow : List.Forall₂ (Option.Rel (F.Shows (room + 5))) row
      [some n.id.encode, some (DataSink.text n.kind), some n.position.encode,
        some n.params.encode] := hrow
  simp only [List.forall₂_cons_right_iff, List.forall₂_nil_right_iff] at hrow
  obtain ⟨id, _, hid, ⟨kind, _, hkind, ⟨position, _, hposition, ⟨params, _, hparams, rfl, rfl⟩,
    rfl⟩, rfl⟩, rfl⟩ := hrow
  simp only [Node.decode, hrecord, required_eq hid decode_uuid, required_eq hkind F.text?_eq,
    orElse_eq hposition decode_position, orElse_eq hparams decode_params, Node.replaced]
  cases n.position.replaced F.reread <;> cases n.params.replaced F.reread <;> rfl

/-- A connection is read as it was written. -/
theorem decode_connection {room : Nat} {place : σ} {c : Connection}
    (h : F.Shows (room + 2) place c.encode) : Connection.decode place = some c := by
  have hdeclared :
      Declared Connection.fields ["id", "from_node", "from_port", "to_node", "to_port"] := by
    decide
  obtain ⟨row, hrecord, hrow⟩ := F.record?_eq h hdeclared
  have hrow : List.Forall₂ (Option.Rel (F.Shows room)) row
      [some c.id.encode, some c.source.node.encode, some (DataSink.text c.source.port),
        some c.target.node.encode, some (DataSink.text c.target.port)] := hrow
  simp only [List.forall₂_cons_right_iff, List.forall₂_nil_right_iff] at hrow
  obtain ⟨id, _, hid, ⟨fromNode, _, hfromNode, ⟨fromPort, _, hfromPort, ⟨toNode, _, htoNode,
    ⟨toPort, _, htoPort, rfl, rfl⟩, rfl⟩, rfl⟩, rfl⟩, rfl⟩ := hrow
  simp only [Connection.decode, hrecord, required_eq hid decode_uuid,
    required_eq hfromNode decode_uuid, required_eq hfromPort F.text?_eq,
    required_eq htoNode decode_uuid, required_eq htoPort F.text?_eq]
  rfl

/-- Items are read as each of them is. -/
theorem listOf_eq {α β : Type} {room : Nat} {place : σ} {items : List β} {encode : β → τ}
    {decode : σ → Option α} {replaced : β → Option α}
    (h : F.Shows (room + 2) place (DataSink.items (items.map encode)))
    (hdecode : ∀ {place item}, F.Shows room place (encode item) → decode place = replaced item) :
    DataSource.listOf decode place = items.mapM replaced := by
  obtain ⟨places, hitems, hplaces⟩ := F.items?_eq h
  rw [List.forall₂_map_right_iff] at hplaces
  rw [DataSource.listOf, hitems, Option.bind_some]
  exact mapM_eq_of_forall₂ (fun _ _ hitem => hdecode hitem) hplaces

/-- A document is read with every number replaced. -/
theorem decode_document {room : Nat} {place : σ} {d : Document}
    (h : F.Shows (room + 11) place d.encode) :
    Document.decode place = d.replaced F.reread := by
  have hdeclared : Declared Document.fields ["id", "name", "nodes", "edges"] := by decide
  obtain ⟨row, hrecord, hrow⟩ := F.record?_eq h hdeclared
  have hrow : List.Forall₂ (Option.Rel (F.Shows (room + 9))) row
      [some d.id.encode, some (DataSink.text d.name),
        some (DataSink.items (d.nodes.map Node.encode)),
        some (DataSink.items (d.edges.map Connection.encode))] := hrow
  simp only [List.forall₂_cons_right_iff, List.forall₂_nil_right_iff] at hrow
  obtain ⟨id, _, hid, ⟨name, _, hname, ⟨nodes, _, hnodes, ⟨edges, _, hedges, rfl, rfl⟩, rfl⟩, rfl⟩,
    rfl⟩ := hrow
  have hedges :
      DataSource.orElse [] (DataSource.listOf Connection.decode) edges = some d.edges := by
    rw [orElse_eq hedges fun hplace => listOf_eq hplace decode_connection]
    exact mapM_eq_some_self fun _ _ => rfl
  simp only [Document.decode, hrecord, orElse_eq hid decode_uuid, required_eq hname F.text?_eq,
    orElse_eq hnodes fun hplace => listOf_eq hplace decode_node, hedges, Document.replaced]
  cases d.nodes.mapM (Node.replaced F.reread) <;> rfl

/-- A result is read as it was written. -/
theorem decode_result {room : Nat} {place : σ} {r : CompileResult}
    (h : F.Shows (room + 3) place r.encode) : CompileResult.decode place = some r := by
  obtain ⟨code, error⟩ := r
  cases error with
  | none =>
    have hdeclared : Declared CompileResult.fields ["code"] := by decide
    obtain ⟨row, hrecord, hrow⟩ := F.record?_eq h hdeclared
    have hrow : List.Forall₂ (Option.Rel (F.Shows (room + 1))) row
        [some (DataSink.text code), none] := hrow
    simp only [List.forall₂_cons_right_iff, List.forall₂_nil_right_iff] at hrow
    obtain ⟨code', _, hcode, ⟨error, _, herror, rfl, rfl⟩, rfl⟩ := hrow
    cases herror
    simp only [CompileResult.decode, hrecord, required_eq hcode F.text?_eq]
    rfl
  | some error =>
    have hdeclared : Declared CompileResult.fields ["code", "error"] := by decide
    obtain ⟨row, hrecord, hrow⟩ := F.record?_eq h hdeclared
    have hrow : List.Forall₂ (Option.Rel (F.Shows (room + 1))) row
        [some (DataSink.text code), some (DataSink.option ((some error).map DataSink.text))] := hrow
    simp only [List.forall₂_cons_right_iff, List.forall₂_nil_right_iff] at hrow
    obtain ⟨code', _, hcode, ⟨error', _, herror, rfl, rfl⟩, rfl⟩ := hrow
    simp only [CompileResult.decode, hrecord, required_eq hcode F.text?_eq,
      orElse_eq herror optionOf_text]
    rfl

variable (F)

/-- A document that is written and read again has every number replaced. -/
theorem read_document (d : Document) :
    (F.read (F.write d.encode)).bind Document.decode = d.replaced F.reread := by
  obtain ⟨room, hroom⟩ := Nat.exists_eq_add_of_le F.budget_ge
  have hfit : F.Fit F.budget d.encode := by
    rw [hroom, Nat.add_comm]
    exact F.fit_document (room + 11) d
  obtain ⟨place, hread, hplace⟩ := F.read_write hfit
  have hplace : F.Shows (room + 5 + 11) place d.encode := by
    rwa [hroom, Nat.add_comm] at hplace
  rw [hread, Option.bind_some, decode_document hplace]

/-- A result that is written is read again. -/
theorem read_result (r : CompileResult) :
    (F.read (F.write r.encode)).bind CompileResult.decode = some r := by
  obtain ⟨room, hroom⟩ := Nat.exists_eq_add_of_le F.budget_ge
  have hfit : F.Fit F.budget r.encode := by
    rw [hroom, Nat.add_comm]
    exact F.fit_result (room + 14) r
  obtain ⟨place, hread, hplace⟩ := F.read_write hfit
  have hplace : F.Shows (room + 13 + 3) place r.encode := by
    rwa [hroom, Nat.add_comm] at hplace
  rw [hread, Option.bind_some, decode_result hplace]

end TextFormat

end MaterialGraph
