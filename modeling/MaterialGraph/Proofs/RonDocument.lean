import MaterialGraph.Proofs.RonText
import MaterialGraph.Proofs.ShortestDecimal

/-!
# Documents in RON

RON is a text format that gives back what it takes, down to the depth of its nesting budget. A
number is written as its shortest decimal without an exponent and rounded once when it is read, so
that every number comes back, infinities included.
-/

namespace MaterialGraph

namespace Ron

/-! ### Numbers -/

/-- What is read where a number has been written. -/
def reread (x : Single) : Option Single :=
  single? (ofSingle x)

/-- Underscores are only dropped where there are some. -/
theorem dropUnderscores_eq_self {cs : List Char} (h : '_' ∉ cs) (allowed : Bool) :
    dropUnderscores allowed cs = some cs := by
  induction cs generalizing allowed with
  | nil => rfl
  | cons c cs ih =>
    rw [List.mem_cons, not_or] at h
    simp only [dropUnderscores, if_neg (Ne.symm h.1), ih h.2, Option.map_some]
    split_ifs <;> rfl

/-- A numeral of digits is read from its text as its exact decimal. -/
theorem singleOfText?_text {n : Numeral} (hn : n.Spelled) (hwhole : n.whole ≠ [])
    (hexponent : n.exponent = none) :
    singleOfText? ["f32"] n.text = some (Single.ofDecimal n.negative n.decimal) := by
  have hchars := Numeral.isDigit_of_mem_text hn hexponent
  -- Every special spelling has a letter.
  have hspecial : (specialSpellings ["f32"]).lookup (String.ofList n.text) = none := by
    have hletters : ∀ spelling ∈ specialSpellings ["f32"],
        'N' ∈ spelling.1.toList ∨ 'i' ∈ spelling.1.toList := by decide
    rw [List.lookup_eq_none_iff]
    intro spelling hmem
    rw [bne_iff_ne]
    intro heq
    have hletter := hletters spelling hmem
    rw [← heq, String.toList_ofList] at hletter
    rcases hletter with hletter | hletter
    · simpa using hchars 'N' hletter
    · simpa using hchars 'i' hletter
  have hspan : n.text.span inDecimal = (n.text, []) := by
    have hall : ∀ c ∈ n.text, inDecimal c = true := by
      intro c hc
      rcases hchars c hc with hdigit | rfl | rfl
      · simp [inDecimal, hdigit]
      · rfl
      · rfl
    have hspan : (n.text ++ []).span inDecimal = (n.text, []) := span_append hall (by simp)
    rwa [List.append_nil] at hspan
  have hplain : '_' ∉ n.text := fun hmem => by simpa using hchars '_' hmem
  simp only [singleOfText?, hspecial, hspan, List.isEmpty_nil, Bool.true_or, if_true,
    dropUnderscores_eq_self hplain, Option.bind_some, Numeral.ofText?_text hn hwhole,
    Option.map_some]

/-- Every number is read back. -/
theorem reread_eq_self {x : Single} (h : x.isNaN = false) : reread x = some x := by
  rw [reread, ofSingle]
  split
  · rename_i hfinite
    rw [single?, singleOfText?_text (Decimal.spelled_positional _ _)
      (Decimal.whole_positional_ne_nil _ _) (Decimal.exponent_positional _ _),
      Decimal.negative_positional,
      Single.ofDecimal_shortest .up hfinite (Decimal.value_decimal_positional _ _)]
  · rename_i hinfinite
    have hmagnitude : x.magnitude = Single.infinityPattern := by
      simp only [Single.isFinite, Single.isNaN, decide_eq_true_eq, decide_eq_false_iff_not] at *
      omega
    have hx : Single.infinity x.negative = x := by
      rw [Single.infinity, ← hmagnitude, Single.ofMagnitude_magnitude]
    simp only [h, Bool.false_eq_true, if_false]
    cases hnegative : x.negative with
    | true =>
      rw [hnegative] at hx
      rw [← hx]
      rfl
    | false =>
      rw [hnegative] at hx
      rw [← hx]
      rfl

/-- The tree of a number is legible. -/
theorem legible_ofSingle (room : Nat) (x : Single) : Legible room (ofSingle x) := by
  rw [ofSingle]
  split
  · have hchars := Numeral.isDigit_of_mem_text
      (Decimal.spelled_positional x.negative (x.shortest .up))
      (Decimal.exponent_positional x.negative (x.shortest .up))
    have hne : ((x.shortest .up).positional x.negative).text ≠ [] := by
      simp [Numeral.text, Decimal.whole_positional_ne_nil]
    obtain ⟨c, cs, htext⟩ := List.exists_cons_of_ne_nil hne
    rw [htext] at hchars ⊢
    refine .word ?_ fun d hd => ?_
    · rcases hchars c List.mem_cons_self with hdigit | rfl | rfl
      · simp [startsWord, hdigit]
      · rfl
      · rfl
    · rcases hchars d hd with hdigit | rfl | rfl
      · simp [continuesWord, continuesName_of_plain, Char.isAlphanum, hdigit]
      · rfl
      · rfl
  · dsimp only
    split
    · split
      · exact .word rfl fun _ hd => of_mem_of_all hd (by decide)
      · exact .word rfl fun _ hd => of_mem_of_all hd (by decide)
    · split
      · exact .ident (by decide) (by decide)
      · exact .ident (by decide) (by decide)

/-! ### The text format -/

/-- A place with some room shows a tree: it holds the tree, and its budget allows as many steps. -/
structure Shows (room : Nat) (place : Cursor) (t : Ron) : Prop where
  tree : place.tree = t
  budget : room ≤ place.budget
  switches : place.switches = .off
  unwrapped : place.unwrapped = false

/-- There is a place for every part that is as many steps inside as there is room for. -/
theorem Shows.inside {place : Cursor} {t : Ron} (room steps : Nat)
    (h : Shows (room + steps) place t) (inner : Ron) :
    ∃ next, place.inside steps inner = some next ∧ Shows room next inner := by
  have hbudget : room + steps ≤ place.budget := h.budget
  refine ⟨_, if_pos (by omega), rfl, ?_, h.switches, rfl⟩
  dsimp only
  omega

/-- The places of the entries of one field. -/
theorem Shows.entriesOf {room : Nat} {place : Cursor} {t : Ron} (h : Shows (room + 2) place t)
    {fields : List (String × Ron)} (hdistinct : (fields.map Prod.fst).Nodup) (name : String) :
    ∃ entry, place.entriesOf (ofFields fields) name = some entry.toList ∧
      Option.Rel (Shows room) entry (fields.lookup name) := by
  have hcomp : ((fun entry : Name × Ron => entry.1.text == name) ∘
      fun field : String × Ron => (Name.ofString field.1, field.2)) =
        fun field => field.1 == name :=
    rfl
  rw [Cursor.entriesOf, ofFields, List.filter_map, hcomp, filter_name_eq hdistinct, List.map_map]
  cases fields.lookup name with
  | none => exact ⟨none, rfl, .none⟩
  | some value =>
    obtain ⟨next, hnext, hshows⟩ := h.inside room 2 value
    refine ⟨some next, ?_, .some hshows⟩
    simp [hnext]

/-- The row of a body has the field of every name that is declared. -/
theorem Shows.row? {room : Nat} {place : Cursor} {t : Ron} (h : Shows (room + 2) place t)
    {rules : List FieldRule} {fields : List (String × Ron)}
    (hdeclared : Declared rules (fields.map Prod.fst)) :
    ∃ row, place.row? rules (ofFields fields) = some row ∧
      RowShows (Shows room) rules fields row := by
  have hbudget : room + 2 ≤ place.budget := h.budget
  have hpass : place.passesOver rules (ofFields fields) = true := by
    rw [Cursor.passesOver, List.all_eq_true]
    intro entry hentry
    obtain ⟨field, hfield, rfl⟩ := List.mem_map.mp hentry
    obtain ⟨rule, hrule, hname⟩ :=
      List.mem_map.mp (hdeclared.2 field.1 (List.mem_map_of_mem hfield))
    have hany : rules.any (fun rule => rule.name == field.1) = true :=
      List.any_eq_true.mpr ⟨rule, hrule, by simp [hname]⟩
    simp only [Name.ofString, hany, Bool.true_or, Bool.and_true, decide_eq_true_eq]
    omega
  have hroom : (1 ≤ place.budget && place.passesOver rules (ofFields fields)) = true := by
    simp only [hpass, Bool.and_true, decide_eq_true_eq]
    omega
  simp only [Cursor.row?, hroom, if_true, RowShows, List.forall₂_map_right_iff]
  refine exists_mapM_eq_some fun rule _ => ?_
  obtain ⟨entry, hentry, hrel⟩ := h.entriesOf hdeclared.1 rule.name
  refine ⟨entry, ?_, hrel⟩
  rw [hentry]
  cases entry <;> rfl

/-- A tuple of numbers is read number by number. -/
theorem Shows.numbers? {room : Nat} {place : Cursor} {xs : List Single}
    (h : Shows (room + 2) place (.tuple none (xs.map ofSingle))) :
    place.numbers? xs.length = xs.mapM reread := by
  obtain ⟨htree, hbudget, -, hunwrapped⟩ := h
  have hcount : ((xs.map ofSingle).length = xs.length && 2 ≤ place.budget) = true := by
    simp only [List.length_map, decide_true, Bool.true_and, decide_eq_true_eq]
    omega
  simp only [Cursor.numbers?, Cursor.tupleItems?, htree, hunwrapped, Option.bind_some, hcount,
    if_true, List.mapM_map]
  rfl

/-- A list is read item by item. -/
theorem Shows.items? {room : Nat} {place : Cursor} {items : List Ron}
    (h : Shows (room + 2) place (.list items)) :
    ∃ places, place.items? = some places ∧ List.Forall₂ (Shows room) places items := by
  have hroom : 1 ≤ place.budget := Nat.le_trans (by omega) h.budget
  simp only [Cursor.items?, h.tree, hroom, if_true]
  exact exists_mapM_eq_some fun item _ => h.inside room 2 item

/-- An option is read from its content. -/
theorem Shows.option? {room : Nat} {place : Cursor} {content : Ron}
    (h : Shows (room + 1) place (.option .single content)) :
    ∃ inner, place.option? = some (some inner) ∧ Shows room inner content := by
  obtain ⟨inner, hinner, hshows⟩ := h.inside room 1 content
  refine ⟨inner, ?_, hshows⟩
  simp only [Cursor.option?, h.tree, hinner, Option.map_some]

/-- A body is read as a record of the type that its name gives, or of any type without a name. -/
theorem Shows.record? {room : Nat} {place : Cursor} {name : Option Name}
    {fields : List (String × Ron)} (h : Shows (room + 2) place (.struct name (ofFields fields)))
    {typeName : String} (hname : ∀ n ∈ name, n.text = typeName) {rules : List FieldRule}
    (hdeclared : Declared rules (fields.map Prod.fst)) :
    ∃ row, place.record? typeName rules = some row ∧ RowShows (Shows room) rules fields row := by
  have hbears : place.bears typeName name = true := by
    cases name with
    | none =>
      rw [Cursor.bears, h.switches]
      rfl
    | some n => simpa [Cursor.bears] using hname n rfl
  simp only [Cursor.record?, h.tree, hbears, if_true]
  exact h.row? hdeclared

/-- A name is read as a variant that holds nothing. -/
theorem Shows.variant?_unit {room : Nat} {place : Cursor} {name : String}
    (h : Shows (room + 2) place (.ident (Name.ofString name)))
    {variants : List (String × VariantRule)} (hlookup : variants.lookup name = some .unit) :
    place.variant? variants = some (name, []) := by
  have hroom : ¬ place.budget < 2 := Nat.not_lt.mpr (Nat.le_trans (by omega) h.budget)
  simp only [Cursor.variant?, h.tree, hroom, if_false, Name.ofString, hlookup]

/-- A body with a name is read as a variant that holds a record. -/
theorem Shows.variant?_record {room : Nat} {place : Cursor} {name : String}
    {fields : List (String × Ron)}
    (h : Shows (room + 3) place (.struct (some (Name.ofString name)) (ofFields fields)))
    {rules : List FieldRule} (hdeclared : Declared rules (fields.map Prod.fst))
    {variants : List (String × VariantRule)}
    (hlookup : variants.lookup name = some (.record rules)) :
    ∃ row, place.variant? variants = some (name, row) ∧ RowShows (Shows room) rules fields row := by
  have hroom : ¬ place.budget < 2 := Nat.not_lt.mpr (Nat.le_trans (by omega) h.budget)
  obtain ⟨inner, hinner, hshows⟩ := h.inside (room + 2) 1 place.tree
  have hdeeper : place.deeper = some inner := hinner
  obtain ⟨row, hrow, hfields⟩ := hshows.row? hdeclared
  refine ⟨row, ?_, hfields⟩
  simp only [Cursor.variant?, h.tree, hroom, if_false, Name.ofString, hlookup, hdeeper,
    Option.bind_some, hrow, Option.map_some]

/-- A name is not spelled as the start of an option. -/
theorem ofString_ne_some (name : String) : Name.ofString name ≠ Name.plain "Some" := by
  intro heq
  obtain ⟨hreserved, rfl⟩ := Name.mk.inj heq
  exact absurd hreserved (by decide)

/-- Fields that are fit make a legible body. -/
theorem legible_struct {room : Nat} {fields : List (String × Ron)} {name : Option Name}
    (hname : ∀ n ∈ name, isPlainName n.text = true ∧ n ≠ Name.plain "Some")
    (h : FitFields (Legible room) fields) :
    Legible (room + 1) (.struct name (ofFields fields)) := by
  refine .struct hname (by simpa [ofFields] using h.ne_nil) ?_ ?_ <;> intro entry hentry <;>
    obtain ⟨field, hfield, rfl⟩ := List.mem_map.mp hentry
  · exact List.all_eq_true.mp h.names field.1 (List.mem_map_of_mem hfield)
  · exact h.values field hfield

/-- RON as a text format. -/
def textFormat : TextFormat Cursor Ron where
  write := spreadString
  read source := (parse? source).map Cursor.ofSource
  budget := nestingBudget
  budget_ge := by decide
  Fit := Legible
  Shows := Shows
  reread := reread
  fit_text := .string
  fit_number := legible_ofSingle
  fit_numbers room _ hne :=
    .tuple (by simpa using hne) (by simpa using fun x _ => legible_ofSingle room x)
  fit_items := .list
  fit_option_none _ := .ident (by decide) (by decide)
  fit_option_some := .option
  fit_record _ h := legible_struct (by simp) h
  fit_unit _ name hname := .ident hname (ofString_ne_some name)
  fit_variant hname h := legible_struct (by simpa using ⟨hname, ofString_ne_some _⟩) h
  read_write h := ⟨_, by rw [parse?_spreadString h]; rfl, rfl, Nat.le_refl _, rfl, rfl⟩
  text?_eq := by
    rintro _ ⟨_, _, _, _⟩ _ ⟨rfl, -, rfl, rfl⟩
    rfl
  number?_eq := by
    rintro _ ⟨_, _, _, _⟩ _ ⟨rfl, -, rfl, rfl⟩
    rfl
  numbers?_eq := Shows.numbers?
  items?_eq := Shows.items?
  option?_none := by
    rintro _ ⟨_, _, _, _⟩ ⟨rfl, -, rfl, rfl⟩
    rfl
  option?_text := Shows.option?
  record?_eq h := h.record? (by simp)
  variant?_unit h := Shows.variant?_unit h
  variant?_record h hdeclared := Shows.variant?_record h hdeclared

end Ron

/-- A document that is written in RON and read again has every number replaced by what is read where
it has been written. -/
theorem Document.ofRon?_toRon_eq_replaced (d : Document) :
    ofRon? d.toRon = d.replaced Ron.reread := by
  have hread := Ron.textFormat.read_document d
  dsimp only [Ron.textFormat] at hread
  rw [Option.bind_map] at hread
  rw [ofRon?, readRon?, toRon, ← hread]
  rfl

/-- A document without NaN that is written in RON is read again. -/
theorem Document.ofRon?_toRon {d : Document} (h : ∀ x ∈ d.singles, x.isNaN = false) :
    ofRon? d.toRon = some d := by
  rw [ofRon?_toRon_eq_replaced]
  exact replaced_eq_self fun x hx => Ron.reread_eq_self (h x hx)

/-- An assortment with infinities. -/
def Document.infiniteAssortment : Document :=
  { assortment with
    nodes := ⟨⟨7⟩, "vec2", ⟨.infinity false, .infinity true⟩,
      .constant (.vec2 (.infinity true) .one)⟩ :: assortment.nodes }

/-- The assortment with infinities has no NaN and is read again. -/
theorem Document.ofRon?_toRon_infiniteAssortment :
    (∀ x ∈ infiniteAssortment.singles, x.isNaN = false) ∧
      ofRon? infiniteAssortment.toRon = some infiniteAssortment := by
  have hnumbers : ∀ x ∈ infiniteAssortment.singles, x.isNaN = false := by decide +kernel
  exact ⟨hnumbers, ofRon?_toRon hnumbers⟩

end MaterialGraph
