import MaterialGraph.Proofs.JsonText
import MaterialGraph.Proofs.ShortestDecimal
import MaterialGraph.Proofs.TextFormat

/-!
# Documents in JSON

JSON is a text format that gives back what it takes: an object has the row of its fields, and no
tree is nested too deep. A number is written with its shortest decimal, or as null if it is not
finite, and what is read from there is up to its rounding.
-/

namespace MaterialGraph

namespace Json

/-- What is read where a number has been written. -/
def reread (x : Single) : Option Single :=
  number? (ofSingle x)

/-- The tree of a number is legible. -/
theorem legible_ofSingle (x : Single) : Legible (ofSingle x) := by
  have hexponent := x.exponent_shortest_le .toEven
  unfold ofSingle
  split
  · unfold numeralOf
    dsimp only
    split
    · exact .number (Decimal.spelled_positional _ _) (Decimal.isStrict_positional _ hexponent)
    · exact .number (Decimal.spelled_scientific _ _) (Decimal.isStrict_scientific _ _)
  · exact .null

/-- An object is legible if the values of its fields are. -/
theorem legible_ofFields {fields : List (String × Json)} (h : ∀ field ∈ fields, Legible field.2) :
    Legible (ofFields fields) := by
  refine .object ?_ ?_ <;> intro entry hentry <;>
    obtain ⟨field, hfield, rfl⟩ := List.mem_map.mp hentry
  · rfl
  · exact h field hfield

/-- The row of an object has the field of every name that is declared. -/
theorem row?_ofFields (rules : List FieldRule) {fields : List (String × Json)}
    (hdistinct : (fields.map Prod.fst).Nodup) :
    row? rules (ofFields fields) = some (rules.map fun rule => fields.lookup rule.name) := by
  have hkeys : ((fields.map fun field => (some field.1, field.2)).all
      fun entry => entry.1.isSome) = true := by
    simp
  have hentries (name : String) :
      (fields.map fun field => (some field.1, field.2)).filter (fun entry => entry.1 == some name) =
        (fields.lookup name).toList.map fun value => (some name, value) := by
    have hcomp : ((fun entry : Option String × Json => entry.1 == some name) ∘
        fun field : String × Json => (some field.1, field.2)) = fun field => field.1 == name := by
      funext field
      simp
    rw [List.filter_map, hcomp, filter_name_eq hdistinct, List.map_map]
    rfl
  rw [ofFields, row?, rowOfEntries, if_pos hkeys]
  refine mapM_eq_some_map fun rule _ => ?_
  rw [hentries]
  cases fields.lookup rule.name <;> rfl

/-- A row shows the fields that it holds. -/
theorem rowShows_lookup (rules : List FieldRule) (fields : List (String × Json)) :
    RowShows Eq rules fields (rules.map fun rule => fields.lookup rule.name) :=
  List.forall₂_same.mpr fun entry _ => by cases entry <;> constructor; rfl

/-- JSON as a text format. -/
def textFormat : TextFormat Json Json where
  write := spreadString
  read := parse?
  budget := 16
  budget_ge := Nat.le_refl 16
  Fit _ := Legible
  Shows _ := Eq
  reread := reread
  fit_text _ text := .string text
  fit_number _ := legible_ofSingle
  fit_numbers _ xs _ := .array (by simpa using fun x _ => legible_ofSingle x)
  fit_items := .array
  fit_option_none _ := .null
  fit_option_some := id
  fit_record _ h := legible_ofFields h.values
  fit_unit _ name _ := .string name
  fit_variant _ h := legible_ofFields (by simpa using legible_ofFields h.values)
  read_write h := ⟨_, parse?_spreadString h, rfl⟩
  text?_eq := by
    rintro _ _ _ rfl
    rfl
  number?_eq := by
    rintro _ _ _ rfl
    rfl
  numbers?_eq := by
    rintro _ _ xs rfl
    have hlength : (xs.map ofSingle).length = xs.length := List.length_map _
    change (if (xs.map ofSingle).length = xs.length then _ else _) = _
    rw [if_pos hlength, List.mapM_map]
    rfl
  items?_eq := by
    rintro _ _ trees rfl
    exact ⟨trees, rfl, List.forall₂_same.mpr fun _ _ => rfl⟩
  option?_none := by
    rintro _ _ rfl
    rfl
  option?_text := by
    rintro _ _ text rfl
    exact ⟨_, rfl, rfl⟩
  record?_eq := by
    rintro _ _ _ fields rules rfl hdeclared
    exact ⟨_, row?_ofFields rules hdeclared.1, rowShows_lookup rules fields⟩
  variant?_unit := by
    rintro _ _ name variants rfl hlookup
    change variant? variants (.string (some name)) = _
    rw [variant?, hlookup]
  variant?_record := by
    rintro _ _ name fields rules variants rfl hdeclared hlookup
    refine ⟨_, ?_, rowShows_lookup rules fields⟩
    change variant? variants (.object [(some name, ofFields fields)]) = _
    rw [variant?, hlookup, Option.bind_some, contentOf, row?_ofFields rules hdeclared.1]
    rfl

/-- The text of a number is read as the number is reread. -/
theorem readJson?_number (x : Single) :
    readJson? DataSource.number? (spreadString (DataSink.number x)) = reread x := by
  have hparse : parse? (spreadString (DataSink.number x)) = some (ofSingle x) :=
    parse?_spreadString (legible_ofSingle x)
  rw [readJson?, hparse]
  rfl

end Json

/-- A document that is written in JSON and read again has every number replaced by what is read
where it has been written. -/
theorem Document.ofJson?_toJson_eq_replaced (d : Document) :
    ofJson? d.toJson = d.replaced Json.reread := by
  have hread := Json.textFormat.read_document d
  dsimp only [Json.textFormat] at hread
  rw [ofJson?, readJson?, toJson, hread]

/-- A result that is written in JSON is read again. -/
theorem CompileResult.readJson?_spreadString (r : CompileResult) :
    readJson? decode (Json.spreadString r.encode) = some r := by
  have hread := Json.textFormat.read_result r
  dsimp only [Json.textFormat] at hread
  rw [readJson?, hread]

/-- A document of finite numbers that is written in JSON is read again, if the text of each of its
numbers is read as that number. -/
theorem Document.ofJson?_toJson {d : Document} (hfinite : ∀ x ∈ d.singles, x.isFinite = true)
    (hnumbers : ∀ x ∈ d.singles, x.isFinite = true →
      readJson? DataSource.number? (Json.spreadString (DataSink.number x)) = some x) :
    ofJson? d.toJson = some d := by
  rw [ofJson?_toJson_eq_replaced]
  refine replaced_eq_self fun x hx => ?_
  rw [← Json.readJson?_number]
  exact hnumbers x hx (hfinite x hx)

/-- The assortment has finite numbers only and is read again. -/
theorem Document.ofJson?_toJson_assortment :
    (∀ x ∈ assortment.singles, x.isFinite = true) ∧
      ofJson? assortment.toJson = some assortment := by
  have hfinite : ∀ x ∈ assortment.singles, x.isFinite = true := by decide +kernel
  have hnumbers : ∀ x ∈ assortment.singles, Json.reread x = some x := by decide +kernel
  refine ⟨hfinite, ofJson?_toJson hfinite fun x hx _ => ?_⟩
  rw [Json.readJson?_number, hnumbers x hx]

end MaterialGraph
