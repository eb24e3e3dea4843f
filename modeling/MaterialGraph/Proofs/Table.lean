import Mathlib.Data.List.Induction
import Mathlib.Data.List.Nodup
import MaterialGraph.Table

/-!
# Looking up values in a table

A table lists each key once, so looking up a key finds the value that is listed under it, and finds
nothing exactly when the key is not listed. A table made from a list holds no other values than
those of the list: each key stands where the list has it first, with the value that the list has for
it last. It is the list itself exactly when the list has no key twice. Removing a key and changing
a value leave the other keys as they are, and a feature that tells the values of a table apart still
does so after a value with a new feature was put into it.
-/

namespace MaterialGraph.Table

open Keyed (key)

variable {α κ : Type} [Keyed α κ] [DecidableEq κ]

/-- The value that is found is listed, and under the key it was looked up by. -/
theorem mem_of_find?_eq_some {t : Table α} {k : κ} {a : α} (h : t.find? k = some a) :
    a ∈ t.items ∧ key a = k :=
  ⟨List.mem_of_find?_eq_some h, by simpa using List.find?_some h⟩

/-- Looking up the key of a listed value finds this value. -/
theorem find?_key_of_mem {t : Table α} {a : α} (h : a ∈ t.items) : t.find? (key a) = some a := by
  cases hfind : t.find? (key a) with
  | none => exact absurd (List.mem_map_of_mem h) (key_not_mem_of_find?_eq_none hfind)
  | some b =>
    obtain ⟨hb, hkey⟩ := mem_of_find?_eq_some hfind
    rw [List.inj_on_of_nodup_map t.distinct hb h hkey]

/-- The values that are found are those that are listed, under their own keys. -/
theorem find?_eq_some_iff {t : Table α} {k : κ} {a : α} :
    t.find? k = some a ↔ a ∈ t.items ∧ key a = k := by
  constructor
  · exact mem_of_find?_eq_some
  · rintro ⟨hmem, rfl⟩
    exact find?_key_of_mem hmem

/-- Tables with the same items in any order find the same. -/
theorem find?_eq_of_perm {t u : Table α} (h : t.items.Perm u.items) (k : κ) :
    t.find? k = u.find? k := by
  apply Option.ext
  intro a
  rw [find?_eq_some_iff, find?_eq_some_iff, h.mem_iff]

/-- A key has a value exactly when it is listed. -/
theorem contains_iff_mem_keys (t : Table α) (k : κ) : t.contains k = true ↔ k ∈ t.keys := by
  constructor
  · intro h
    obtain ⟨a, ha⟩ := Option.isSome_iff_exists.mp h
    obtain ⟨hmem, hkey⟩ := mem_of_find?_eq_some ha
    exact hkey ▸ List.mem_map_of_mem hmem
  · intro h
    obtain ⟨a, ha, rfl⟩ := List.mem_map.mp h
    rw [contains, find?_key_of_mem ha, Option.isSome_some]

/-- Putting a value into a table adds no other value. -/
theorem mem_items_of_mem_insert {t : Table α} {a b : α} (h : b ∈ (t.insert a).items) :
    b ∈ t.items ∨ b = a := by
  by_cases hnew : t.find? (key a) = none
  · rw [items_insert_of_find?_eq_none hnew] at h
    simpa using h
  · rw [items_insert_of_find?_ne_none hnew, replace] at h
    obtain ⟨c, hc, rfl⟩ := List.mem_map.mp h
    split
    · exact Or.inr rfl
    · exact Or.inl hc

/-- Putting values into a table one by one adds no others. -/
theorem mem_items_of_mem_insertAll {t : Table α} {values : List α} {b : α}
    (h : b ∈ (t.insertAll values).items) : b ∈ t.items ∨ b ∈ values := by
  induction values generalizing t with
  | nil => exact Or.inl h
  | cons a rest ih =>
    rcases ih h with hinsert | hrest
    · rcases mem_items_of_mem_insert hinsert with hold | rfl
      · exact Or.inl hold
      · exact Or.inr List.mem_cons_self
    · exact Or.inr (List.mem_cons_of_mem _ hrest)

/-- The table of a list holds only values of the list. -/
theorem mem_of_mem_ofList {values : List α} {b : α} (h : b ∈ (ofList values).items) :
    b ∈ values := by
  rcases mem_items_of_mem_insertAll h with hempty | hvalues
  · exact absurd hempty List.not_mem_nil
  · exact hvalues

/-! ### What an operation leaves -/

/-- Removing a key leaves the others. -/
theorem mem_keys_erase {t : Table α} {k other : κ} :
    other ∈ (t.erase k).keys ↔ other ∈ t.keys ∧ other ≠ k := by
  simp only [keys, List.mem_map, mem_items_erase]
  constructor
  · rintro ⟨a, ⟨ha, hne⟩, rfl⟩
    exact ⟨⟨a, ha, rfl⟩, hne⟩
  · rintro ⟨⟨a, ha, rfl⟩, hne⟩
    exact ⟨a, ⟨ha, hne⟩, rfl⟩

/-- Removing a value of a new key that was just put into a table gives back the table. -/
theorem erase_insert_of_find?_eq_none {t : Table α} {a : α} (h : t.find? (key a) = none) :
    (t.insert a).erase (key a) = t := by
  have hkept : t.items.filter (fun b => key b ≠ key a) = t.items := by
    rw [List.filter_eq_self]
    intro b hb
    simpa using List.find?_eq_none.mp h b hb
  apply Table.ext
  change (t.insert a).items.filter (fun b => key b ≠ key a) = t.items
  rw [items_insert_of_find?_eq_none h, List.filter_append, hkept]
  simp

/-- Changing a value under its key changes no key. -/
theorem keys_modify (t : Table α) (k : κ) (change : α → α) (keeps : ∀ a, key (change a) = key a) :
    (t.modify k change keeps).keys = t.keys := by
  rw [keys, modify, List.map_map]
  apply List.map_congr_left
  intro a _
  rw [Function.comp_apply]
  split
  · exact keeps a
  · rfl

/-- A feature that tells the values apart still does so after a value with a new feature was put
into the table, also if this value replaces another. -/
theorem nodup_map_insert {β : Type} (feature : α → β) {t : Table α} {a : α}
    (h : (t.items.map feature).Nodup) (hnew : feature a ∉ t.items.map feature) :
    ((t.insert a).items.map feature).Nodup := by
  have hold : ∀ b ∈ t.items, feature b ≠ feature a := fun b hb heq =>
    hnew (heq ▸ List.mem_map_of_mem hb)
  refine List.Nodup.map_on ?_ (.of_map key (t.insert a).distinct)
  intro b hb c hc heq
  rcases mem_items_of_mem_insert hb with hb' | rfl
  · rcases mem_items_of_mem_insert hc with hc' | rfl
    · exact List.inj_on_of_nodup_map h hb' hc' heq
    · exact absurd heq (hold b hb')
  · rcases mem_items_of_mem_insert hc with hc' | rfl
    · exact absurd heq.symm (hold c hc')
    · rfl

/-- A feature that tells the values of a list apart tells those of its table apart. -/
theorem nodup_map_ofList {β : Type} (feature : α → β) {values : List α}
    (h : (values.map feature).Nodup) : ((ofList values).items.map feature).Nodup := by
  refine List.Nodup.map_on ?_ (.of_map key (ofList values).distinct)
  intro a ha b hb heq
  exact List.inj_on_of_nodup_map h (mem_of_mem_ofList ha) (mem_of_mem_ofList hb) heq

/-! ### The table of a list -/

/-- Looking up a key after a value was put into the table finds this value under its own key. -/
theorem find?_insert (t : Table α) (a : α) (k : κ) :
    (t.insert a).find? k = if key a = k then some a else t.find? k := by
  by_cases hnew : t.find? (key a) = none
  · rw [find?, items_insert_of_find?_eq_none hnew, List.find?_append]
    change (t.find? k).or _ = _
    by_cases hk : key a = k
    · subst hk
      simp [hnew]
    · simp [hk]
  · have hsame : (fun b => decide (key b = k)) ∘ (fun b => if key b = key a then a else b) =
        fun b => decide (key b = k) := by
      funext b
      simp only [Function.comp]
      split
      · next h => rw [h]
      · rfl
    rw [find?, items_insert_of_find?_ne_none hnew, replace, List.find?_map, hsame]
    change (t.find? k).map _ = _
    by_cases hk : key a = k
    · subst hk
      obtain ⟨b, hb⟩ := Option.ne_none_iff_exists'.mp hnew
      simp [hb, (mem_of_find?_eq_some hb).2]
    · rw [if_neg hk]
      cases hfind : t.find? k with
      | none => rfl
      | some b =>
        have hkey : key b ≠ key a := (mem_of_find?_eq_some hfind).2 ▸ Ne.symm hk
        rw [Option.map_some, if_neg hkey]

/-- A key is listed last if it is new, and otherwise stays where it is. -/
theorem keys_insert (t : Table α) (a : α) :
    (t.insert a).keys = if key a ∈ t.keys then t.keys else t.keys ++ [key a] := by
  by_cases hnew : t.find? (key a) = none
  · have hunlisted : key a ∉ t.keys := key_not_mem_of_find?_eq_none hnew
    rw [if_neg hunlisted, keys, items_insert_of_find?_eq_none hnew, List.map_append]
    rfl
  · have hlisted : key a ∈ t.keys :=
      (t.contains_iff_mem_keys _).mp (Option.isSome_iff_ne_none.mpr hnew)
    rw [if_pos hlisted, keys, items_insert_of_find?_ne_none hnew, map_key_replace]
    rfl

/-- A further value of a list is put into the table of those before it. -/
theorem ofList_append_singleton (values : List α) (a : α) :
    ofList (values ++ [a]) = (ofList values).insert a := by
  rw [ofList, insertAll, List.foldl_append]
  rfl

/-- A table made from a list has for each key the last value of the list. -/
theorem find?_ofList (values : List α) (k : κ) :
    (ofList values).find? k = values.reverse.find? fun a => key a = k := by
  induction values using List.reverseRecOn with
  | nil => rfl
  | append_singleton values a ih =>
    rw [ofList_append_singleton, find?_insert, ih, List.reverse_append, List.reverse_singleton,
      List.singleton_append, List.find?_cons]
    by_cases hk : key a = k
    · simp [hk]
    · simp [hk]

/-- A table made from a list lists each key where the list has it first. -/
theorem keys_ofList (values : List α) : (ofList values).keys = (values.map key).eraseDups := by
  induction values using List.reverseRecOn with
  | nil => rfl
  | append_singleton values a ih =>
    rw [ofList_append_singleton, keys_insert, ih, List.map_append, List.eraseDups_append,
      List.map_singleton, List.removeAll]
    by_cases hlisted : key a ∈ values.map key
    · rw [if_pos (List.mem_eraseDups.mpr hlisted), List.filter_cons_of_neg (by simpa using hlisted)]
      simp
    · rw [if_neg (hlisted ∘ List.mem_eraseDups.mp),
        List.filter_cons_of_pos (by simpa using hlisted)]
      simp [List.eraseDups_cons]

/-- A table made from a list is the list exactly when no key occurs twice in it. -/
theorem items_ofList_eq_iff (values : List α) :
    (ofList values).items = values ↔ (values.map key).Nodup := by
  constructor
  · intro h
    rw [← h]
    exact (ofList values).distinct
  · intro h
    induction values using List.reverseRecOn with
    | nil => rfl
    | append_singleton values a ih =>
      rw [List.map_append, List.nodup_append] at h
      have hnew : (ofList values).find? (key a) = none := by
        rw [find?_ofList, List.find?_eq_none]
        intro b hb
        have hmem : key b ∈ values.map key := List.mem_map_of_mem (List.mem_reverse.mp hb)
        simpa using h.2.2 _ hmem (key a) (by simp)
      rw [ofList_append_singleton, items_insert_of_find?_eq_none hnew, ih h.1]

end MaterialGraph.Table
