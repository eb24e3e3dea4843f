/-!
# Ordered tables

A table lists values that have keys, no two of them the same. The order is that of insertion: a
value whose key is new comes last, and one whose key is taken stands where the value it replaces
stood. Removal keeps the order of what remains.
-/

namespace MaterialGraph

/-- Values that are told apart by a key. -/
class Keyed (α : Type) (κ : outParam Type) where
  key : α → κ

/-- A list of values with distinct keys. -/
structure Table (α : Type) {κ : Type} [Keyed α κ] where
  items : List α
  distinct : (items.map Keyed.key).Nodup

namespace Table

open Keyed (key)

variable {α κ : Type} [Keyed α κ]

/-- Tables with the same list of values are the same. -/
@[ext]
theorem ext {t u : Table α} (h : t.items = u.items) : t = u := by
  cases t
  cases u
  cases h
  rfl

/-- The table without values. -/
def empty : Table α :=
  ⟨[], List.nodup_nil⟩

/-- The number of values. -/
def size (t : Table α) : Nat :=
  t.items.length

/-- The keys in order. -/
def keys (t : Table α) : List κ :=
  t.items.map key

/-- The values that satisfy a test. -/
def filter (t : Table α) (keep : α → Bool) : Table α :=
  ⟨t.items.filter keep, t.distinct.sublist (List.filter_sublist.map key)⟩

variable [DecidableEq κ]

/-- The value of a key. -/
def find? (t : Table α) (k : κ) : Option α :=
  t.items.find? fun a => key a = k

/-- Whether a key has a value. -/
def contains (t : Table α) (k : κ) : Bool :=
  (t.find? k).isSome

/-- A list in which a value takes the place of the one that has its key. -/
def replace (items : List α) (a : α) : List α :=
  items.map fun b => if key b = key a then a else b

/-- Replacing a value changes no key. -/
theorem map_key_replace (items : List α) (a : α) : (replace items a).map key = items.map key := by
  induction items with
  | nil => rfl
  | cons b rest ih =>
    simp only [replace, List.map_cons] at ih ⊢
    rw [ih]
    split
    · next h => rw [h]
    · rfl

/-- A key that has no value is not among the keys. -/
theorem key_not_mem_of_find?_eq_none {items : List α} {k : κ}
    (h : (items.find? fun a => key a = k) = none) : k ∉ items.map key := by
  simp only [List.find?_eq_none, decide_eq_true_eq] at h
  simpa only [List.mem_map, not_exists, not_and] using h

/-- Put a value into the table. -/
def insert (t : Table α) (a : α) : Table α :=
  if h : t.find? (key a) = none then
    ⟨t.items ++ [a], by
      rw [List.map_append, List.nodup_append]
      refine ⟨t.distinct, by simp, fun x hx y hy => ?_⟩
      simp only [List.map_cons, List.map_nil, List.mem_singleton] at hy
      subst hy
      exact fun he => key_not_mem_of_find?_eq_none h (he ▸ hx)⟩
  else ⟨replace t.items a, by rw [map_key_replace]; exact t.distinct⟩

/-- A value whose key is new comes last. -/
theorem items_insert_of_find?_eq_none {t : Table α} {a : α} (h : t.find? (key a) = none) :
    (t.insert a).items = t.items ++ [a] := by
  rw [insert, dif_pos h]

/-- A value whose key is taken replaces the one that has it. -/
theorem items_insert_of_find?_ne_none {t : Table α} {a : α} (h : t.find? (key a) ≠ none) :
    (t.insert a).items = replace t.items a := by
  rw [insert, dif_neg h]

/-- Put values into the table one by one. -/
def insertAll (t : Table α) (values : List α) : Table α :=
  values.foldl insert t

/-- The table of a list of values, of which a later one replaces an earlier one of the same key. -/
def ofList (values : List α) : Table α :=
  insertAll empty values

/-- Remove the value of a key. -/
def erase (t : Table α) (k : κ) : Table α :=
  t.filter fun a => key a ≠ k

/-- Removal drops exactly the value of the key. -/
theorem mem_items_erase {t : Table α} {k : κ} {a : α} :
    a ∈ (t.erase k).items ↔ a ∈ t.items ∧ key a ≠ k := by
  simp only [erase, filter, List.mem_filter, decide_eq_true_eq]

/-- Change the value of a key by a function that keeps it under its key. -/
def modify (t : Table α) (k : κ) (change : α → α) (keeps : ∀ a, key (change a) = key a) : Table α :=
  ⟨t.items.map fun a => if key a = k then change a else a, by
    have same : key ∘ (fun a => if key a = k then change a else a) = (key : α → κ) := by
      funext a
      simp only [Function.comp]
      split
      · exact keeps a
      · rfl
    rw [List.map_map, same]
    exact t.distinct⟩

end Table

end MaterialGraph
