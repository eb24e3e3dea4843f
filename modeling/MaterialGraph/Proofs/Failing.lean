import Mathlib.Logic.Basic

/-!
# Computations that may fail

An outcome is a result or an error. Two steps one after the other have a result exactly when both
have one. What holds of every result, and which error there is, can be read off a sequence of steps
from what holds of each of them.
-/

namespace MaterialGraph

variable {ε α β : Type} {x : Except ε α}

/-! ### Results -/

/-- An outcome that is fine is a result. -/
theorem exists_eq_ok_of_isOk (h : x.isOk = true) : ∃ a, x = .ok a := by
  cases x with
  | error e => cases h
  | ok a => exact ⟨a, rfl⟩

/-- An outcome is a result exactly when it is fine. -/
theorem exists_eq_ok_iff : (∃ a, x = .ok a) ↔ x.isOk = true := by
  refine ⟨?_, exists_eq_ok_of_isOk⟩
  rintro ⟨a, rfl⟩
  rfl

/-- Two steps one after the other have a result exactly when both have one. -/
theorem bind_eq_ok_iff {f : α → Except ε β} {b : β} :
    x >>= f = .ok b ↔ ∃ a, x = .ok a ∧ f a = .ok b := by
  cases x with
  | error e => simp [bind, Except.bind]
  | ok a => simp [bind, Except.bind]

/-- Every result of an outcome has a property. -/
def Yields (x : Except ε α) (P : α → Prop) : Prop :=
  ∀ a, x = .ok a → P a

namespace Yields

variable {P : α → Prop} {R : β → Prop}

/-- A result yields what holds of it. -/
theorem ok {a : α} (h : P a) : Yields (.ok a : Except ε α) P := by
  intro b hb
  obtain rfl := Except.ok.inj hb
  exact h

/-- An error yields nothing. -/
theorem error (e : ε) : Yields (.error e) P := by
  intro b hb
  contradiction

/-- Two steps one after the other yield what the second does with what the first yields. -/
theorem bind {f : α → Except ε β} (hx : Yields x P) (hf : ∀ a, P a → Yields (f a) R) :
    Yields (x >>= f) R := by
  cases x with
  | error e => exact error e
  | ok a => exact hf a (hx a rfl)

/-- A changed outcome yields what the change makes of what was yielded. -/
theorem map {f : α → β} (hx : Yields x P) (hf : ∀ a, P a → R (f a)) : Yields (x.map f) R := by
  cases x with
  | error e => exact error e
  | ok a => exact ok (hf a (hx a rfl))

/-- Every outcome yields something. -/
theorem any (x : Except ε α) : Yields x fun _ => True :=
  fun _ _ => trivial

end Yields

/-! ### Errors -/

/-- The error of an outcome. -/
def faultOf : Except ε α → Option ε
  | .error e => some e
  | .ok _ => none

/-- An outcome has an error exactly when it is that error. -/
theorem faultOf_eq_some_iff {e : ε} : faultOf x = some e ↔ x = .error e := by
  cases x with
  | error f => simp [faultOf]
  | ok a => simp [faultOf]

/-- An outcome without an error is a result. -/
theorem faultOf_eq_none_iff : faultOf x = none ↔ ∃ a, x = .ok a := by
  cases x with
  | error e => simp [faultOf]
  | ok a => simp [faultOf]

/-- A result has no error. -/
@[simp]
theorem faultOf_pure (a : α) : faultOf (pure a : Except ε α) = none :=
  rfl

/-- Changing a result leaves the error as it is. -/
@[simp]
theorem faultOf_map (f : α → β) (x : Except ε α) : faultOf (x.map f) = faultOf x := by
  cases x with
  | error e => rfl
  | ok a => rfl

/-- A sequence fails with the first error, if what follows fails alike whatever came before. -/
theorem faultOf_bind {f : α → Except ε β} {fault : Option ε} (h : ∀ a, faultOf (f a) = fault) :
    faultOf (x >>= f) = (faultOf x).or fault := by
  cases x with
  | error e => rfl
  | ok a => exact h a

end MaterialGraph
