/-
This file models a promise by what has become of it, and `Promise.all` by what has become of its elements.
-/
import Mathlib.Data.List.Basic
import Mathlib.Tactic.Common

namespace Library

inductive Promise where
  | pending
  | fulfilled
  | rejected
  deriving DecidableEq, Repr

/-- `Promise.all` is rejected with its first rejected element, and fulfilled with its last fulfilled one. -/
def promiseAll (elements : List Promise) : Promise :=
  if .rejected ∈ elements then .rejected
  else if .pending ∈ elements then .pending
  else .fulfilled

theorem promiseAll_eq_rejected_iff {elements : List Promise} :
    promiseAll elements = .rejected ↔ .rejected ∈ elements := by
  unfold promiseAll
  split
  · next rejected => exact iff_of_true rfl rejected
  · next accepted =>
      refine iff_of_false ?_ accepted
      split <;> exact Promise.noConfusion

theorem promiseAll_eq_fulfilled_iff {elements : List Promise} :
    promiseAll elements = .fulfilled ↔ .rejected ∉ elements ∧ .pending ∉ elements := by
  unfold promiseAll
  split
  · next rejected => exact iff_of_false Promise.noConfusion fun none => none.1 rejected
  · next accepted =>
      split
      · next waits => exact iff_of_false Promise.noConfusion fun none => none.2 waits
      · next settled => exact iff_of_true rfl ⟨accepted, settled⟩

/-- When no element is rejected, changing one of them rejects the whole exactly when it is rejected itself. -/
theorem promiseAll_set_eq_rejected_iff {elements : List Promise} {index : Nat} {next : Promise}
    (before : promiseAll elements ≠ .rejected) (below : index < elements.length) :
    promiseAll (elements.set index next) = .rejected ↔ next = .rejected := by
  rw [promiseAll_eq_rejected_iff]
  constructor
  · intro inside
    obtain old | new := List.mem_or_eq_of_mem_set inside
    · exact absurd (promiseAll_eq_rejected_iff.mpr old) before
    · exact new.symm
  · rintro rfl
    exact List.mem_set below _

end Library
