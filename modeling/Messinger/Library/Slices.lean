import Mathlib.Data.List.Basic
import Mathlib.Tactic.Common

namespace Library

section Slices
variable {Item : Type} {size : Nat} {list : List Item}

/-- The list is cut at each multiple of the size. -/
def slices (size : Nat) (list : List Item) : List (List Item) :=
  (List.range ((list.length + size - 1) / size)).map fun index => (list.drop (index * size)).take size

/-- The first slices are the first part of the list. -/
theorem flatten_slices_take (size count : Nat) (list : List Item) :
    ((List.range count).map fun index => (list.drop (index * size)).take size).flatten = list.take (count * size) := by
  induction count with
  | zero => rw [Nat.zero_mul, List.take_zero, List.range_zero, List.map_nil, List.flatten_nil]
  | succ count ih =>
      rw [List.range_succ, List.map_append, List.flatten_append, ih, List.map_singleton, List.flatten_singleton,
        Nat.succ_mul, List.take_add]

/-- The slices make up the list, in its order. -/
theorem flatten_slices (positive : 0 < size) : (slices size list).flatten = list := by
  have whole : list.length ≤ (list.length + size - 1) / size * size := by
    have remains := Nat.div_add_mod' (list.length + size - 1) size
    have small := Nat.mod_lt (list.length + size - 1) positive
    omega
  rw [slices, flatten_slices_take, List.take_of_length_le whole]

theorem length_le_of_slices {slice : List Item} (inside : slice ∈ slices size list) : slice.length ≤ size := by
  obtain ⟨index, -, rfl⟩ := List.mem_map.mp inside
  exact List.length_take_le _ _

/-- Every slice starts before the end of the list. -/
theorem ne_nil_of_slices (positive : 0 < size) {slice : List Item} (inside : slice ∈ slices size list) :
    slice ≠ [] := by
  obtain ⟨index, among, rfl⟩ := List.mem_map.mp inside
  have started : index * size < list.length := by
    have bound := Nat.mul_le_of_le_div _ _ _ (Nat.succ_le_of_lt (List.mem_range.mp among))
    rw [Nat.succ_mul] at bound
    omega
  rw [← List.length_pos_iff, List.length_take, List.length_drop]
  omega

end Slices

end Library
