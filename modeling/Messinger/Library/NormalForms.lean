/-
This file gives every list a normal form that depends on its set of items: the first occurrences, sorted.
-/
import Mathlib.Data.List.Sort
import Mathlib.Tactic.Common

namespace Library

section FirstOccurrences
variable {Item : Type} [BEq Item]

/-- The filter keeps an item where its first index is its own. -/
def firstOccurrences (items : List Item) : List Item :=
  (items.zipIdx.filter fun (item, index) => items.idxOf item == index).map Prod.fst

theorem nodup_firstOccurrences (items : List Item) : (firstOccurrences items).Nodup := by
  unfold firstOccurrences
  have indexed : items.zipIdx.Nodup := by
    refine List.Nodup.of_map Prod.snd ?_
    rw [List.zipIdx_map_snd]
    exact List.nodup_range'
  refine List.Nodup.map_on ?_ (indexed.filter _)
  rintro ⟨item, index⟩ first ⟨other, place⟩ second (rfl : item = other)
  have here := beq_iff_eq.mp (List.mem_filter.mp first).2
  have there := beq_iff_eq.mp (List.mem_filter.mp second).2
  rw [← here, ← there]

variable [LawfulBEq Item]

theorem mem_firstOccurrences {items : List Item} {item : Item} :
    item ∈ firstOccurrences items ↔ item ∈ items := by
  unfold firstOccurrences
  constructor
  · intro kept
    obtain ⟨⟨same, index⟩, listed, rfl⟩ := List.mem_map.mp kept
    exact List.fst_mem_of_mem_zipIdx (List.mem_filter.mp listed).1
  · intro inside
    have below := List.idxOf_lt_length_of_mem inside
    refine List.mem_map.mpr ⟨(item, items.idxOf item), List.mem_filter.mpr ⟨?_, beq_self_eq_true _⟩, rfl⟩
    rw [List.mem_zipIdx_iff_getElem?, List.getElem?_eq_getElem below, List.getElem_idxOf]

/-- Lists with the same items have the same first occurrences in some order. -/
theorem firstOccurrences_perm {items others : List Item} (same : ∀ item, item ∈ items ↔ item ∈ others) :
    (firstOccurrences items).Perm (firstOccurrences others) := by
  rw [List.perm_ext_iff_of_nodup (nodup_firstOccurrences items) (nodup_firstOccurrences others)]
  intro item
  rw [mem_firstOccurrences, mem_firstOccurrences, same]

end FirstOccurrences

/-- Two orders of the same items have one sort. -/
theorem insertionSort_eq_of_perm {Item : Type} (le : Item → Item → Prop) [DecidableRel le] [Std.Total le]
    [IsTrans Item le] (antisymm : ∀ first second, le first second → le second first → first = second)
    {items others : List Item} (perm : items.Perm others) : items.insertionSort le = others.insertionSort le := by
  refine List.Perm.eq_of_pairwise (fun first second _ _ => antisymm first second)
    (List.pairwise_insertionSort le items) (List.pairwise_insertionSort le others) ?_
  exact (List.perm_insertionSort le items).trans (perm.trans (List.perm_insertionSort le others).symm)

end Library
