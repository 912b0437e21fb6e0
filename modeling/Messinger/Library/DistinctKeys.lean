import Messinger.Library.Ordered

namespace Library

section Distinct
variable {Item : Type} {key : Item → Nat}

/-- Distinct keys strictly increase along a sort by a finer time. -/
theorem pairwise_lt_insertionSort (key time : Item → Nat)
    (monotone : ∀ first second, time first ≤ time second → key first ≤ key second) {items : List Item}
    (distinct : (items.map key).Nodup) :
    (items.insertionSort fun first second => time first ≤ time second).Pairwise
      fun first second => key first < key second := by
  have total : Std.Total fun first second : Item => time first ≤ time second :=
    ⟨fun first second => Nat.le_total (time first) (time second)⟩
  have trans : IsTrans Item fun first second => time first ≤ time second := ⟨fun _ _ _ => Nat.le_trans⟩
  have sorted := List.pairwise_insertionSort (fun first second => time first ≤ time second) items
  have apart : (items.insertionSort fun first second => time first ≤ time second).Pairwise
      fun first second => key first ≠ key second :=
    List.pairwise_map.mp (((List.perm_insertionSort _ items).map key).nodup_iff.mpr distinct)
  exact sorted.imp₂ (fun _ _ ordered => Nat.lt_of_le_of_ne (monotone _ _ ordered)) apart

theorem pairwise_lt_sortBy {items : List Item} (distinct : (items.map key).Nodup) :
    (sortBy key items).Pairwise fun first second => key first < key second :=
  pairwise_lt_insertionSort key key (fun _ _ => id) distinct

/-- A strictly increasing arrangement of the items is their sort. -/
theorem sortBy_eq_of_perm {items other : List Item} (perm : items.Perm other)
    (sorted : other.Pairwise fun first second => key first < key second) : sortBy key items = other := by
  have distinct : (items.map key).Nodup :=
    (perm.map key).nodup_iff.mpr (List.pairwise_map.mpr (sorted.imp fun smaller => Nat.ne_of_lt smaller))
  refine List.Perm.eq_of_pairwise ?_ (pairwise_lt_sortBy distinct) sorted
    ((List.perm_insertionSort _ items).trans perm)
  intro first second _ _ smaller larger
  exact absurd smaller (Nat.lt_asymm larger)

theorem sortBy_congr {items other : List Item} (distinct : (items.map key).Nodup)
    (perm : items.Perm other) : sortBy key items = sortBy key other :=
  sortBy_eq_of_perm (perm.trans (List.perm_insertionSort _ other).symm)
    (pairwise_lt_sortBy ((perm.map key).nodup_iff.mp distinct))

/-- The items before one of a strictly increasing list have the smaller keys. -/
theorem filter_lt_of_sorted {front rest : List Item} {item : Item}
    (sorted : (front ++ item :: rest).Pairwise fun first second => key first < key second) :
    (front ++ item :: rest).filter (fun other => key other < key item) = front := by
  obtain ⟨-, later, below⟩ := List.pairwise_append.mp sorted
  rw [List.filter_append, List.filter_eq_self.mpr, List.filter_eq_nil_iff.mpr, List.append_nil]
  · intro other inside smaller
    have bound := of_decide_eq_true smaller
    obtain rfl | after := List.mem_cons.mp inside
    · exact Nat.lt_irrefl _ bound
    · exact Nat.lt_asymm bound ((List.pairwise_cons.mp later).1 other after)
  · intro other inside
    exact decide_eq_true (below other inside item List.mem_cons_self)

/-- Nothing newer than a nonempty end of a strictly increasing list is missing from it. -/
theorem not_newer_of_suffix {items page : List Item}
    (sorted : items.Pairwise fun first second => key first < key second) (ends : page <:+ items)
    (nonempty : page ≠ []) {item : Item} (inside : item ∈ items) :
    ¬ ∀ shown ∈ page, key shown < key item := by
  intro newer
  obtain ⟨front, rfl⟩ := ends
  obtain ⟨first, rest, rfl⟩ := List.exists_cons_of_ne_nil nonempty
  obtain early | late := List.mem_append.mp inside
  · exact Nat.lt_asymm ((List.pairwise_append.mp sorted).2.2 item early first List.mem_cons_self)
      (newer first List.mem_cons_self)
  · exact Nat.lt_irrefl _ (newer item late)

/-- The newest items in descending order, sorted, are the end of the sorted items. -/
theorem sortBy_take_desc (key time : Item → Nat)
    (monotone : ∀ first second, time first ≤ time second → key first ≤ key second) {items : List Item}
    (distinct : (items.map key).Nodup) (count : Nat) :
    sortBy key ((items.insertionSort fun first second => time second ≤ time first).take count) =
      (sortBy key items).drop (items.length - count) := by
  have total : Std.Total fun first second : Item => time second ≤ time first :=
    ⟨fun first second => Nat.le_total (time second) (time first)⟩
  have trans : IsTrans Item fun first second => time second ≤ time first :=
    ⟨fun _ _ _ one two => Nat.le_trans two one⟩
  have descending := List.pairwise_insertionSort (fun first second => time second ≤ time first) items
  have perm := List.perm_insertionSort (fun first second => time second ≤ time first) items
  have apart : (items.insertionSort fun first second => time second ≤ time first).Pairwise
      fun first second => key first ≠ key second :=
    List.pairwise_map.mp ((perm.map key).nodup_iff.mpr distinct)
  have ascending : (items.insertionSort fun first second => time second ≤ time first).reverse.Pairwise
      fun first second => key first < key second := by
    rw [List.pairwise_reverse]
    exact descending.imp₂ (fun _ _ below apart => Nat.lt_of_le_of_ne (monotone _ _ below) apart.symm) apart
  have whole : sortBy key items =
      (items.insertionSort fun first second => time second ≤ time first).reverse :=
    sortBy_eq_of_perm (perm.symm.trans (List.reverse_perm _).symm) ascending
  rw [whole, ← List.length_insertionSort (fun first second => time second ≤ time first) items,
    ← List.reverse_take]
  apply sortBy_eq_of_perm (List.reverse_perm _).symm
  rw [List.reverse_take]
  exact ascending.drop
end Distinct

end Library
