import Mathlib.Data.List.Sort
import Mathlib.Tactic.Common

namespace Library

section SortBy
variable {Item : Type} (key : Item → Nat)

/-- The stable sort puts smaller keys first. -/
abbrev sortBy (items : List Item) : List Item :=
  items.insertionSort fun first second => key first ≤ key second

theorem sortBy_cons (item : Item) (rest : List Item) :
    sortBy key (item :: rest) =
      (sortBy key rest).orderedInsert (fun first second => key first ≤ key second) item := rfl

/-- This is the first item among those with the smallest key. -/
def firstMin : List Item → Option Item
  | [] => none
  | item :: rest =>
      match firstMin rest with
      | none => some item
      | some best => if key item ≤ key best then some item else some best

/-- The stable sort starts with the first item of the smallest key. -/
theorem head?_sortBy (items : List Item) : (sortBy key items).head? = firstMin key items := by
  induction items with
  | nil => rfl
  | cons item rest ih =>
      rw [sortBy_cons, firstMin, ← ih]
      cases sorted : sortBy key rest with
      | nil => rfl
      | cons best tail =>
          by_cases smaller : key item ≤ key best
          · rw [List.orderedInsert_cons_of_le _ tail smaller]
            simp [smaller]
          · rw [List.orderedInsert_of_not_le _ tail smaller]
            simp [smaller]

theorem firstMin_eq_none {items : List Item} : firstMin key items = none ↔ items = [] := by
  rw [← head?_sortBy, List.head?_eq_none_iff, ← List.length_eq_zero_iff, List.length_insertionSort,
    List.length_eq_zero_iff]

theorem firstMin_mem {items : List Item} {best : Item} (found : firstMin key items = some best) :
    best ∈ items := by
  rw [← head?_sortBy] at found
  exact (List.mem_insertionSort _).mp (List.mem_of_head? found)

theorem firstMin_le {items : List Item} {best : Item} (found : firstMin key items = some best) :
    ∀ item ∈ items, key best ≤ key item := by
  induction items generalizing best with
  | nil => cases found
  | cons first rest ih =>
      rw [firstMin] at found
      cases least : firstMin key rest with
      | none =>
          rw [least] at found
          rw [(firstMin_eq_none key).mp least]
          cases found
          intro item inside
          rw [List.mem_singleton] at inside
          rw [inside]
      | some other =>
          rw [least] at found
          simp only at found
          intro item inside
          split at found <;> cases found <;> obtain rfl | later := List.mem_cons.mp inside
          · exact Nat.le_refl _
          · rename_i smaller
            exact Nat.le_trans smaller (ih least item later)
          · rename_i larger
            exact Nat.le_of_not_le larger
          · exact ih least item later

theorem min?_map_key (items : List Item) : (items.map key).min? = (firstMin key items).map key := by
  cases found : firstMin key items with
  | none =>
      rw [(firstMin_eq_none key).mp found]
      rfl
  | some best =>
      rw [Option.map_some, List.min?_eq_some_iff]
      refine ⟨List.mem_map_of_mem (firstMin_mem key found), ?_⟩
      intro time inside
      obtain ⟨item, present, rfl⟩ := List.mem_map.mp inside
      exact firstMin_le key found item present

/-- Of two blocks, the first one wins a tie. -/
theorem firstMin_append (front back : List Item) :
    firstMin key (front ++ back) =
      match firstMin key front, firstMin key back with
      | some first, some second => if key first ≤ key second then some first else some second
      | some first, none => some first
      | none, other => other := by
  induction front with
  | nil =>
      rw [List.nil_append, firstMin]
  | cons item rest ih =>
      rw [List.cons_append, firstMin, ih, firstMin]
      cases firstMin key rest with
      | none => cases firstMin key back <;> rfl
      | some first =>
          cases firstMin key back with
          | none => simp only; split <;> rfl
          | some second =>
              by_cases one : key first ≤ key second <;> by_cases two : key item ≤ key first <;>
                by_cases three : key item ≤ key second <;> simp [one, two, three] <;> omega

/-- A block of larger keys follows the other block, whatever their order before. -/
theorem sortBy_append_of_lt {front back : List Item}
    (smaller : ∀ late ∈ front, ∀ early ∈ back, key early < key late) :
    sortBy key (front ++ back) = sortBy key back ++ sortBy key front := by
  induction front with
  | nil => simp
  | cons item rest ih =>
      have below : ∀ early ∈ sortBy key back, ¬ key item ≤ key early := by
        intro early inside
        exact Nat.not_le_of_lt (smaller item List.mem_cons_self early
          ((List.mem_insertionSort _).mp inside))
      have after : ∀ early : List Item, (∀ other ∈ early, ¬ key item ≤ key other) →
          List.orderedInsert (fun first second => key first ≤ key second) item
              (early ++ sortBy key rest) =
            early ++ List.orderedInsert (fun first second => key first ≤ key second) item
              (sortBy key rest) := by
        intro early
        induction early with
        | nil => intro _; rfl
        | cons head tail inner =>
            intro larger
            rw [List.cons_append, List.orderedInsert_of_not_le
              (fun first second => key first ≤ key second) _ (larger head List.mem_cons_self),
              inner fun other inside => larger other (List.mem_cons_of_mem head inside)]
            rfl
      rw [List.cons_append, sortBy_cons,
        ih fun late inside => smaller late (List.mem_cons_of_mem item inside), after _ below, ← sortBy_cons]

/-- An item stays within a window that has room for all items with a smaller key. -/
theorem mem_take_sortBy_cons (item : Item) (rest : List Item) (size : Nat)
    (room : rest.length < size ∨ ∃ other ∈ rest, key item ≤ key other ∧ rest.length ≤ size) :
    item ∈ (sortBy key (item :: rest)).take size := by
  rw [sortBy, List.insertionSort_cons_eq_take_drop]
  have short : ((sortBy key rest).takeWhile fun other => ¬ key item ≤ key other).length < size := by
    obtain fewer | ⟨other, inside, tie, fits⟩ := room
    · refine Nat.lt_of_le_of_lt (List.takeWhile_prefix _).length_le ?_
      rw [List.length_insertionSort]
      exact fewer
    · have strict : ((sortBy key rest).takeWhile fun other => ¬ key item ≤ key other).length <
          (sortBy key rest).length := by
        apply Nat.lt_of_le_of_ne (List.takeWhile_prefix _).length_le
        intro same
        have whole := (List.takeWhile_prefix (l := sortBy key rest)
          fun other => decide ¬ key item ≤ key other).eq_of_length same
        have all := List.all_takeWhile (l := sortBy key rest) (p := fun other => decide ¬ key item ≤ key other)
        rw [whole, List.all_eq_true] at all
        have larger := all other ((List.mem_insertionSort _).mpr inside)
        simp [tie] at larger
      rw [List.length_insertionSort] at strict
      exact Nat.lt_of_lt_of_le strict fits
  rw [List.take_append]
  apply List.mem_append_right
  obtain ⟨more, equal⟩ := Nat.exists_eq_add_of_lt short
  rw [equal, Nat.add_assoc, Nat.add_sub_cancel_left, List.take_succ_cons]
  exact List.mem_cons_self

end SortBy

/-- A sort commutes with a reading of the keys that keeps their order. -/
theorem map_insertionSort_of_monotone {Row : Type} (before : Nat → Nat → Prop) [DecidableRel before]
    [Std.Total before] [IsTrans Nat before] [Std.Antisymm before] (key reading : Row → Nat)
    (monotone : ∀ first second, before (key first) (key second) →
      before (reading first) (reading second)) (rows : List Row) :
    (rows.insertionSort fun first second => before (key first) (key second)).map reading =
      (rows.map reading).insertionSort before := by
  have total : Std.Total fun first second => before (key first) (key second) :=
    ⟨fun first second => Std.Total.total (key first) (key second)⟩
  have trans : IsTrans Row fun first second => before (key first) (key second) :=
    ⟨fun _ _ _ => Trans.trans⟩
  have sorted := List.pairwise_insertionSort (fun first second => before (key first) (key second)) rows
  apply List.Perm.eq_of_pairwise' (r := before)
  · exact List.pairwise_map.mpr (sorted.imp fun ordered => monotone _ _ ordered)
  · exact List.pairwise_insertionSort before _
  · exact ((List.perm_insertionSort _ rows).map reading).trans (List.perm_insertionSort before _).symm

end Library
