import Mathlib.Data.List.Basic
import Mathlib.Data.List.Forall2
import Mathlib.Data.List.Nodup
import Mathlib.Tactic.Common

namespace Library

section Keyed
variable {Row Key : Type} [DecidableEq Key] (key : Row → Key)

/-- The lookup returns the first row with the wanted key. -/
def lookup (wanted : Key) (rows : List Row) : Option Row :=
  rows.find? fun row => decide (key row = wanted)

/-- The update changes every row that matches and keeps the order of the rows. -/
def updateWhere (matching : Row → Bool) (change : Row → Row) (rows : List Row) : List Row :=
  rows.map fun row => if matching row then change row else row

theorem lookup_mem {wanted : Key} {rows : List Row} {row : Row}
    (found : lookup key wanted rows = some row) : row ∈ rows ∧ key row = wanted :=
  ⟨List.mem_of_find?_eq_some found, by simpa using List.find?_some found⟩

theorem lookup_eq_none {wanted : Key} {rows : List Row} :
    lookup key wanted rows = none ↔ ∀ row ∈ rows, key row ≠ wanted := by
  simp [lookup, List.find?_eq_none]

/-- Distinct keys make the lookup return every row of the table. -/
theorem lookup_of_mem {rows : List Row} {row : Row} (distinct : (rows.map key).Nodup)
    (member : row ∈ rows) : lookup key (key row) rows = some row := by
  cases found : lookup key (key row) rows with
  | none => exact absurd rfl ((lookup_eq_none key).mp found row member)
  | some other =>
      obtain ⟨otherMember, same⟩ := lookup_mem key found
      rw [List.inj_on_of_nodup_map distinct otherMember member same]

theorem lookup_append (wanted : Key) (rows more : List Row) :
    lookup key wanted (rows ++ more) = (lookup key wanted rows).or (lookup key wanted more) :=
  List.find?_append

/-- An update that keeps the keys maps the lookup. -/
theorem lookup_updateWhere (wanted : Key) (matching : Row → Bool) (change : Row → Row)
    (keeps : ∀ row, key (change row) = key row) (rows : List Row) :
    lookup key wanted (updateWhere matching change rows) =
      (lookup key wanted rows).map fun row => if matching row then change row else row := by
  have same : (fun row => decide (key (if matching row then change row else row) = wanted)) =
      fun row => decide (key row = wanted) := by
    funext row
    split
    · rw [keeps]
    · rfl
  rw [lookup, lookup, updateWhere, List.find?_map]
  exact congrArg (fun test => (rows.find? test).map _) same

/-- An update of one key maps the lookup of that key. -/
theorem lookup_updateWhere_same (wanted : Key) (change : Row → Row)
    (keeps : ∀ row, key (change row) = key row) (rows : List Row) :
    lookup key wanted (updateWhere (fun row => decide (key row = wanted)) change rows) =
      (lookup key wanted rows).map change := by
  rw [lookup_updateWhere key _ _ _ keeps]
  apply Option.map_congr
  intro row found
  rw [if_pos (decide_eq_true (lookup_mem key found).2)]

/-- An update of other rows keeps the lookup. -/
theorem lookup_updateWhere_other (wanted : Key) (matching : Row → Bool) (change : Row → Row)
    (keeps : ∀ row, key (change row) = key row)
    (apart : ∀ row, key row = wanted → matching row = false) (rows : List Row) :
    lookup key wanted (updateWhere matching change rows) = lookup key wanted rows := by
  rw [lookup_updateWhere key _ _ _ keeps]
  cases found : lookup key wanted rows with
  | none => rfl
  | some row => rw [Option.map_some, apart row (lookup_mem key found).2, if_neg Bool.false_ne_true]

/-- Removing other rows keeps the lookup. -/
theorem lookup_filter_kept (wanted : Key) (keep : Row → Bool)
    (kept : ∀ row, key row = wanted → keep row = true) (rows : List Row) :
    lookup key wanted (rows.filter keep) = lookup key wanted rows := by
  induction rows with
  | nil => rfl
  | cons row rest ih =>
      simp only [lookup] at ih ⊢
      by_cases same : key row = wanted
      · simp [kept row same, same]
      · cases selected : keep row <;> simpa [same, selected] using ih

theorem map_updateWhere {Value : Type} (column : Row → Value) (matching : Row → Bool)
    (change : Row → Row) (keeps : ∀ row, column (change row) = column row) (rows : List Row) :
    (updateWhere matching change rows).map column = rows.map column := by
  simp only [updateWhere, List.map_map]
  apply List.map_congr_left
  intro row _
  simp only [Function.comp_apply]
  split
  · exact keeps row
  · rfl

theorem mem_updateWhere {matching : Row → Bool} {change : Row → Row} {rows : List Row} {row : Row} :
    row ∈ updateWhere matching change rows ↔
      ∃ old ∈ rows, row = if matching old then change old else old := by
  simp only [updateWhere, List.mem_map, eq_comm]

/-- An update leaves the table exactly when it leaves every row that matches. -/
theorem updateWhere_eq_self_iff {matching : Row → Bool} {change : Row → Row} {rows : List Row} :
    updateWhere matching change rows = rows ↔ ∀ row ∈ rows, matching row = true → change row = row := by
  have all : updateWhere matching change rows = rows ↔
      ∀ row ∈ rows, (if matching row then change row else row) = row := by
    rw [← List.map_inj_left, List.map_id']
    rfl
  rw [all]
  refine forall₂_congr fun row _ => ?_
  split
  · next selected => exact ⟨fun same _ => same, fun same => same selected⟩
  · next other => exact ⟨fun _ selected => absurd selected other, fun _ => rfl⟩

/-- The rows keep their places, so a relation between the tables is one between each row and what it becomes. -/
theorem forall₂_updateWhere_iff {related : Row → Row → Prop} {matching : Row → Bool} {change : Row → Row}
    {rows : List Row} (refl : ∀ row, related row row) :
    List.Forall₂ related rows (updateWhere matching change rows) ↔
      ∀ row ∈ rows, matching row = true → related row (change row) := by
  unfold updateWhere
  rw [List.forall₂_map_right_iff, List.forall₂_same]
  refine forall₂_congr fun row _ => ?_
  split
  · next selected => exact ⟨fun moved _ => moved, fun moved => moved selected⟩
  · next other => exact ⟨fun _ selected => absurd selected other, fun _ => refl row⟩

end Keyed

/-- A filter that keeps every selected row keeps the selection. -/
theorem filter_filter_kept {Row : Type} (select keep : Row → Bool)
    (kept : ∀ row, select row = true → keep row = true) (rows : List Row) :
    (rows.filter keep).filter select = rows.filter select := by
  rw [List.filter_filter]
  apply List.filter_congr
  intro row _
  cases selected : select row
  · rfl
  · simp [kept row selected]

/-- A selection with one known row that all selected rows equal is the singleton. -/
theorem filter_eq_singleton {Row : Type} {select : Row → Bool} {rows : List Row} {row : Row}
    (distinct : rows.Nodup) (member : row ∈ rows) (selected : select row = true)
    (unique : ∀ other ∈ rows, select other = true → other = row) :
    rows.filter select = [row] := by
  have perm : (rows.filter select).Perm [row] := by
    rw [List.perm_ext_iff_of_nodup (distinct.filter _) (List.nodup_singleton row)]
    intro other
    rw [List.mem_filter, List.mem_singleton]
    constructor
    · exact fun both => unique other both.1 both.2
    · rintro rfl
      exact ⟨member, selected⟩
  exact List.perm_singleton.mp perm

section Supply
variable {supply later : Nat} {ids more : List Nat}

/-- The identifiers are distinct, and the supply has handed all of them out. -/
structure Allotted (supply : Nat) (ids : List Nat) : Prop where
  distinct : ids.Nodup
  spent : ∀ id ∈ ids, id < supply

/-- The write removes identifiers, or it adds the next one of the supply. -/
def Allots (supply later : Nat) (ids more : List Nat) : Prop :=
  more.Sublist ids ∨ more = ids ++ [supply] ∧ supply < later

theorem Allots.refl (supply later : Nat) (ids : List Nat) : Allots supply later ids ids := .inl (.refl ids)

/-- An identifier that is spent was there before. -/
theorem Allots.old (allots : Allots supply later ids more) {id : Nat} (inside : id ∈ more) (spent : id < supply) :
    id ∈ ids := by
  rcases allots with less | ⟨rfl, -⟩
  · exact less.subset inside
  · rcases List.mem_append.mp inside with stored | new
    · exact stored
    · exact absurd spent (List.mem_singleton.mp new ▸ Nat.lt_irrefl _)

theorem Allotted.step (allotted : Allotted supply ids) (allots : Allots supply later ids more) (grows : supply ≤ later) :
    Allotted later more := by
  rcases allots with less | ⟨rfl, grows⟩
  · exact ⟨allotted.distinct.sublist less, fun id inside => Nat.lt_of_lt_of_le (allotted.spent id (less.subset inside)) grows⟩
  · constructor
    · apply allotted.distinct.append (List.nodup_singleton _)
      intro id old new
      exact absurd (allotted.spent id old) (List.mem_singleton.mp new ▸ Nat.lt_irrefl _)
    · intro id inside
      rcases List.mem_append.mp inside with old | new
      · exact Nat.lt_trans (allotted.spent id old) grows
      · exact List.mem_singleton.mp new ▸ grows

end Supply

end Library
