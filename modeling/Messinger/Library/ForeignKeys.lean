import Mathlib.Data.List.Nodup
import Mathlib.Logic.Function.Basic
import Mathlib.Tactic.Common

namespace Library

/-- A deletion is refused because of a row that refers to it, or it deletes that row, or it clears the reference. -/
inductive DeleteRule where
  | noAction
  | cascade
  | setNull
  deriving DecidableEq, Repr

structure ForeignKey (Table Column : Type) where
  table : Table
  column : Column
  target : Table
  targetColumn : Column
  onDelete : DeleteRule
  deriving DecidableEq

structure UniqueKey (Table Column : Type) where
  table : Table
  columns : List Column
  deriving DecidableEq

structure Constraints (Table Column : Type) where
  unique : List (UniqueKey Table Column)
  foreign : List (ForeignKey Table Column)
  deriving DecidableEq

/-- A record has a value or NULL in each column. -/
abbrev Record (Column Value : Type) := Column → Option Value

abbrev Database (Table Column Value : Type) := Table → List (Record Column Value)

section Relational
variable {Table Column Value : Type}

/-- A record with NULL in one of the columns has no key. -/
def UniqueKey.keyOf (key : UniqueKey Table Column) (record : Record Column Value) : Option (List Value) :=
  key.columns.mapM record

def UniqueKey.Holds (key : UniqueKey Table Column) (database : Database Table Column Value) : Prop :=
  ((database key.table).filterMap key.keyOf).Nodup

def ForeignKey.Refers (key : ForeignKey Table Column) (record target : Record Column Value) : Prop :=
  ∃ value, record key.column = some value ∧ target key.targetColumn = some value

/-- A reference that is not NULL has its target. -/
def ForeignKey.Holds (key : ForeignKey Table Column) (database : Database Table Column Value) : Prop :=
  ∀ record ∈ database key.table, ∀ value, record key.column = some value →
    ∃ target ∈ database key.target, target key.targetColumn = some value

structure Constraints.Hold (constraints : Constraints Table Column) (database : Database Table Column Value) :
    Prop where
  unique : ∀ key ∈ constraints.unique, key.Holds database
  foreign : ∀ key ∈ constraints.foreign, key.Holds database

variable {constraints : Constraints Table Column} {database : Database Table Column Value}

/-- A database without records meets all constraints. -/
theorem Constraints.hold_empty (empty : ∀ table, database table = []) : constraints.Hold database where
  unique key _ := by
    rw [UniqueKey.Holds, empty]
    exact List.nodup_nil
  foreign key _ record stored := by
    rw [empty] at stored
    cases stored

/-- Records with distinct and new keys keep a unique key. -/
theorem UniqueKey.nodup_append {key : UniqueKey Table Column} {old records : List (Record Column Value)}
    (before : (old.filterMap key.keyOf).Nodup) (distinct : (records.filterMap key.keyOf).Nodup)
    (free : ∀ record ∈ old, ∀ other ∈ records, ∀ values, key.keyOf record = some values →
      key.keyOf other ≠ some values) : ((old ++ records).filterMap key.keyOf).Nodup := by
  rw [List.filterMap_append]
  refine before.append distinct ?_
  intro values oldKey newKey
  obtain ⟨record, stored, keyed⟩ := List.mem_filterMap.mp oldKey
  obtain ⟨other, added, same⟩ := List.mem_filterMap.mp newKey
  exact free record stored other added values keyed same

theorem UniqueKey.keyOf_column (table : Table) (column : Column) (record : Record Column Value) :
    UniqueKey.keyOf ⟨table, [column]⟩ record = (record column).map fun value => [value] := by
  cases value : record column with
  | none => simp [keyOf, value]
  | some found => simp [keyOf, value]

theorem UniqueKey.keyOf_update [DecidableEq Column] {column : Column} {key : UniqueKey Table Column} (apart : column ∉ key.columns)
    (record : Record Column Value) (value : Option Value) :
    key.keyOf (Function.update record column value) = key.keyOf record := by
  unfold UniqueKey.keyOf
  generalize key.columns = columns at apart
  induction columns with
  | nil => rfl
  | cons first rest ih =>
      rw [List.mapM_cons, List.mapM_cons, ih (List.not_mem_of_not_mem_cons apart),
        Function.update_of_ne (List.ne_of_not_mem_cons apart).symm]

section Insert
variable [DecidableEq Table]

def insertRecords (table : Table) (records : List (Record Column Value)) (database : Database Table Column Value) :
    Database Table Column Value :=
  Function.update database table (database table ++ records)

@[simp] theorem insertRecords_same (table : Table) (records : List (Record Column Value)) :
    insertRecords table records database table = database table ++ records := Function.update_self ..

theorem insertRecords_other {table other : Table} (different : other ≠ table)
    (records : List (Record Column Value)) : insertRecords table records database other = database other :=
  Function.update_of_ne different ..

/-- An insert keeps all records. -/
theorem mem_insertRecords {table other : Table} {records : List (Record Column Value)}
    {record : Record Column Value} (stored : record ∈ database other) :
    record ∈ insertRecords table records database other := by
  by_cases same : other = table
  · subst same
    rw [insertRecords_same]
    exact List.mem_append_left _ stored
  · rw [insertRecords_other same]
    exact stored

/-- The database checks the unique keys of the table and the references of the new records. -/
theorem Constraints.Hold.insert (hold : constraints.Hold database) {table : Table}
    {records : List (Record Column Value)}
    (unique : ∀ key ∈ constraints.unique, key.table = table →
      ((database table ++ records).filterMap key.keyOf).Nodup)
    (foreign : ∀ key ∈ constraints.foreign, key.table = table → ∀ record ∈ records, ∀ value,
      record key.column = some value → ∃ target ∈ database key.target, target key.targetColumn = some value) :
    constraints.Hold (insertRecords table records database) where
  unique key declared := by
    unfold UniqueKey.Holds
    by_cases same : key.table = table
    · rw [same, insertRecords_same]
      exact unique key declared same
    · rw [insertRecords_other same]
      exact hold.unique key declared
  foreign key declared record stored value present := by
    have found : ∃ target ∈ database key.target, target key.targetColumn = some value := by
      by_cases same : key.table = table
      · rw [same, insertRecords_same] at stored
        obtain old | new := List.mem_append.mp stored
        · rw [← same] at old
          exact hold.foreign key declared record old value present
        · exact foreign key declared same record new value present
      · rw [insertRecords_other same] at stored
        exact hold.foreign key declared record stored value present
    obtain ⟨target, there, equal⟩ := found
    exact ⟨target, mem_insertRecords there, equal⟩

/-- A new record has new keys and refers to records that are there. -/
theorem Constraints.Hold.insertRecord [DecidableEq Column] (hold : constraints.Hold database) {table : Table}
    {record : Record Column Value}
    (unique : ∀ key ∈ constraints.unique.filter (fun key => key.table = table), ∀ old ∈ database table, ∀ values,
      key.keyOf old = some values → key.keyOf record ≠ some values)
    (foreign : ∀ key ∈ constraints.foreign.filter (fun key => key.table = table), ∀ value,
      record key.column = some value → ∃ target ∈ database key.target, target key.targetColumn = some value) :
    constraints.Hold (insertRecords table [record] database) := by
  refine hold.insert ?_ ?_
  · intro key declared same
    have before := hold.unique key declared
    rw [UniqueKey.Holds, same] at before
    refine UniqueKey.nodup_append before ?_ ?_
    · rw [List.filterMap_cons, List.filterMap_nil]
      cases key.keyOf record with
      | none => exact List.nodup_nil
      | some values => exact List.nodup_singleton values
    · intro old stored other added
      obtain rfl := List.mem_singleton.mp added
      exact unique key (List.mem_filter.mpr ⟨declared, decide_eq_true same⟩) old stored
  · intro key declared same other added
    obtain rfl := List.mem_singleton.mp added
    exact foreign key (List.mem_filter.mpr ⟨declared, decide_eq_true same⟩)

/-- Records that no key refers to can go. -/
theorem Constraints.Hold.remove (hold : constraints.Hold database) {table : Table}
    {records : List (Record Column Value)} (kept : List.Sublist records (database table))
    (untargeted : ∀ key ∈ constraints.foreign, key.target ≠ table) :
    constraints.Hold (Function.update database table records) where
  unique key declared := by
    unfold UniqueKey.Holds
    by_cases same : key.table = table
    · rw [same, Function.update_self]
      have before := hold.unique key declared
      rw [UniqueKey.Holds, same] at before
      exact before.sublist (kept.filterMap key.keyOf)
    · rw [Function.update_of_ne same]
      exact hold.unique key declared
  foreign key declared record stored value present := by
    rw [Function.update_of_ne (untargeted key declared)]
    refine hold.foreign key declared record ?_ value present
    by_cases same : key.table = table
    · rw [same, Function.update_self] at stored
      rw [same]
      exact kept.subset stored
    · rwa [Function.update_of_ne same] at stored

end Insert

section SetColumn
variable [DecidableEq Table] [DecidableEq Column]

/-- One column of a table takes new values. -/
def setColumn (table : Table) (column : Column) (change : Record Column Value → Option Value)
    (database : Database Table Column Value) : Database Table Column Value :=
  Function.update database table
    ((database table).map fun record => Function.update record column (change record))

variable {table : Table} {column : Column} {change : Record Column Value → Option Value}

@[simp] theorem setColumn_same : setColumn table column change database table =
    (database table).map fun record => Function.update record column (change record) := Function.update_self ..

theorem setColumn_other {other : Table} (different : other ≠ table) :
    setColumn table column change database other = database other := Function.update_of_ne different ..

/-- A record keeps the values of the other columns. -/
theorem mem_setColumn {other : Table} {record : Record Column Value} (stored : record ∈ database other)
    {wanted : Column} (apart : ¬(other = table ∧ wanted = column)) :
    ∃ after ∈ setColumn table column change database other, after wanted = record wanted := by
  by_cases same : other = table
  · subst same
    rw [setColumn_same]
    refine ⟨_, List.mem_map_of_mem stored, ?_⟩
    exact Function.update_of_ne (fun equal => apart ⟨rfl, equal⟩) ..
  · rw [setColumn_other same]
    exact ⟨record, stored, rfl⟩

/-- The database checks the keys that the column takes part in. -/
theorem Constraints.Hold.setColumn (hold : constraints.Hold database)
    (untargeted : ∀ key ∈ constraints.foreign, ¬(key.target = table ∧ key.targetColumn = column))
    (unique : ∀ key ∈ constraints.unique, key.table = table → column ∈ key.columns →
      (((database table).map fun record => Function.update record column (change record)).filterMap
        key.keyOf).Nodup)
    (foreign : ∀ key ∈ constraints.foreign, key.table = table → key.column = column →
      ∀ record ∈ database table, ∀ value, change record = some value →
        ∃ target ∈ database key.target, target key.targetColumn = some value) :
    constraints.Hold (setColumn table column change database) where
  unique key declared := by
    unfold UniqueKey.Holds
    by_cases same : key.table = table
    · rw [same, setColumn_same]
      by_cases touched : column ∈ key.columns
      · exact unique key declared same touched
      · have kept : (fun record => key.keyOf (Function.update record column (change record))) = key.keyOf := by
          funext record
          exact UniqueKey.keyOf_update touched record _
        rw [List.filterMap_map, Function.comp_def, kept, ← same]
        exact hold.unique key declared
    · rw [setColumn_other same]
      exact hold.unique key declared
  foreign key declared record stored value present := by
    have found : ∃ target ∈ database key.target, target key.targetColumn = some value := by
      by_cases same : key.table = table
      · rw [same, setColumn_same] at stored
        obtain ⟨old, inside, rfl⟩ := List.mem_map.mp stored
        by_cases touched : key.column = column
        · rw [touched, Function.update_self] at present
          exact foreign key declared same touched old inside value present
        · rw [Function.update_of_ne touched] at present
          rw [← same] at inside
          exact hold.foreign key declared old inside value present
      · rw [setColumn_other same] at stored
        exact hold.foreign key declared record stored value present
    obtain ⟨target, there, equal⟩ := found
    obtain ⟨after, inside, kept⟩ := mem_setColumn there (untargeted key declared)
    exact ⟨after, inside, kept.trans equal⟩

end SetColumn

section Delete
variable (constraints database)

/-- A deletion takes its records, and every record that refers to one of them through a cascading key. -/
inductive Doomed (chosen : Table → Record Column Value → Prop) : Table → Record Column Value → Prop
  | chosen {table : Table} {record : Record Column Value} (stored : record ∈ database table)
      (picked : chosen table record) : Doomed chosen table record
  | cascade {key : ForeignKey Table Column} {record target : Record Column Value}
      (declared : key ∈ constraints.foreign) (rule : key.onDelete = .cascade)
      (stored : record ∈ database key.table) (gone : Doomed chosen key.target target)
      (refers : key.Refers record target) : Doomed chosen key.table record

/-- The deletion clears this column of the record. -/
def Clears (chosen : Table → Record Column Value → Prop) (table : Table) (record : Record Column Value)
    (column : Column) : Prop :=
  ∃ key ∈ constraints.foreign, key.onDelete = .setNull ∧ key.table = table ∧ key.column = column ∧
    ∃ target, Doomed constraints database chosen key.target target ∧ key.Refers record target

open Classical in
noncomputable def clearedRecord (chosen : Table → Record Column Value → Prop) (table : Table)
    (record : Record Column Value) : Record Column Value :=
  fun column => if Clears constraints database chosen table record column then none else record column

open Classical in
/-- This is what the foreign keys make of a DELETE of the chosen records. -/
noncomputable def deleteRecords (chosen : Table → Record Column Value → Prop) : Database Table Column Value :=
  fun table => ((database table).filter fun record => ¬ Doomed constraints database chosen table record).map
    (clearedRecord constraints database chosen table)

/-- The database refuses the deletion. -/
def Refuses (chosen : Table → Record Column Value → Prop) : Prop :=
  ∃ key ∈ constraints.foreign, key.onDelete = .noAction ∧ ∃ record ∈ database key.table,
    ¬ Doomed constraints database chosen key.table record ∧
      ∃ target, Doomed constraints database chosen key.target target ∧ key.Refers record target

/-- No column that a key refers to is ever cleared. -/
def Constraints.Anchored : Prop :=
  ∀ key ∈ constraints.foreign, ∀ other ∈ constraints.foreign, other.onDelete = .setNull →
    ¬(other.table = key.target ∧ other.column = key.targetColumn)

variable {constraints database} {chosen : Table → Record Column Value → Prop}

theorem Doomed.stored {table : Table} {record : Record Column Value}
    (gone : Doomed constraints database chosen table record) : record ∈ database table := by
  cases gone with
  | chosen stored _ => exact stored
  | cascade _ _ stored _ _ => exact stored

/-- A doomed record is chosen, or it cascades from a doomed target. -/
theorem doomed_iff {table : Table} {record : Record Column Value} :
    Doomed constraints database chosen table record ↔ record ∈ database table ∧ (chosen table record ∨
      ∃ key ∈ constraints.foreign, key.onDelete = .cascade ∧ key.table = table ∧
        ∃ target, Doomed constraints database chosen key.target target ∧ key.Refers record target) := by
  constructor
  · intro gone
    cases gone with
    | chosen stored picked => exact ⟨stored, .inl picked⟩
    | cascade declared rule stored gone refers => exact ⟨stored, .inr ⟨_, declared, rule, rfl, _, gone, refers⟩⟩
  · rintro ⟨stored, picked | ⟨key, declared, rule, rfl, target, gone, refers⟩⟩
    · exact .chosen stored picked
    · exact .cascade declared rule stored gone refers

/-- A table of rows loses the doomed ones, and the others change by what is cleared. -/
theorem deleteRecords_map {Row : Type} {table : Table} {rows : List Row} {record : Row → Record Column Value}
    (stored : database table = rows.map record) {keep : Row → Bool} {change : Row → Row}
    (doomed : ∀ row ∈ rows, Doomed constraints database chosen table (record row) ↔ keep row = false)
    (cleared : ∀ row ∈ rows, clearedRecord constraints database chosen table (record row) = record (change row)) :
    deleteRecords constraints database chosen table = ((rows.filter keep).map change).map record := by
  classical
  rw [deleteRecords, stored, List.filter_map, List.map_map, List.map_map]
  have same : rows.filter ((fun found => !decide (Doomed constraints database chosen table found)) ∘ record) =
      rows.filter keep := by
    apply List.filter_congr
    intro row inside
    rw [Function.comp_apply, Bool.eq_iff_iff, Bool.not_eq_true', decide_eq_false_iff_not, doomed row inside,
      Bool.not_eq_false]
  simp only [decide_not]
  rw [same]
  apply List.map_congr_left
  intro row kept
  exact cleared row (List.mem_of_mem_filter kept)

/-- A table whose columns are never cleared only loses the doomed rows. -/
theorem deleteRecords_filter {Row : Type} {table : Table} {rows : List Row} {record : Row → Record Column Value}
    (stored : database table = rows.map record) {keep : Row → Bool}
    (doomed : ∀ row ∈ rows, Doomed constraints database chosen table (record row) ↔ keep row = false)
    (uncleared : ∀ row ∈ rows, clearedRecord constraints database chosen table (record row) = record row) :
    deleteRecords constraints database chosen table = (rows.filter keep).map record := by
  exact (deleteRecords_map stored doomed uncleared).trans (congrArg (List.map record) (List.map_id _))

theorem clearedRecord_some {table : Table} {record : Record Column Value} {column : Column} {value : Value}
    (present : clearedRecord constraints database chosen table record column = some value) :
    record column = some value ∧ ¬ Clears constraints database chosen table record column := by
  unfold clearedRecord at present
  split at present
  · cases present
  · next kept => exact ⟨present, kept⟩

theorem clearedRecord_kept {table : Table} {record : Record Column Value} {column : Column}
    (kept : ¬ Clears constraints database chosen table record column) :
    clearedRecord constraints database chosen table record column = record column := if_neg kept

theorem mem_deleteRecords {table : Table} {record : Record Column Value} :
    record ∈ deleteRecords constraints database chosen table ↔
      ∃ old ∈ database table, ¬ Doomed constraints database chosen table old ∧
        clearedRecord constraints database chosen table old = record := by
  simp only [deleteRecords, List.mem_map, List.mem_filter, decide_eq_true_eq, and_assoc]

/-- A key of a record with fewer values is a key of the record. -/
theorem UniqueKey.keyOf_of_le (key : UniqueKey Table Column) {record less : Record Column Value} {values : List Value}
    (below : ∀ column value, less column = some value → record column = some value)
    (keyed : key.keyOf less = some values) : key.keyOf record = some values := by
  unfold UniqueKey.keyOf at keyed ⊢
  generalize key.columns = columns at keyed
  induction columns generalizing values with
  | nil => exact keyed
  | cons first rest ih =>
      rw [List.mapM_cons] at keyed ⊢
      obtain ⟨value, present, tail⟩ := Option.bind_eq_some_iff.mp keyed
      obtain ⟨others, found, last⟩ := Option.bind_eq_some_iff.mp tail
      rw [below first value present, ih found]
      exact last

/-- Removing records and clearing columns takes keys away and adds none. -/
theorem UniqueKey.nodup_cleared (key : UniqueKey Table Column) (change : Record Column Value → Record Column Value)
    (below : ∀ record column value, change record column = some value → record column = some value)
    (keep : Record Column Value → Bool) {records : List (Record Column Value)}
    (distinct : (records.filterMap key.keyOf).Nodup) :
    (((records.filter keep).map change).filterMap key.keyOf).Nodup := by
  refine distinct.sublist ?_
  rw [List.filterMap_map]
  refine .trans ?_ ((List.filter_sublist (p := keep)).filterMap key.keyOf)
  generalize records.filter keep = kept
  induction kept with
  | nil => exact .slnil
  | cons record rest ih =>
      rw [List.filterMap_cons, List.filterMap_cons]
      cases after : key.keyOf (change record) with
      | none =>
          rw [Function.comp_apply, after]
          cases key.keyOf record with
          | none => exact ih
          | some values => exact ih.cons values
      | some values =>
          rw [Function.comp_apply, after, key.keyOf_of_le (below record) after]
          exact ih.cons_cons values

/-- A deletion that the database does not refuse keeps every constraint. -/
theorem Constraints.Hold.delete (hold : constraints.Hold database) (anchored : constraints.Anchored)
    (allowed : ¬ Refuses constraints database chosen) :
    constraints.Hold (deleteRecords constraints database chosen) where
  unique key declared :=
    key.nodup_cleared _ (fun _ _ _ present => (clearedRecord_some present).1) _ (hold.unique key declared)
  foreign key declared record stored value present := by
    obtain ⟨old, inside, kept, rfl⟩ := mem_deleteRecords.mp stored
    obtain ⟨before, uncleared⟩ := clearedRecord_some present
    obtain ⟨target, there, equal⟩ := hold.foreign key declared old inside value before
    have refers : key.Refers old target := ⟨value, before, equal⟩
    -- the target stays, because each rule of the key speaks against its deletion
    have stays : ¬ Doomed constraints database chosen key.target target := by
      intro gone
      cases rule : key.onDelete with
      | noAction => exact allowed ⟨key, declared, rule, old, inside, kept, target, gone, refers⟩
      | cascade => exact kept (.cascade declared rule inside gone refers)
      | setNull => exact uncleared ⟨key, declared, rule, rfl, rfl, target, gone, refers⟩
    refine ⟨_, mem_deleteRecords.mpr ⟨target, there, stays, rfl⟩, ?_⟩
    rw [clearedRecord_kept, equal]
    rintro ⟨other, listed, rule, table, column, -⟩
    exact anchored key declared other listed rule ⟨table, column⟩

end Delete

end Relational

end Library
