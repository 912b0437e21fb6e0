import Mathlib.Data.Finset.Image
import Mathlib.Data.Fintype.Basic
import Messinger.Library.ForeignKeys

namespace Library

structure ColumnSpec (Column Kind : Type) where
  name : Column
  kind : Kind
  nullable : Bool := true
  deriving DecidableEq

/-- A primary key or a unique constraint has an index of its own. -/
structure KeySpec (Column : Type) where
  name : String
  columns : List Column
  primary : Bool := false
  deriving DecidableEq

structure IndexSpec (Column : Type) where
  name : String
  columns : List Column
  deriving DecidableEq

structure ReferenceSpec (Table Column : Type) where
  name : String
  key : ForeignKey Table Column
  deriving DecidableEq

/-- The order of the columns and of the constraints does not matter. -/
structure TableSpec (Table Column Kind : Type) where
  columns : Finset (ColumnSpec Column Kind) := ∅
  keys : Finset (KeySpec Column) := ∅
  references : Finset (ReferenceSpec Table Column) := ∅
  indexes : Finset (IndexSpec Column) := ∅
  deriving DecidableEq

abbrev Schema (Table Column Kind : Type) := Table → Option (TableSpec Table Column Kind)

/-- The records meet all keys and all references of the schema. -/
structure Schema.Permits {Table Column Kind Value : Type} (schema : Schema Table Column Kind)
    (database : Database Table Column Value) : Prop where
  keys : ∀ table spec, schema table = some spec → ∀ key ∈ spec.keys, UniqueKey.Holds ⟨table, key.columns⟩ database
  references : ∀ table spec, schema table = some spec → ∀ reference ∈ spec.references,
    reference.key.Holds database

/-- The constraints are those of the schema, no more and no less. -/
structure Constraints.Describe {Table Column Kind : Type} (constraints : Constraints Table Column)
    (schema : Schema Table Column Kind) : Prop where
  keys : ∀ key, key ∈ constraints.unique ↔
    ∃ spec, schema key.table = some spec ∧ ∃ stored ∈ spec.keys, stored.columns = key.columns
  references : ∀ key, key ∈ constraints.foreign ↔
    ∃ spec, schema key.table = some spec ∧ ∃ reference ∈ spec.references, reference.key = key
  home : ∀ table spec, schema table = some spec → ∀ reference ∈ spec.references, reference.key.table = table

/-- The schema permits the records exactly when they meet the constraints. -/
theorem Constraints.Describe.permits_iff {Table Column Kind Value : Type} {constraints : Constraints Table Column}
    {schema : Schema Table Column Kind} (describe : constraints.Describe schema)
    {database : Database Table Column Value} : schema.Permits database ↔ constraints.Hold database := by
  constructor
  · intro permits
    constructor
    · intro key declared
      obtain ⟨spec, found, stored, listed, same⟩ := (describe.keys key).mp declared
      have holds := permits.keys key.table spec found stored listed
      rwa [same] at holds
    · intro key declared
      obtain ⟨spec, found, reference, listed, rfl⟩ := (describe.references key).mp declared
      exact permits.references _ spec found reference listed
  · intro hold
    constructor
    · intro table spec found key listed
      exact hold.unique _ ((describe.keys ⟨table, key.columns⟩).mpr ⟨spec, found, key, listed, rfl⟩)
    · intro table spec found reference listed
      refine hold.foreign _ ((describe.references reference.key).mpr ⟨spec, ?_, reference, listed, rfl⟩)
      rw [describe.home table spec found reference listed, found]

/-- These are statements of the data definition language, without `CASCADE`. -/
inductive Statement (Table Column Kind : Type) where
  | createTable (table : Table) (columns : List (ColumnSpec Column Kind)) (keys : List (KeySpec Column))
  | dropTable (table : Table)
  | addColumn (table : Table) (column : ColumnSpec Column Kind)
  | dropColumn (table : Table) (column : Column)
  | alterNullable (table : Table) (column : Column) (nullable : Bool)
  | addForeignKey (reference : ReferenceSpec Table Column)
  | dropConstraint (table : Table) (name : String)
  | createIndex (table : Table) (index : IndexSpec Column)
  | dropIndex (name : String)

section Apply
variable {Table Column Kind : Type} [DecidableEq Table] [Fintype Table] [DecidableEq Column] [DecidableEq Kind]

namespace TableSpec
variable (spec : TableSpec Table Column Kind)

def hasColumn (column : Column) : Bool := decide (∃ stored ∈ spec.columns, stored.name = column)

/-- An index and the index of a key share their names. -/
def hasIndex (name : String) : Bool :=
  decide (∃ key ∈ spec.keys, key.name = name) || decide (∃ index ∈ spec.indexes, index.name = name)

def hasConstraint (name : String) : Bool :=
  decide (∃ key ∈ spec.keys, key.name = name) || decide (∃ reference ∈ spec.references, reference.name = name)

/-- A foreign key of this table points to the columns. -/
def refersTo (target : Table) (column : Column) : Bool :=
  decide (∃ reference ∈ spec.references, reference.key.target = target ∧ reference.key.targetColumn = column)

end TableSpec

namespace Schema
variable (schema : Schema Table Column Kind)

/-- Some table satisfies the test. -/
def anyTable (test : Table → TableSpec Table Column Kind → Bool) : Bool :=
  decide (∃ table, (schema table).any (test table) = true)

/-- The statement changes one table, and fails when that is missing. -/
def alter (table : Table) (change : TableSpec Table Column Kind → Option (TableSpec Table Column Kind)) :
    Option (Schema Table Column Kind) := do
  let spec ← schema table
  let changed ← change spec
  return Function.update schema table (some changed)

/-- A statement that fails leaves no schema, because its migration is rolled back. -/
def apply : Statement Table Column Kind → Option (Schema Table Column Kind)
  | .createTable table columns keys =>
      if (schema table).isNone ∧ (columns.map ColumnSpec.name).Nodup then
        some (Function.update schema table (some { columns := columns.toFinset, keys := keys.toFinset }))
      else none
  | .dropTable table =>
      if (schema table).isSome ∧
          schema.anyTable (fun other spec => decide (other ≠ table) &&
            decide (∃ reference ∈ spec.references, reference.key.target = table)) = false then
        some (Function.update schema table none)
      else none
  | .addColumn table column =>
      schema.alter table fun spec =>
        if spec.hasColumn column.name then none else some { spec with columns := insert column spec.columns }
  | .dropColumn table column =>
      if schema.anyTable fun _ spec => spec.refersTo table column then none
      else
        schema.alter table fun spec =>
          if spec.hasColumn column then
            some { columns := spec.columns.filter fun stored => stored.name ≠ column
                   keys := spec.keys.filter fun key => column ∉ key.columns
                   references := spec.references.filter fun reference => reference.key.column ≠ column
                   indexes := spec.indexes.filter fun index => column ∉ index.columns }
          else none
  | .alterNullable table column nullable =>
      schema.alter table fun spec =>
        if spec.hasColumn column ∧ ¬(nullable = true ∧ ∃ key ∈ spec.keys, key.primary = true ∧ column ∈ key.columns) then
          some { spec with
            columns := spec.columns.image fun stored => if stored.name = column then { stored with nullable } else stored }
        else none
  | .addForeignKey reference =>
      schema.alter reference.key.table fun spec =>
        if spec.hasConstraint reference.name = false ∧ spec.hasColumn reference.key.column = true ∧
            (schema reference.key.target).any (fun target =>
              decide (∃ key ∈ target.keys, key.columns = [reference.key.targetColumn])) = true then
          some { spec with references := insert reference spec.references }
        else none
  | .dropConstraint table name =>
      schema.alter table fun spec =>
        if ∃ reference ∈ spec.references, reference.name = name then
          some { spec with references := spec.references.filter fun reference => reference.name ≠ name }
        else if ∃ key ∈ spec.keys, key.name = name ∧
            schema.anyTable (fun _ other => key.columns.any (other.refersTo table)) = false then
          some { spec with keys := spec.keys.filter fun key => key.name ≠ name }
        else none
  | .createIndex table index =>
      if schema.anyTable fun _ spec => spec.hasIndex index.name then none
      else
        schema.alter table fun spec =>
          if index.columns.all spec.hasColumn then some { spec with indexes := insert index spec.indexes } else none
  | .dropIndex name =>
      if schema.anyTable fun _ spec => decide (∃ index ∈ spec.indexes, index.name = name) then
        some fun table => (schema table).map fun spec =>
          { spec with indexes := spec.indexes.filter fun index => index.name ≠ name }
      else none

def applyAll (statements : List (Statement Table Column Kind)) : Option (Schema Table Column Kind) :=
  statements.foldlM apply schema

end Schema

end Apply

end Library
