import Messinger.Model.Tables

namespace Messinger
open Library

/-- This is the schema that the first migrations leave in an empty database. -/
def migratedSchema (count : Nat) : Option SqlSchema :=
  (Migrations.all.take count).foldlM (fun (schema : SqlSchema) migration => schema.applyAll migration.up) fun _ => none

/-- A run applies the migrations that are missing, and a revert takes the last one back. -/
def MigrationCommand.applied (applied : Nat) : MigrationCommand → Nat
  | .run => max applied Migrations.all.length
  | .revert => applied - 1

/-- Two schemas are compared table by table. -/
def sameSchema (first second : Option SqlSchema) : Bool :=
  match first, second with
  | some first, some second => decide (∀ table, first table = second table)
  | _, _ => false

theorem eq_of_sameSchema {first second : Option SqlSchema} (same : sameSchema first second = true) :
    first = second := by
  cases first with
  | none => cases same
  | some first =>
      cases second with
      | none => cases same
      | some second => exact congrArg some (funext (of_decide_eq_true same))

set_option maxRecDepth 100000 in
/-- All migrations succeed on an empty database. -/
theorem migratedSchema_all : (migratedSchema Migrations.all.length).isSome = true := by decide +kernel

set_option maxRecDepth 100000 in
/-- The statements that revert a migration restore the schema before it. -/
theorem migratedSchema_reverts : ∀ count : Fin Migrations.all.length,
    sameSchema ((migratedSchema (count + 1)).bind fun schema => schema.applyAll Migrations.all[count].down)
      (migratedSchema count) = true := by decide +kernel

/-- The rest of the migrations continues the schema of the first ones. -/
theorem migratedSchema_drop (count : Nat) :
    migratedSchema Migrations.all.length = (migratedSchema count).bind fun schema =>
      (Migrations.all.drop count).foldlM (fun (schema : SqlSchema) migration => schema.applyAll migration.up) schema := by
  unfold migratedSchema
  rw [List.take_length, ← Option.bind_eq_bind, ← List.foldlM_append, List.take_append_drop]

theorem migratedSchema_some (count : Nat) : ∃ schema, migratedSchema count = some schema := by
  have whole := migratedSchema_all
  rw [migratedSchema_drop count] at whole
  cases found : migratedSchema count with
  | none =>
      rw [found] at whole
      cases whole
  | some schema => exact ⟨schema, rfl⟩

/-- The listed constraints of a table are those that its specification has. -/
def describes (table : TableName) (spec : TableSpec TableName ColumnName SqlKind) : Bool :=
  decide (spec.keys.image KeySpec.columns =
    ((tableConstraints.unique.filter fun key => key.table = table).map UniqueKey.columns).toFinset) &&
  decide (spec.references.image ReferenceSpec.key =
    (tableConstraints.foreign.filter fun key => key.table = table).toFinset)

set_option maxRecDepth 100000 in
/-- The migrations leave a description of every table. -/
theorem migratedSchema_describes : (migratedSchema Migrations.all.length).map (fun schema =>
    decide (∀ table, (schema table).any (describes table) = true)) = some true := by decide +kernel

theorem tableConstraints_describe {schema : SqlSchema} (migrated : migratedSchema Migrations.all.length = some schema) :
    tableConstraints.Describe schema := by
  have checked := migratedSchema_describes
  rw [migrated] at checked
  have each : ∀ table, ∃ spec, schema table = some spec ∧
      spec.keys.image KeySpec.columns =
        ((tableConstraints.unique.filter fun key => key.table = table).map UniqueKey.columns).toFinset ∧
      spec.references.image ReferenceSpec.key =
        (tableConstraints.foreign.filter fun key => key.table = table).toFinset := by
    intro table
    obtain ⟨spec, found, same⟩ := (Option.any_eq_true _ _).mp (of_decide_eq_true (Option.some.inj checked) table)
    rw [describes, Bool.and_eq_true_iff, decide_eq_true_iff, decide_eq_true_iff] at same
    exact ⟨spec, found, same⟩
  constructor
  · intro key
    obtain ⟨spec, found, keys, -⟩ := each key.table
    have same := congrArg (key.columns ∈ ·) keys
    simp only [Finset.mem_image, List.mem_toFinset, List.mem_map, List.mem_filter, decide_eq_true_iff, eq_iff_iff] at same
    constructor
    · intro declared
      exact ⟨spec, found, same.mpr ⟨key, ⟨declared, rfl⟩, rfl⟩⟩
    · rintro ⟨other, again, stored⟩
      obtain rfl : spec = other := Option.some.inj (found.symm.trans again)
      obtain ⟨listed, ⟨declared, table⟩, columns⟩ := same.mp stored
      have equal : listed = key := by
        cases listed
        cases key
        rw [UniqueKey.mk.injEq]
        exact ⟨table, columns⟩
      rwa [equal] at declared
  · intro key
    obtain ⟨spec, found, -, references⟩ := each key.table
    have same := congrArg (key ∈ ·) references
    simp only [Finset.mem_image, List.mem_toFinset, List.mem_filter, decide_eq_true_iff, and_true, eq_iff_iff] at same
    constructor
    · exact fun declared => ⟨spec, found, same.mpr declared⟩
    · rintro ⟨other, again, stored⟩
      obtain rfl : spec = other := Option.some.inj (found.symm.trans again)
      exact same.mp stored
  · intro table spec found reference listed
    obtain ⟨other, again, -, references⟩ := each table
    obtain rfl : spec = other := Option.some.inj (found.symm.trans again)
    have inside := Finset.mem_image_of_mem ReferenceSpec.key listed
    rw [references, List.mem_toFinset, List.mem_filter, decide_eq_true_iff] at inside
    exact inside.2

/-- The database has the first migrations and the schema that they leave. -/
structure MigratedDatabase.Sound (database : MigratedDatabase) : Prop where
  schema : migratedSchema database.applied = some database.schema
  applied : database.applied ≤ Migrations.all.length

theorem MigratedDatabase.Sound.run {database : MigratedDatabase} (sound : database.Sound) :
    ∃ next, database.run = some next ∧ next.Sound ∧ next.applied = max database.applied Migrations.all.length := by
  obtain ⟨schema, last⟩ := migratedSchema_some Migrations.all.length
  have continued := migratedSchema_drop database.applied
  rw [sound.schema, last, Option.bind_some] at continued
  have full : max database.applied Migrations.all.length = Migrations.all.length := Nat.max_eq_right sound.applied
  refine ⟨⟨schema, max database.applied Migrations.all.length⟩, ?_, ⟨?_, Nat.le_of_eq full⟩, rfl⟩
  · rw [MigratedDatabase.run, ← continued]
    rfl
  · change migratedSchema (max database.applied Migrations.all.length) = some schema
    rw [full, last]

theorem MigratedDatabase.Sound.revert {database : MigratedDatabase} (sound : database.Sound) :
    ∃ next, database.revert = some next ∧ next.Sound ∧ next.applied = database.applied - 1 := by
  obtain ⟨schema, applied⟩ := database
  cases applied with
  | zero => exact ⟨⟨schema, 0⟩, rfl, sound, rfl⟩
  | succ applied =>
      have inside : applied < Migrations.all.length := sound.applied
      have undone := eq_of_sameSchema (migratedSchema_reverts ⟨applied, inside⟩)
      obtain ⟨before, found⟩ := migratedSchema_some applied
      have after : migratedSchema (applied + 1) = some schema := sound.schema
      simp only [after, found, Option.bind_some] at undone
      have restored : schema.applyAll Migrations.all[applied].down = some before := undone
      refine ⟨⟨before, applied⟩, ?_, ⟨found, Nat.le_of_lt inside⟩, rfl⟩
      simp only [MigratedDatabase.revert, List.getElem?_eq_getElem inside, Option.bind_eq_bind, Option.bind_some,
        restored]
      rfl

/-- Each command succeeds on a sound database and leaves one. -/
theorem MigratedDatabase.Sound.execute {database : MigratedDatabase} (sound : database.Sound)
    (command : MigrationCommand) :
    ∃ next, database.execute command = some next ∧ next.Sound ∧ next.applied = command.applied database.applied := by
  cases command with
  | run => exact sound.run
  | revert => exact sound.revert

/-- No order of runs and reverts fails, and the schema depends only on the migrations that are applied. -/
theorem migrations_restore (commands : List MigrationCommand) :
    ∃ database, commands.foldlM MigratedDatabase.execute {} = some database ∧
      database.applied = commands.foldl MigrationCommand.applied 0 ∧
      migratedSchema database.applied = some database.schema := by
  have general : ∀ (commands : List MigrationCommand) (start : MigratedDatabase), start.Sound →
      ∃ database, commands.foldlM MigratedDatabase.execute start = some database ∧ database.Sound ∧
        database.applied = commands.foldl MigrationCommand.applied start.applied := by
    intro commands
    induction commands with
    | nil => exact fun start sound => ⟨start, rfl, sound, rfl⟩
    | cons command rest ih =>
        intro start sound
        obtain ⟨next, done, kept, applied⟩ := sound.execute command
        obtain ⟨database, finished, last, total⟩ := ih next kept
        refine ⟨database, ?_, last, ?_⟩
        · rw [List.foldlM_cons, done]
          exact finished
        · rw [total, applied]
          rfl
  obtain ⟨database, done, sound, applied⟩ := general commands {} ⟨rfl, Nat.zero_le _⟩
  exact ⟨database, done, applied, sound.schema⟩

end Messinger
