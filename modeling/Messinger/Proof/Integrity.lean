import Messinger.Proof.Cascades

namespace Messinger
open Library

/-- The supply has handed out every identifier in the tables, and every object of a pending upload. -/
structure Supplied (database : Database TableName ColumnName SqlValue) (nextId : Uuid) : Prop where
  ids : ∀ table, ∀ record ∈ database table, ∀ id, record .id = some (.uuid id) → id < nextId
  objects : ∀ record ∈ database .pendingUploads, ∀ key, record .storageKey = some (.storageKey key) →
    key.object < nextId

namespace Supplied
variable {database : Database TableName ColumnName SqlValue} {nextId later : Uuid}

theorem mono (supplied : Supplied database nextId) (grows : nextId ≤ later) : Supplied database later where
  ids table record stored id named := Nat.lt_of_lt_of_le (supplied.ids table record stored id named) grows
  objects record stored key named := Nat.lt_of_lt_of_le (supplied.objects record stored key named) grows

theorem insert (supplied : Supplied database nextId) {table : TableName} {records : List SqlRecord}
    (ids : ∀ record ∈ records, ∀ id, record .id = some (.uuid id) → id < nextId)
    (objects : ∀ record ∈ records, ∀ key, record .storageKey = some (.storageKey key) → key.object < nextId) :
    Supplied (insertRecords table records database) nextId where
  ids other record stored id named := by
    by_cases same : other = table
    · subst same
      rw [insertRecords_same] at stored
      obtain old | new := List.mem_append.mp stored
      · exact supplied.ids other record old id named
      · exact ids record new id named
    · rw [insertRecords_other same] at stored
      exact supplied.ids other record stored id named
  objects record stored key named := by
    by_cases same : TableName.pendingUploads = table
    · subst same
      rw [insertRecords_same] at stored
      obtain old | new := List.mem_append.mp stored
      · exact supplied.objects record old key named
      · exact objects record new key named
    · rw [insertRecords_other same] at stored
      exact supplied.objects record stored key named

/-- Another column changes neither identifiers nor objects. -/
theorem setColumn (supplied : Supplied database nextId) {table : TableName} {column : ColumnName}
    {change : SqlRecord → Option SqlValue} (id : column ≠ .id) (storageKey : column ≠ .storageKey) :
    Supplied (setColumn table column change database) nextId := by
  have from_ : ∀ other, ∀ record ∈ Library.setColumn table column change database other,
      ∃ old ∈ database other, record .id = old .id ∧ record .storageKey = old .storageKey := by
    intro other record stored
    by_cases same : other = table
    · subst same
      rw [setColumn_same] at stored
      obtain ⟨old, inside, rfl⟩ := List.mem_map.mp stored
      exact ⟨old, inside, Function.update_of_ne id.symm .., Function.update_of_ne storageKey.symm ..⟩
    · rw [setColumn_other same] at stored
      exact ⟨record, stored, rfl, rfl⟩
  constructor
  · intro other record stored id named
    obtain ⟨old, inside, same, -⟩ := from_ other record stored
    exact supplied.ids other old inside id (same.symm.trans named)
  · intro record stored key named
    obtain ⟨old, inside, -, same⟩ := from_ .pendingUploads record stored
    exact supplied.objects old inside key (same.symm.trans named)

theorem delete (supplied : Supplied database nextId) {chosen : TableName → SqlRecord → Prop} :
    Supplied (deleteRecords tableConstraints database chosen) nextId where
  ids table record stored id named := by
    obtain ⟨old, inside, -, rfl⟩ := mem_deleteRecords.mp stored
    exact supplied.ids table old inside id (clearedRecord_some named).1
  objects record stored key named := by
    obtain ⟨old, inside, -, rfl⟩ := mem_deleteRecords.mp stored
    exact supplied.objects old inside key (clearedRecord_some named).1

end Supplied

/-- The tables meet every constraint, and new identifiers are new. -/
structure Integral (store : Store) : Prop where
  constraints : tableConstraints.Hold store.database
  supplied : Supplied store.database store.nextId

section Rows
variable {store : Store}

theorem refers_user {userId : Uuid} (present : store.hasUser userId = true) :
    ∃ target ∈ store.database .users, target .id = some (.uuid userId) := by
  obtain ⟨user, inside, same⟩ := List.any_eq_true.mp present
  exact ⟨user.record, List.mem_map_of_mem inside, congrArg (some ∘ SqlValue.uuid) (beq_iff_eq.mp same)⟩

theorem refers_conversation {conversationId : Uuid} (present : store.hasConversation conversationId = true) :
    ∃ target ∈ store.database .conversations, target .id = some (.uuid conversationId) := by
  obtain ⟨conversation, inside, same⟩ := List.any_eq_true.mp present
  exact ⟨conversation.record, List.mem_map_of_mem inside, congrArg (some ∘ SqlValue.uuid) (beq_iff_eq.mp same)⟩

theorem refers_message {messageId : Uuid} (present : ∃ message ∈ store.messages, message.id = messageId) :
    ∃ target ∈ store.database .messages, target .id = some (.uuid messageId) := by
  obtain ⟨message, inside, rfl⟩ := present
  exact ⟨message.record, List.mem_map_of_mem inside, rfl⟩

/-- An identifier that comes from the supply is in no record. -/
theorem Integral.fresh_key (before : Integral store) {table : TableName} {record : SqlRecord}
    (id : record .id = some (.uuid store.nextId)) {old : SqlRecord} (stored : old ∈ store.database table)
    {values : List SqlValue} (keyed : UniqueKey.keyOf ⟨table, [.id]⟩ old = some values) :
    UniqueKey.keyOf ⟨table, [.id]⟩ record ≠ some values := by
  rw [UniqueKey.keyOf_column, Option.map_eq_some_iff] at keyed
  obtain ⟨value, named, rfl⟩ := keyed
  rw [UniqueKey.keyOf_column, id]
  intro same
  obtain rfl : SqlValue.uuid store.nextId = value := by simpa using same
  exact Nat.lt_irrefl _ (before.supplied.ids table old stored _ named)

/-- A new row takes the next identifier, has new keys, and refers to rows that are there. -/
theorem Integral.insertRow (before : Integral store) {next : Store} (table : TableName) (record : SqlRecord)
    (written : next.database = insertRecords table [record] store.database) (later : store.nextId < next.nextId)
    (id : record .id = some (.uuid store.nextId))
    (object : ∀ key, record .storageKey = some (.storageKey key) → key.object < next.nextId)
    (unique : ∀ key ∈ tableConstraints.unique.filter (fun key => key.table = table), key.columns ≠ [.id] →
      ∀ old ∈ store.database table, ∀ values, key.keyOf old = some values → key.keyOf record ≠ some values)
    (foreign : ∀ key ∈ tableConstraints.foreign.filter (fun key => key.table = table), ∀ value,
      record key.column = some value → ∃ target ∈ store.database key.target, target key.targetColumn = some value) :
    Integral next where
  constraints := by
    rw [written]
    refine before.constraints.insertRecord ?_ foreign
    intro key listed old stored values keyed
    by_cases primary : key.columns = [.id]
    · have same : key = ⟨table, [.id]⟩ := by
        obtain ⟨-, selected⟩ := List.mem_filter.mp listed
        obtain ⟨other, columns⟩ := key
        rw [show other = table from of_decide_eq_true selected, show columns = [.id] from primary]
      rw [same] at keyed ⊢
      exact before.fresh_key id stored keyed
    · exact unique key listed primary old stored values keyed
  supplied := by
    rw [written]
    refine (before.supplied.mono (Nat.le_of_lt later)).insert ?_ ?_
    · intro other added found named
      obtain rfl := List.mem_singleton.mp added
      rw [id] at named
      rwa [← SqlValue.uuid_of_some named]
    · intro other added key named
      obtain rfl := List.mem_singleton.mp added
      exact object key named

/-- A write that keeps the records keeps the constraints. -/
theorem Integral.of_database (before : Integral store) {next : Store} (written : next.database = store.database)
    (later : store.nextId ≤ next.nextId) : Integral next where
  constraints := by
    rw [written]
    exact before.constraints
  supplied := by
    rw [written]
    exact before.supplied.mono later

/-- Rows that nothing refers to can go. -/
theorem Integral.remove (before : Integral store) {next : Store} (table : TableName) {Row : Type} {rows : List Row}
    {record : Row → SqlRecord} {keep : Row → Bool} (rowsOf : store.database table = rows.map record)
    (written : next.database = Function.update store.database table ((rows.filter keep).map record))
    (same : next.nextId = store.nextId) (leaf : ∀ key ∈ tableConstraints.foreign, key.target ≠ table) :
    Integral next := by
  have kept : List.Sublist ((rows.filter keep).map record) (store.database table) := by
    rw [rowsOf]
    exact List.filter_sublist.map record
  have old : ∀ other, ∀ found ∈ next.database other, found ∈ store.database other := by
    intro other found stored
    rw [written] at stored
    by_cases equal : other = table
    · subst equal
      rw [Function.update_self] at stored
      exact kept.subset stored
    · rwa [Function.update_of_ne equal] at stored
  constructor
  · rw [written]
    exact before.constraints.remove kept leaf
  · rw [same]
    exact ⟨fun other found stored => before.supplied.ids other found (old other found stored),
      fun found stored => before.supplied.objects found (old _ found stored)⟩

/-- No foreign key refuses a deletion. -/
theorem not_refuses (database : Database TableName ColumnName SqlValue) (chosen : TableName → SqlRecord → Prop) :
    ¬ Refuses tableConstraints database chosen := by
  rintro ⟨key, declared, rule, -⟩
  have permits : ∀ key ∈ tableConstraints.foreign, key.onDelete ≠ .noAction := by decide
  exact permits key declared rule

/-- The deletion is allowed, and it erases what the foreign keys make of the chosen records. -/
structure Cascades (store : Store) (chosen : TableName → SqlRecord → Prop) (next : Store) : Prop where
  allowed : ¬ Refuses tableConstraints store.database chosen
  erased : ∃ gone, Erases store chosen gone ∧ next = store.erase gone
  database : next.database = deleteRecords tableConstraints store.database chosen

/-- Each deletion of the service takes with it what the foreign keys say. -/
structure CascadesEverywhere (store : Store) : Prop where
  users : ∀ doomed, Cascades store (chosenRows .users store.users User.record doomed) (store.deleteUsers doomed)
  conversations : ∀ doomed, Cascades store
    (chosenRows .conversations store.conversations Conversation.record fun row => doomed row.id)
    (store.deleteConversations doomed)
  messages : ∀ doomed, Cascades store (chosenRows .messages store.messages Message.record doomed)
    (store.deleteMessages doomed)

theorem Erases.cascades {chosen : TableName → SqlRecord → Prop} {gone : TableName → Uuid → Bool} {next : Store}
    (erases : Erases store chosen gone) (holds : tableConstraints.Hold store.database)
    (same : next = store.erase gone) : Cascades store chosen next where
  allowed := not_refuses _ chosen
  erased := ⟨gone, erases, same⟩
  database := by
    rw [same]
    exact erases.database holds

/-- A deletion keeps every constraint. -/
theorem Integral.of_cascades (before : Integral store) {next : Store} {chosen : TableName → SqlRecord → Prop}
    (cascades : Cascades store chosen next) (same : next.nextId = store.nextId) : Integral next where
  constraints := by
    rw [cascades.database]
    refine before.constraints.delete ?_ cascades.allowed
    unfold Constraints.Anchored
    decide
  supplied := by
    rw [cascades.database, same]
    exact before.supplied.delete

section Deletions
variable (holds : tableConstraints.Hold store.database)
include holds

theorem cascades_users (doomed : User → Bool) :
    Cascades store (chosenRows .users store.users User.record doomed) (store.deleteUsers doomed) :=
  (erases_users holds doomed).cascades holds (deleteUsers_erase holds doomed)

theorem cascades_conversations (doomed : Uuid → Bool) :
    Cascades store (chosenRows .conversations store.conversations Conversation.record fun row => doomed row.id)
      (store.deleteConversations doomed) :=
  (erases_conversations holds doomed).cascades holds (deleteConversations_erase holds doomed)

theorem cascades_messages (doomed : Message → Bool) :
    Cascades store (chosenRows .messages store.messages Message.record doomed) (store.deleteMessages doomed) :=
  (erases_messages holds doomed).cascades holds (deleteMessages_erase holds doomed)

end Deletions

end Rows

/-- Every reference of the record that is not NULL has its target. -/
def Resolves (database : Database TableName ColumnName SqlValue) (record : SqlRecord)
    (key : ForeignKey TableName ColumnName) : Prop :=
  ∀ value, record key.column = some value → ∃ target ∈ database key.target, target key.targetColumn = some value

section Inserts
variable {store : Store}

theorem resolves {record : SqlRecord} {table target : TableName} {column : ColumnName} {rule : DeleteRule} {id : Uuid}
    (named : record column = some (.uuid id)) (there : ∃ row ∈ store.database target, row .id = some (.uuid id)) :
    Resolves store.database record (reference table column target rule) := by
  intro value present
  obtain ⟨row, inside, equal⟩ := there
  exact ⟨row, inside, equal.trans (named.symm.trans present)⟩

theorem resolves_null {record : SqlRecord} {key : ForeignKey TableName ColumnName} (null : record key.column = none) :
    Resolves store.database record key := by
  intro value present
  rw [null] at present
  cases present

/-- New rows take consecutive identifiers, and refer to rows that are there. -/
theorem Integral.insertRows (before : Integral store) {next : Store} (table : TableName) (records : List SqlRecord)
    (written : next.database = insertRecords table records store.database)
    (later : next.nextId = store.nextId + records.length)
    (ids : records.map (fun record => record .id) =
      (List.range' 0 records.length).map fun index => some (.uuid (store.nextId + index)))
    (objects : ∀ record ∈ records, record .storageKey = none)
    (unique : ∀ key ∈ tableConstraints.unique, key.table = table → key.columns = [.id])
    (foreign : ∀ key ∈ tableConstraints.foreign, key.table = table → ∀ record ∈ records,
      Resolves store.database record key) : Integral next where
  constraints := by
    rw [written]
    refine before.constraints.insert ?_ foreign
    intro key declared same
    have primary : key = ⟨table, [.id]⟩ := by
      obtain ⟨other, columns⟩ := key
      rw [show other = table from same, show columns = [.id] from unique _ declared same]
    have old := before.constraints.unique key declared
    rw [UniqueKey.Holds, same] at old
    have keys : records.filterMap key.keyOf =
        (List.range' 0 records.length).map fun index => [SqlValue.uuid (store.nextId + index)] := by
      have same : key.keyOf = (fun value : Option SqlValue => value.map fun value => [value]) ∘
          fun record : SqlRecord => record .id := by
        funext record
        rw [primary, UniqueKey.keyOf_column]
        rfl
      rw [same, ← List.filterMap_map, ids, List.filterMap_map, ← List.filterMap_eq_map]
      rfl
    refine UniqueKey.nodup_append old ?_ ?_
    · rw [keys]
      refine List.Nodup.map ?_ List.nodup_range'
      intro first second same
      injection same with same
      exact Nat.add_left_cancel (SqlValue.uuid_of_some (congrArg some same))
    · intro row stored added inside values keyed again
      have listed : values ∈ records.filterMap key.keyOf := List.mem_filterMap.mpr ⟨added, inside, again⟩
      rw [keys] at listed
      obtain ⟨index, -, rfl⟩ := List.mem_map.mp listed
      rw [primary, UniqueKey.keyOf_column, Option.map_eq_some_iff] at keyed
      obtain ⟨value, named, same⟩ := keyed
      obtain rfl : value = .uuid (store.nextId + index) := by simpa using same
      exact Nat.not_lt.mpr (Nat.le_add_right _ _) (before.supplied.ids table row stored _ named)
  supplied := by
    rw [written, later]
    refine (before.supplied.mono (Nat.le_add_right _ _)).insert ?_ ?_
    · intro record inside id named
      have listed : some (SqlValue.uuid id) ∈ records.map fun record => record .id :=
        List.mem_map.mpr ⟨record, inside, named⟩
      rw [ids] at listed
      obtain ⟨index, bounded, same⟩ := List.mem_map.mp listed
      rw [← SqlValue.uuid_of_some same]
      have below := (List.mem_range'_1.mp bounded).2
      rw [Nat.zero_add] at below
      exact Nat.add_lt_add_left below _
    · intro record inside key named
      rw [objects record inside] at named
      cases named

/-- This table has no key besides its identifiers. -/
theorem onlyPrimary {table : TableName} {P : UniqueKey TableName ColumnName → Prop}
    (only : ∀ key ∈ tableConstraints.unique.filter (fun key => key.table = table), key.columns = [.id]) :
    ∀ key ∈ tableConstraints.unique.filter (fun key => key.table = table), key.columns ≠ [.id] → P key :=
  fun key listed other => absurd (only key listed) other

/-- The key of the record is new when its value is. -/
theorem fresh_column {Row : Type} {rows : List Row} {record : Row → SqlRecord} {table : TableName}
    {column : ColumnName} {added : SqlRecord} (rowsOf : store.database table = rows.map record)
    (free : ∀ row ∈ rows, ∀ value, added column = some value → record row column ≠ some value) :
    ∀ old ∈ store.database table, ∀ values, UniqueKey.keyOf ⟨table, [column]⟩ old = some values →
      UniqueKey.keyOf ⟨table, [column]⟩ added ≠ some values := by
  intro old stored values keyed again
  rw [rowsOf] at stored
  obtain ⟨row, inside, rfl⟩ := List.mem_map.mp stored
  rw [UniqueKey.keyOf_column, Option.map_eq_some_iff] at keyed again
  obtain ⟨value, named, rfl⟩ := keyed
  obtain ⟨other, same, equal⟩ := again
  obtain rfl : other = value := by simpa using equal
  exact free row inside other same named

/-- A text that may be missing is new when no row has it. -/
theorem fresh_text {Row : Type} {rows : List Row} {record : Row → SqlRecord} {table : TableName}
    {column : ColumnName} {added : SqlRecord} {texts : Row → Option Text} {text : Option Text}
    (rowsOf : store.database table = rows.map record) (names : ∀ row, record row column = (texts row).map .text)
    (named : added column = text.map .text) (free : ∀ row ∈ rows, text.isSome = true → texts row ≠ text) :
    ∀ old ∈ store.database table, ∀ values, UniqueKey.keyOf ⟨table, [column]⟩ old = some values →
      UniqueKey.keyOf ⟨table, [column]⟩ added ≠ some values := by
  refine fresh_column rowsOf ?_
  intro row inside value present same
  have present_text : text.isSome = true := by
    rw [named] at present
    rw [← Option.isSome_map, present]
    rfl
  refine free row inside present_text (Option.map_injective (fun _ _ => SqlValue.text.inj) ?_)
  rw [← names, ← named, same, present]

end Inserts

end Messinger
