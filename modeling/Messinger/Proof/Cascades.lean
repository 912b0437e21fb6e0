import Messinger.Model.Tables

namespace Messinger
open Library

/-- Some rows of one table are chosen. -/
def chosenRows {Row : Type} (table : TableName) (rows : List Row) (record : Row → SqlRecord) (doomed : Row → Bool) :
    TableName → SqlRecord → Prop :=
  fun other found => other = table ∧ ∃ row ∈ rows, doomed row = true ∧ record row = found

/-- Foreign keys point to these tables. -/
def TableName.isTarget : TableName → Bool
  | .users => true
  | .conversations => true
  | .messages => true
  | _ => false

/-- This is what is left when the targets with these identifiers go. -/
def Store.erase (gone : TableName → Uuid → Bool) (store : Store) : Store :=
  { store with
    users := store.users.filter fun user => !gone .users user.id
    sessions := store.sessions.filter fun session => !gone .users session.userId
    conversations := (store.conversations.filter fun conversation => !gone .conversations conversation.id).map
      fun conversation =>
        if conversation.lastMessageId.any (gone .messages) then { conversation with lastMessageId := none }
        else conversation
    members := store.members.filter fun member =>
      !(gone .conversations member.conversationId || gone .users member.userId)
    events := store.events.filter fun event => !gone .conversations event.conversationId
    invitations := store.invitations.filter fun invitation =>
      !(gone .conversations invitation.conversationId || (gone .users invitation.actorId ||
        gone .users invitation.targetId))
    messages := (store.messages.filter fun message => !gone .messages message.id).map fun message =>
      if message.senderId.any (gone .users) then { message with senderId := none } else message
    deliveries := store.deliveries.filter fun delivery => !gone .messages delivery.messageId
    attachments := store.attachments.filter fun attachment => !gone .messages attachment.messageId
    pendingUploads := store.pendingUploads.filter fun upload => !gone .users upload.userId
    pushSubscriptions := store.pushSubscriptions.filter fun subscription => !gone .users subscription.userId }

/-- The deletion takes exactly the targets with these identifiers. -/
structure Erases (store : Store) (chosen : TableName → SqlRecord → Prop) (gone : TableName → Uuid → Bool) : Prop where
  roots : ∀ table record, chosen table record → table.isTarget = true
  targets : ∀ table, table.isTarget = true → ∀ record ∈ store.database table, ∀ id, record .id = some (.uuid id) →
    (Doomed tableConstraints store.database chosen table record ↔ gone table id = true)

/-- Every foreign key points to the identifiers of a target. -/
theorem foreign_target {key : ForeignKey TableName ColumnName} (declared : key ∈ tableConstraints.foreign) :
    key.target.isTarget = true ∧ key.targetColumn = .id := by
  revert key
  decide

theorem SqlValue.uuid_of_some {first second : Uuid}
    (same : (some (SqlValue.uuid first) : Option SqlValue) = some (.uuid second)) : first = second := by
  injection same with same
  injection same

section Erases
variable {store : Store} {chosen : TableName → SqlRecord → Prop} {gone : TableName → Uuid → Bool}

theorem Store.target_id {table : TableName} (target : table.isTarget = true) {record : SqlRecord}
    (stored : record ∈ store.database table) : ∃ id, record .id = some (.uuid id) := by
  cases table with
  | users =>
      obtain ⟨user, -, rfl⟩ := List.mem_map.mp stored
      exact ⟨user.id, rfl⟩
  | conversations =>
      obtain ⟨conversation, -, rfl⟩ := List.mem_map.mp stored
      exact ⟨conversation.id, rfl⟩
  | messages =>
      obtain ⟨message, -, rfl⟩ := List.mem_map.mp stored
      exact ⟨message.id, rfl⟩
  | _ => cases target

/-- A reference points to a doomed target exactly when its identifier goes. -/
theorem Erases.refers_iff (erases : Erases store chosen gone) (holds : tableConstraints.Hold store.database)
    {key : ForeignKey TableName ColumnName} (declared : key ∈ tableConstraints.foreign) {record : SqlRecord}
    (stored : record ∈ store.database key.table) :
    (∃ target, Doomed tableConstraints store.database chosen key.target target ∧ key.Refers record target) ↔
      ∃ id, record key.column = some (.uuid id) ∧ gone key.target id = true := by
  obtain ⟨isTarget, column⟩ := foreign_target declared
  constructor
  · rintro ⟨target, doomed, value, leaves, arrives⟩
    obtain ⟨id, named⟩ := Store.target_id isTarget doomed.stored
    rw [column, named] at arrives
    rw [← arrives] at leaves
    exact ⟨id, leaves, (erases.targets key.target isTarget target doomed.stored id named).mp doomed⟩
  · rintro ⟨id, leaves, goes⟩
    obtain ⟨target, there, arrives⟩ := holds.foreign key declared record stored _ leaves
    rw [column] at arrives
    refine ⟨target, (erases.targets key.target isTarget target there id arrives).mpr goes, _, leaves, ?_⟩
    rw [column, arrives]

/-- These foreign keys make records of the table follow their targets. -/
def cascadesOf (table : TableName) : List (ForeignKey TableName ColumnName) :=
  tableConstraints.foreign.filter fun key => key.onDelete = .cascade ∧ key.table = table

theorem Erases.doomed_iff (erases : Erases store chosen gone) (holds : tableConstraints.Hold store.database)
    {table : TableName} {record : SqlRecord} (stored : record ∈ store.database table) :
    Doomed tableConstraints store.database chosen table record ↔ chosen table record ∨
      ∃ key ∈ cascadesOf table, ∃ id, record key.column = some (.uuid id) ∧ gone key.target id = true := by
  rw [Library.doomed_iff, and_iff_right stored]
  refine or_congr_right ⟨?_, ?_⟩
  · rintro ⟨key, declared, rule, rfl, follows⟩
    exact ⟨key, List.mem_filter.mpr ⟨declared, decide_eq_true ⟨rule, rfl⟩⟩,
      (erases.refers_iff holds declared stored).mp follows⟩
  · rintro ⟨key, listed, follows⟩
    obtain ⟨declared, selected⟩ := List.mem_filter.mp listed
    obtain ⟨rule, rfl⟩ := of_decide_eq_true selected
    exact ⟨key, declared, rule, rfl, (erases.refers_iff holds declared stored).mpr follows⟩

/-- Only conversations and messages have columns that are cleared. -/
theorem clearedRecord_apart {table : TableName} (conversations : table ≠ .conversations)
    (messages : table ≠ .messages) (record : SqlRecord) :
    clearedRecord tableConstraints store.database chosen table record = record := by
  have only : ∀ key ∈ tableConstraints.foreign, key.onDelete = .setNull →
      key.table = .conversations ∨ key.table = .messages := by decide
  funext column
  refine clearedRecord_kept fun clears => ?_
  obtain ⟨key, declared, rule, rfl, -⟩ := clears
  exact (only key declared rule).elim conversations messages

theorem refers_gone_iff {test : Uuid → Bool} (named : Option Uuid) :
    (∃ id, named.map SqlValue.uuid = some (.uuid id) ∧ test id = true) ↔ named.any test = true := by
  cases named with
  | none => simp
  | some id => simp

/-- A table with one key of this rule loses the references to what goes. -/
theorem Erases.cleared (erases : Erases store chosen gone) (holds : tableConstraints.Hold store.database)
    {table : TableName} (column : ColumnName) (target : TableName)
    (declared : reference table column target .setNull ∈ tableConstraints.foreign)
    (only : ∀ key ∈ tableConstraints.foreign, key.onDelete = .setNull → key.table = table →
      key = reference table column target .setNull) {record after : SqlRecord}
    (stored : record ∈ store.database table) {named : Option Uuid} (names : record column = named.map .uuid)
    (others : ∀ other, other ≠ column → after other = record other)
    (changes : after column = if named.any (gone target) = true then none else record column) :
    clearedRecord tableConstraints store.database chosen table record = after := by
  have clears : ∀ other, Clears tableConstraints store.database chosen table record other ↔
      other = column ∧ named.any (gone target) = true := by
    have goes := erases.refers_iff holds declared stored
    change _ ↔ ∃ id, record column = some (.uuid id) ∧ gone target id = true at goes
    rw [names, refers_gone_iff] at goes
    intro other
    constructor
    · rintro ⟨key, listed, rule, same, rfl, follows⟩
      obtain rfl := only key listed rule same
      exact ⟨rfl, goes.mp follows⟩
    · rintro ⟨rfl, follows⟩
      exact ⟨_, declared, rfl, rfl, rfl, goes.mpr follows⟩
  funext other
  by_cases same : other = column
  · subst same
    rw [changes]
    split
    · next follows => exact if_pos ((clears other).mpr ⟨rfl, follows⟩)
    · next stays => exact clearedRecord_kept fun found => stays ((clears other).mp found).2
  · rw [others other same]
    exact clearedRecord_kept fun found => same ((clears other).mp found).1

/-- A record goes with any of the targets that it follows. -/
def follows (gone : TableName → Uuid → Bool) (table : TableName) (record : SqlRecord) : Prop :=
  ∃ key ∈ cascadesOf table, ∃ id, record key.column = some (.uuid id) ∧ gone key.target id = true

theorem follows_one {table target : TableName} {column : ColumnName} {record : SqlRecord} {id : Uuid}
    (only : cascadesOf table = [reference table column target .cascade]) (refers : record column = some (.uuid id)) :
    follows gone table record ↔ gone target id = true := by
  unfold follows
  rw [only]
  simp only [List.mem_singleton, exists_eq_left, reference, refers, Option.some.injEq, SqlValue.uuid.injEq,
    exists_eq_left']

/-- The sessions, uploads and subscriptions of a user, and what belongs to a message or a conversation. -/
theorem Erases.doomed_leaf (erases : Erases store chosen gone) (holds : tableConstraints.Hold store.database)
    {table : TableName} (leaf : table.isTarget = false) {record : SqlRecord}
    (stored : record ∈ store.database table) :
    Doomed tableConstraints store.database chosen table record ↔ follows gone table record := by
  rw [erases.doomed_iff holds stored]
  refine or_iff_right fun picked => ?_
  rw [erases.roots table record picked] at leaf
  cases leaf

/-- The rows of a table that follows one target are filtered by it. -/
theorem Erases.leaf_table (erases : Erases store chosen gone) (holds : tableConstraints.Hold store.database)
    {Row : Type} {table target : TableName} {column : ColumnName} {rows : List Row} {record : Row → SqlRecord}
    {refers : Row → Uuid} (leaf : table.isTarget = false) (rowsOf : store.database table = rows.map record)
    (only : cascadesOf table = [reference table column target .cascade])
    (points : ∀ row, record row column = some (.uuid (refers row))) :
    (rows.filter fun row => !gone target (refers row)).map record =
      deleteRecords tableConstraints store.database chosen table := by
  have stored : ∀ row ∈ rows, record row ∈ store.database table := by
    intro row inside
    rw [rowsOf]
    exact List.mem_map_of_mem inside
  refine (deleteRecords_filter rowsOf ?_ ?_).symm
  · intro row inside
    rw [erases.doomed_leaf holds leaf (stored row inside), follows_one only (points row), Bool.not_eq_false']
  · refine fun row inside => clearedRecord_apart ?_ ?_ (record row)
    · rintro rfl
      cases leaf
    · rintro rfl
      cases leaf

theorem Erases.members (erases : Erases store chosen gone) (holds : tableConstraints.Hold store.database) :
    (store.erase gone).members.map ConversationMember.record =
      deleteRecords tableConstraints store.database chosen .conversationMembers := by
  have rowsOf : store.database .conversationMembers = store.members.map ConversationMember.record := rfl
  have keys : cascadesOf .conversationMembers =
    [reference .conversationMembers .conversationId .conversations .cascade,
      reference .conversationMembers .userId .users .cascade] := rfl
  have stored : ∀ member ∈ store.members, member.record ∈ store.database .conversationMembers :=
    fun member inside => List.mem_map_of_mem inside
  refine (deleteRecords_filter rowsOf ?_ ?_).symm
  · intro member inside
    rw [erases.doomed_leaf holds rfl (stored member inside), follows, keys, Bool.not_eq_false', Bool.or_eq_true]
    simp [reference, ConversationMember.record]
  · exact fun member inside => clearedRecord_apart (by decide) (by decide) member.record

theorem Erases.invitations (erases : Erases store chosen gone) (holds : tableConstraints.Hold store.database) :
    (store.erase gone).invitations.map GroupInvitation.record =
      deleteRecords tableConstraints store.database chosen .groupInvitations := by
  have rowsOf : store.database .groupInvitations = store.invitations.map GroupInvitation.record := rfl
  have keys : cascadesOf .groupInvitations =
    [reference .groupInvitations .conversationId .conversations .cascade,
      reference .groupInvitations .actorId .users .cascade,
      reference .groupInvitations .targetId .users .cascade] := rfl
  have stored : ∀ invitation ∈ store.invitations, invitation.record ∈ store.database .groupInvitations :=
    fun invitation inside => List.mem_map_of_mem inside
  refine (deleteRecords_filter rowsOf ?_ ?_).symm
  · intro invitation inside
    rw [erases.doomed_leaf holds rfl (stored invitation inside), follows, keys, Bool.not_eq_false', Bool.or_eq_true,
      Bool.or_eq_true]
    simp [reference, GroupInvitation.record]
  · exact fun invitation inside => clearedRecord_apart (by decide) (by decide) invitation.record

theorem Erases.conversations (erases : Erases store chosen gone) (holds : tableConstraints.Hold store.database) :
    (store.erase gone).conversations.map Conversation.record =
      deleteRecords tableConstraints store.database chosen .conversations := by
  have rowsOf : store.database .conversations = store.conversations.map Conversation.record := rfl
  have stored : ∀ conversation ∈ store.conversations, conversation.record ∈ store.database .conversations :=
    fun conversation inside => List.mem_map_of_mem inside
  refine (deleteRecords_map rowsOf ?_ ?_).symm
  · intro conversation inside
    rw [erases.targets .conversations rfl _ (stored conversation inside) conversation.id rfl, Bool.not_eq_false']
  · intro conversation inside
    refine erases.cleared holds .lastMessageId .messages (by decide) (by decide)
      (stored conversation inside) rfl ?_ ?_
    · intro other different
      split
      · cases other with
        | lastMessageId => exact absurd rfl different
        | _ => rfl
      · rfl
    · split <;> rfl

theorem Erases.messages (erases : Erases store chosen gone) (holds : tableConstraints.Hold store.database) :
    (store.erase gone).messages.map Message.record =
      deleteRecords tableConstraints store.database chosen .messages := by
  have rowsOf : store.database .messages = store.messages.map Message.record := rfl
  have stored : ∀ message ∈ store.messages, message.record ∈ store.database .messages :=
    fun message inside => List.mem_map_of_mem inside
  refine (deleteRecords_map rowsOf ?_ ?_).symm
  · intro message inside
    rw [erases.targets .messages rfl _ (stored message inside) message.id rfl, Bool.not_eq_false']
  · intro message inside
    refine erases.cleared holds .senderId .users (by decide) (by decide)
      (stored message inside) rfl ?_ ?_
    · intro other different
      split
      · cases other with
        | senderId => exact absurd rfl different
        | _ => rfl
      · rfl
    · split <;> rfl

theorem Erases.users (erases : Erases store chosen gone) :
    (store.erase gone).users.map User.record = deleteRecords tableConstraints store.database chosen .users := by
  have rowsOf : store.database .users = store.users.map User.record := rfl
  refine (deleteRecords_filter rowsOf ?_ ?_).symm
  · intro user inside
    have stored : user.record ∈ store.database .users := List.mem_map_of_mem inside
    rw [erases.targets .users rfl _ stored user.id rfl, Bool.not_eq_false']
  · exact fun user inside => clearedRecord_apart (by decide) (by decide) user.record

/-- The foreign keys erase what the targets leave behind. -/
theorem Erases.database (erases : Erases store chosen gone) (holds : tableConstraints.Hold store.database) :
    (store.erase gone).database = deleteRecords tableConstraints store.database chosen := by
  funext table
  cases table with
  | users => exact erases.users
  | conversations => exact erases.conversations holds
  | messages => exact erases.messages holds
  | conversationMembers => exact erases.members holds
  | groupInvitations => exact erases.invitations holds
  | userSessions => exact erases.leaf_table holds rfl rfl rfl fun _ => rfl
  | messageDeliveries => exact erases.leaf_table holds rfl rfl rfl fun _ => rfl
  | conversationEvents => exact erases.leaf_table holds rfl rfl rfl fun _ => rfl
  | messageAttachments => exact erases.leaf_table holds rfl rfl rfl fun _ => rfl
  | pendingUploads => exact erases.leaf_table holds rfl rfl rfl fun _ => rfl
  | pushSubscriptions => exact erases.leaf_table holds rfl rfl rfl fun _ => rfl

end Erases

section Deletions
variable {store : Store} (holds : tableConstraints.Hold store.database)
include holds

/-- A table with a primary key `id` has distinct identifiers. -/
theorem distinct_ids {Row : Type} {table : TableName} {rows : List Row} {record : Row → SqlRecord} {id : Row → Uuid}
    (declared : ⟨table, [.id]⟩ ∈ tableConstraints.unique) (rowsOf : store.database table = rows.map record)
    (ids : ∀ row, record row .id = some (.uuid (id row))) : (rows.map id).Nodup := by
  have keys := holds.unique _ declared
  unfold UniqueKey.Holds at keys
  have same : (rows.map record).filterMap (UniqueKey.keyOf ⟨table, [.id]⟩) =
      (rows.map id).map fun id => [SqlValue.uuid id] := by
    rw [List.filterMap_map, List.map_map, ← List.filterMap_eq_map]
    apply List.filterMap_congr
    intro row _
    rw [Function.comp_apply, UniqueKey.keyOf_column, ids]
    rfl
  rw [rowsOf, same] at keys
  exact keys.of_map _

/-- A chosen row goes by its identifier. -/
theorem chosenRows_iff {Row : Type} {table : TableName} {rows : List Row} {record : Row → SqlRecord} {id : Row → Uuid}
    (declared : ⟨table, [.id]⟩ ∈ tableConstraints.unique) (rowsOf : store.database table = rows.map record)
    (ids : ∀ row, record row .id = some (.uuid (id row))) {doomed : Row → Bool} {row : Row} (inside : row ∈ rows) :
    chosenRows table rows record doomed table (record row) ↔ doomed row = true := by
  constructor
  · rintro ⟨-, other, there, goes, same⟩
    have equal : id other = id row := by
      have named := congrFun same .id
      rw [ids, ids] at named
      exact SqlValue.uuid_of_some named
    rwa [List.inj_on_of_nodup_map (distinct_ids holds declared rowsOf ids) there inside equal] at goes
  · exact fun goes => ⟨rfl, row, inside, goes, rfl⟩

omit holds in
theorem not_chosenRows {Row : Type} {table other : TableName} (different : other ≠ table) {rows : List Row}
    {record : Row → SqlRecord} {doomed : Row → Bool} {found : SqlRecord} :
    ¬ chosenRows table rows record doomed other found := fun picked => different picked.1

omit holds in
/-- Users follow nothing. -/
theorem doomed_users_iff {chosen : TableName → SqlRecord → Prop} {record : SqlRecord}
    (stored : record ∈ store.database .users) :
    Doomed tableConstraints store.database chosen .users record ↔ chosen .users record := by
  have none : ∀ key ∈ tableConstraints.foreign, key.table ≠ .users := by decide
  rw [Library.doomed_iff, and_iff_right stored]
  refine or_iff_left ?_
  rintro ⟨key, declared, -, same, -⟩
  exact none key declared same

omit holds in
/-- Conversations follow nothing. -/
theorem doomed_conversations_iff {chosen : TableName → SqlRecord → Prop} {record : SqlRecord}
    (stored : record ∈ store.database .conversations) :
    Doomed tableConstraints store.database chosen .conversations record ↔ chosen .conversations record := by
  have none : ∀ key ∈ tableConstraints.foreign, key.onDelete = .cascade → key.table ≠ .conversations := by decide
  rw [Library.doomed_iff, and_iff_right stored]
  refine or_iff_left ?_
  rintro ⟨key, declared, rule, same, -⟩
  exact none key declared rule same

omit holds in
/-- Messages follow their conversations. -/
theorem doomed_messages_iff {chosen : TableName → SqlRecord → Prop} {record : SqlRecord}
    (stored : record ∈ store.database .messages) :
    Doomed tableConstraints store.database chosen .messages record ↔ chosen .messages record ∨
      ∃ target, Doomed tableConstraints store.database chosen .conversations target ∧
        (reference .messages .conversationId .conversations .cascade).Refers record target := by
  have only : ∀ key ∈ tableConstraints.foreign, key.onDelete = .cascade → key.table = .messages →
      key = reference .messages .conversationId .conversations .cascade := by decide
  rw [Library.doomed_iff, and_iff_right stored]
  refine or_congr_right ⟨?_, ?_⟩
  · rintro ⟨key, declared, rule, same, follows⟩
    obtain rfl := only key declared rule same
    exact follows
  · rintro ⟨target, follows⟩
    exact ⟨reference .messages .conversationId .conversations .cascade, by decide, rfl, rfl, target, follows⟩

/-- The deletion takes messages alone. -/
def goneMessages (store : Store) (doomed : Message → Bool) : TableName → Uuid → Bool
  | .messages, messageId => store.messages.any fun message => message.id == messageId && doomed message
  | _, _ => false

/-- The deletion takes conversations and their messages. -/
def goneConversations (store : Store) (doomed : Uuid → Bool) : TableName → Uuid → Bool
  | .conversations, conversationId => doomed conversationId
  | .messages, messageId =>
      store.messages.any fun message => message.id == messageId && doomed message.conversationId
  | _, _ => false

/-- The deletion takes users. -/
def goneUsers (store : Store) (doomed : User → Bool) : TableName → Uuid → Bool
  | .users, userId => store.users.any fun user => user.id == userId && doomed user
  | _, _ => false

omit holds in
/-- With distinct identifiers a stored row is found by its own. -/
theorem any_id_iff {Row : Type} {rows : List Row} {id : Row → Uuid} (distinct : (rows.map id).Nodup)
    (doomed : Row → Bool) {row : Row} (inside : row ∈ rows) :
    (rows.any fun other => id other == id row && doomed other) = doomed row := by
  rw [Bool.eq_iff_iff, List.any_eq_true]
  constructor
  · rintro ⟨other, there, selected⟩
    obtain ⟨same, goes⟩ := Bool.and_eq_true_iff.mp selected
    rwa [List.inj_on_of_nodup_map distinct there inside (beq_iff_eq.mp same)] at goes
  · exact fun goes => ⟨row, inside, Bool.and_eq_true_iff.mpr ⟨beq_self_eq_true _, goes⟩⟩

theorem distinct_messages : (store.messages.map Message.id).Nodup :=
  @distinct_ids store holds Message .messages _ Message.record _ (by decide) rfl fun _ => rfl

theorem distinct_users : (store.users.map User.id).Nodup :=
  @distinct_ids store holds User .users _ User.record _ (by decide) rfl fun _ => rfl

omit holds in
theorem any_nothing (named : Option Uuid) : named.any (fun _ => false) = false := by
  cases named <;> rfl

theorem deleteMessages_erase (doomed : Message → Bool) :
    store.deleteMessages doomed = store.erase (goneMessages store doomed) := by
  have messages : goneMessages store doomed .messages = fun messageId =>
    store.messages.any fun message => message.id == messageId && doomed message := rfl
  have users : goneMessages store doomed .users = fun _ => false := rfl
  have conversations : goneMessages store doomed .conversations = fun _ => false := rfl
  have rows : store.messages.filter (fun message => !doomed message) =
      store.messages.filter fun message => !goneMessages store doomed .messages message.id :=
    List.filter_congr fun message inside => by
      rw [goneMessages, any_id_iff (distinct_messages holds) doomed inside]
  unfold Store.deleteMessages Store.erase
  rw [rows]
  simp [messages, users, conversations]

theorem deleteConversations_erase (doomed : Uuid → Bool) :
    store.deleteConversations doomed = store.erase (goneConversations store doomed) := by
  have messages : goneConversations store doomed .messages = fun messageId =>
    store.messages.any fun message => message.id == messageId && doomed message.conversationId := rfl
  have users : goneConversations store doomed .users = fun _ => false := rfl
  have conversations : goneConversations store doomed .conversations = doomed := rfl
  have rows : store.messages.filter (fun message => !doomed message.conversationId) =
      store.messages.filter fun message => !goneConversations store doomed .messages message.id :=
    List.filter_congr fun message inside => by
      rw [goneConversations, any_id_iff (distinct_messages holds)
        (fun message => doomed message.conversationId) inside]
  unfold Store.deleteConversations Store.deleteMessages Store.erase
  rw [rows]
  simp only [messages, users, conversations, any_nothing, List.filter_map, Function.comp_def, apply_ite Conversation.id,
    ite_self]
  simp

theorem deleteUsers_erase (doomed : User → Bool) :
    store.deleteUsers doomed = store.erase (goneUsers store doomed) := by
  have users : goneUsers store doomed .users = fun userId =>
    store.users.any fun user => user.id == userId && doomed user := rfl
  have conversations : goneUsers store doomed .conversations = fun _ => false := rfl
  have messages : goneUsers store doomed .messages = fun _ => false := rfl
  have rows : store.users.filter (fun user => !doomed user) =
      store.users.filter fun user => !goneUsers store doomed .users user.id :=
    List.filter_congr fun user inside => by
      rw [goneUsers, any_id_iff (distinct_users holds) doomed inside]
  unfold Store.deleteUsers Store.erase
  rw [rows]
  simp [messages, users, conversations]

theorem erases_messages (doomed : Message → Bool) :
    Erases store (chosenRows .messages store.messages Message.record doomed) (goneMessages store doomed) where
  roots table record picked := by
    rw [picked.1]
    rfl
  targets table isTarget record stored id named := by
    cases table with
    | users =>
        rw [doomed_users_iff stored]
        exact iff_of_false (not_chosenRows (by decide)) Bool.false_ne_true
    | conversations =>
        rw [doomed_conversations_iff stored]
        exact iff_of_false (not_chosenRows (by decide)) Bool.false_ne_true
    | messages =>
        obtain ⟨message, inside, rfl⟩ := List.mem_map.mp stored
        obtain rfl : message.id = id := SqlValue.uuid_of_some named
        rw [doomed_messages_iff stored, chosenRows_iff holds (by decide) rfl (fun _ => rfl) inside, goneMessages,
          any_id_iff (distinct_messages holds) doomed inside]
        refine or_iff_left ?_
        rintro ⟨target, gone, -⟩
        exact not_chosenRows (by decide) ((doomed_conversations_iff gone.stored).mp gone)
    | _ => cases isTarget

theorem erases_conversations (doomed : Uuid → Bool) :
    Erases store (chosenRows .conversations store.conversations Conversation.record fun row => doomed row.id)
      (goneConversations store doomed) where
  roots table record picked := by
    rw [picked.1]
    rfl
  targets table isTarget record stored id named := by
    have conversation : ∀ conversation ∈ store.conversations,
        Doomed tableConstraints store.database
          (chosenRows .conversations store.conversations Conversation.record fun row => doomed row.id) .conversations
            conversation.record ↔ doomed conversation.id = true := by
      intro conversation inside
      rw [doomed_conversations_iff (List.mem_map_of_mem inside)]
      exact chosenRows_iff holds (by decide) rfl (fun _ => rfl) inside
    cases table with
    | users =>
        rw [doomed_users_iff stored]
        exact iff_of_false (not_chosenRows (by decide)) Bool.false_ne_true
    | conversations =>
        obtain ⟨row, inside, rfl⟩ := List.mem_map.mp stored
        obtain rfl : row.id = id := SqlValue.uuid_of_some named
        exact conversation row inside
    | messages =>
        obtain ⟨message, inside, rfl⟩ := List.mem_map.mp stored
        obtain rfl : message.id = id := SqlValue.uuid_of_some named
        rw [doomed_messages_iff stored, or_iff_right (not_chosenRows (by decide)), goneConversations,
          any_id_iff (distinct_messages holds) (fun message => doomed message.conversationId) inside]
        constructor
        · rintro ⟨target, gone, value, leaves, arrives⟩
          obtain ⟨row, there, rfl⟩ := List.mem_map.mp gone.stored
          have same : row.id = message.conversationId := SqlValue.uuid_of_some (arrives.trans leaves.symm)
          rw [← same]
          exact (conversation row there).mp gone
        · intro goes
          obtain ⟨target, there, arrives⟩ := holds.foreign
            (reference .messages .conversationId .conversations .cascade) (by decide) message.record stored _ rfl
          obtain ⟨row, inTable, rfl⟩ := List.mem_map.mp there
          have same : row.id = message.conversationId := SqlValue.uuid_of_some arrives
          refine ⟨row.record, (conversation row inTable).mpr ?_, _, rfl, arrives⟩
          rwa [same]
    | _ => cases isTarget

theorem erases_users (doomed : User → Bool) :
    Erases store (chosenRows .users store.users User.record doomed) (goneUsers store doomed) where
  roots table record picked := by
    rw [picked.1]
    rfl
  targets table isTarget record stored id named := by
    cases table with
    | users =>
        obtain ⟨user, inside, rfl⟩ := List.mem_map.mp stored
        obtain rfl : user.id = id := SqlValue.uuid_of_some named
        rw [doomed_users_iff stored, chosenRows_iff holds (by decide) rfl (fun _ => rfl) inside, goneUsers,
          any_id_iff (distinct_users holds) doomed inside]
    | conversations =>
        rw [doomed_conversations_iff stored]
        exact iff_of_false (not_chosenRows (by decide)) Bool.false_ne_true
    | messages =>
        rw [doomed_messages_iff stored, or_iff_right (not_chosenRows (by decide))]
        refine iff_of_false ?_ Bool.false_ne_true
        rintro ⟨target, gone, -⟩
        exact not_chosenRows (by decide) ((doomed_conversations_iff gone.stored).mp gone)
    | _ => cases isTarget

end Deletions

end Messinger
