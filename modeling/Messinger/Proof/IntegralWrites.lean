import Messinger.Proof.CommittedProcess
import Messinger.Proof.Integrity
import Messinger.Proof.MigrationRuns

namespace Messinger
open Library ConversationMemberRepository UserRepository SessionRepository ConversationRepository
  MessageDeliveryRepository MessageAttachmentRepository

/-- One row of the selected identifier takes a value that no other row has. -/
theorem nodup_setColumn {Row : Type} {rows : List Row} {record : Row → SqlRecord} {id : Row → Uuid}
    {table : TableName} {column : ColumnName} {value : SqlValue} {selected : Uuid} {matching : Row → Bool}
    {change : Row → Row} (distinct : (rows.map id).Nodup) (selects : ∀ row, matching row = true ↔ id row = selected)
    (sets : ∀ row, record (change row) = Function.update (record row) column (some value))
    (free : (∃ row ∈ rows, id row = selected) → ∀ row ∈ rows, id row ≠ selected → record row column ≠ some value)
    (before : ((rows.map record).filterMap (UniqueKey.keyOf ⟨table, [column]⟩)).Nodup) :
    (((updateWhere matching change rows).map record).filterMap (UniqueKey.keyOf ⟨table, [column]⟩)).Nodup := by
  have column_of : ∀ rows : List Row, ((rows.map record).filterMap (UniqueKey.keyOf ⟨table, [column]⟩)).Nodup ↔
      rows.Pairwise fun first second => ∀ value, record first column = some value →
        record second column ≠ some value := by
    intro rows
    rw [List.filterMap_map, List.Nodup, List.pairwise_filterMap]
    refine iff_of_eq (congrArg (fun related => List.Pairwise related rows) ?_)
    funext first second
    simp only [Function.comp_apply, UniqueKey.keyOf_column, Option.map_eq_some_iff, forall_exists_index, and_imp,
      eq_iff_iff]
    constructor
    · intro apart value named again
      exact apart _ value named rfl _ value again rfl rfl
    · rintro apart _ value named rfl _ other again rfl same
      obtain rfl : value = other := by simpa using same
      exact apart value named again
  rw [column_of] at before ⊢
  rw [updateWhere, List.pairwise_map]
  refine (before.and (List.pairwise_map.mp distinct)).imp_of_mem ?_
  intro first second inside there apart found named again
  obtain ⟨kept, different⟩ := apart
  by_cases one : matching first = true
  · have other : ¬ matching second = true := by
      intro two
      exact different (((selects first).mp one).trans ((selects second).mp two).symm)
    rw [if_pos one, sets, Function.update_self] at named
    rw [if_neg other] at again
    refine free ⟨first, inside, (selects first).mp one⟩ second there (fun same => other ((selects second).mpr same)) ?_
    rw [again, named]
  · rw [if_neg one] at named
    by_cases two : matching second = true
    · rw [if_pos two, sets, Function.update_self] at again
      refine free ⟨second, there, (selects second).mp two⟩ first inside (fun same => one ((selects first).mpr same)) ?_
      rw [named, again]
    · rw [if_neg two] at again
      exact kept found named again

/-- The update of one row sets one column of one record. -/
theorem updateWhere_setColumn {Row : Type} {rows : List Row} {record : Row → SqlRecord} {id : Row → Uuid}
    {column : ColumnName} {value : SqlValue} {selected : Uuid} {matching : Row → Bool} {change : Row → Row}
    (ids : ∀ row, record row .id = some (.uuid (id row))) (selects : ∀ row, matching row = true ↔ id row = selected)
    (sets : ∀ row, record (change row) = Function.update (record row) column (some value)) :
    (updateWhere matching change rows).map record = (rows.map record).map fun found =>
      Function.update found column (if found .id = some (.uuid selected) then some value else found column) := by
  rw [updateWhere, List.map_map, List.map_map]
  apply List.map_congr_left
  intro row _
  rw [Function.comp_apply, Function.comp_apply, ids]
  by_cases chosen : id row = selected
  · rw [if_pos ((selects row).mpr chosen), if_pos (by rw [chosen]), sets]
  · rw [if_neg fun matches_ => chosen ((selects row).mp matches_),
      if_neg fun same => chosen (SqlValue.uuid_of_some same), Function.update_eq_self]

section Writes
variable {platform : Platform} {store next : Store}

/-- The unique column of one row takes a new value, and no reference points to that column. -/
theorem Integral.setUnique (before : Integral store) {Row : Type} {rows : List Row} {record : Row → SqlRecord}
    {id : Row → Uuid} (table : TableName) (selected : Uuid) {column : ColumnName} {value : SqlValue}
    {matching : Row → Bool} {change : Row → Row} (rowsOf : store.database table = rows.map record)
    (ids : ∀ row, record row .id = some (.uuid (id row))) (selects : ∀ row, matching row = true ↔ id row = selected)
    (sets : ∀ row, record (change row) = Function.update (record row) column (some value))
    (written : next.database = Function.update store.database table ((updateWhere matching change rows).map record))
    (same : next.nextId = store.nextId) (apart : column ≠ .id ∧ column ≠ .storageKey)
    (free : (∃ row ∈ rows, id row = selected) → ∀ row ∈ rows, id row ≠ selected → record row column ≠ some value)
    (primary : ⟨table, [.id]⟩ ∈ tableConstraints.unique)
    (alone : ∀ key ∈ tableConstraints.unique, key.table = table → column ∈ key.columns → key = ⟨table, [column]⟩)
    (plain : ∀ key ∈ tableConstraints.foreign, key.table = table → key.column ≠ column) : Integral next := by
  have setting : next.database = setColumn table column
      (fun found => if found .id = some (.uuid selected) then some value else found column) store.database := by
    rw [written, updateWhere_setColumn ids selects sets, ← rowsOf]
    rfl
  constructor
  · rw [setting]
    refine before.constraints.setColumn ?_ ?_ ?_
    · rintro key declared ⟨-, targeted⟩
      exact apart.1 (targeted.symm.trans (foreign_target declared).2)
    · intro key declared inTable touched
      have unique := before.constraints.unique key declared
      rw [UniqueKey.Holds, inTable, rowsOf] at unique
      obtain rfl := alone key declared inTable touched
      rw [rowsOf, ← updateWhere_setColumn ids selects sets]
      exact nodup_setColumn (distinct_ids before.constraints primary rowsOf ids) selects sets free unique
    · exact fun key declared inTable equal => absurd equal (plain key declared inTable)
  · rw [setting, same]
    exact before.supplied.setColumn apart.1 apart.2

theorem Integral.insertMembers (before : Integral store) (rows : List ConversationMember)
    (present : ∀ row ∈ rows, store.hasConversation row.conversationId = true ∧ store.hasUser row.userId = true)
    (keys : ((store.members ++ rows).map ConversationMember.key).Nodup) :
    Integral { store with members := store.members ++ rows } := by
  have written : Store.database { store with members := store.members ++ rows } =
      insertRecords .conversationMembers (rows.map ConversationMember.record) store.database := by
    funext table
    cases table with
    | conversationMembers => exact List.map_append
    | _ => rfl
  constructor
  · rw [written]
    refine before.constraints.insert ?_ ?_
    · intro key declared same
      have only : ∀ key ∈ tableConstraints.unique, key.table = .conversationMembers →
          key = ⟨.conversationMembers, [.conversationId, .userId]⟩ := by decide
      obtain rfl := only key declared same
      have pairs : UniqueKey.keyOf ⟨TableName.conversationMembers, [.conversationId, .userId]⟩ ∘
          ConversationMember.record = fun member : ConversationMember =>
            some [SqlValue.uuid member.conversationId, .uuid member.userId] := rfl
      change ((store.members.map ConversationMember.record ++ rows.map ConversationMember.record).filterMap _).Nodup
      rw [← List.map_append, List.filterMap_map, pairs, List.filterMap_eq_map']
      refine List.Nodup.of_map (fun values => values) ?_
      rw [List.map_map]
      have through : (store.members ++ rows).map ((fun values => values) ∘ fun member : ConversationMember =>
          [SqlValue.uuid member.conversationId, .uuid member.userId]) =
          ((store.members ++ rows).map ConversationMember.key).map fun key => [SqlValue.uuid key.1, .uuid key.2] := by
        rw [List.map_map]
        rfl
      rw [through]
      refine keys.map ?_
      intro first second same
      simpa [Prod.ext_iff] using same
    · intro key declared same record inside
      obtain ⟨row, added, rfl⟩ := List.mem_map.mp inside
      obtain ⟨conversation, user⟩ := present row added
      have only : ∀ key ∈ tableConstraints.foreign, key.table = .conversationMembers →
          key = reference .conversationMembers .conversationId .conversations .cascade ∨
            key = reference .conversationMembers .userId .users .cascade := by decide
      obtain rfl | rfl := only key declared same
      · exact resolves rfl (refers_conversation conversation)
      · exact resolves rfl (refers_user user)
  · rw [written]
    refine before.supplied.insert ?_ ?_
    · intro record inside id named
      obtain ⟨row, -, rfl⟩ := List.mem_map.mp inside
      cases named
    · intro record inside key named
      obtain ⟨row, -, rfl⟩ := List.mem_map.mp inside
      cases named

/-- The row of a message is there when its deliveries refer to it. -/
theorem Integral.createDeliveries (before : Integral store) (now : Nat) {messageId : Uuid} (userIds : List Uuid)
    (message : ∃ message ∈ store.messages, message.id = messageId) :
    Integral (createDeliveries now messageId userIds store) := by
  refine before.insertRows .messageDeliveries
    (userIds.zipIdx.map fun pair => MessageDelivery.record
      { id := store.nextId + pair.2, messageId, userId := pair.1, status := .sent, createdAt := now })
    ?_ ?_ ?_ ?_ (by decide) ?_
  · funext table
    cases table with
    | messageDeliveries =>
        refine List.map_append.trans ?_
        rw [List.map_map]
        rfl
    | _ => rfl
  · rw [List.length_map, List.length_zipIdx]
    rfl
  · rw [List.length_map, List.length_zipIdx, List.map_map, ← List.zipIdx_map_snd, List.map_map]
    rfl
  · intro record inside
    obtain ⟨pair, -, rfl⟩ := List.mem_map.mp inside
    rfl
  · intro key declared same record inside
    obtain ⟨pair, -, rfl⟩ := List.mem_map.mp inside
    have only : ∀ key ∈ tableConstraints.foreign, key.table = .messageDeliveries →
        key = reference .messageDeliveries .messageId .messages .cascade := by decide
    obtain rfl := only key declared same
    exact resolves rfl (refers_message message)

theorem Integral.createAttachments (before : Integral store) (now : Nat) {messageId : Uuid}
    (uploads : List PendingUpload) (message : ∃ message ∈ store.messages, message.id = messageId) :
    Integral (createAttachments now messageId uploads store) := by
  refine before.insertRows .messageAttachments
    (uploads.zipIdx.map fun pair => (ofUpload now messageId (store.nextId + pair.2) pair.1).record)
    ?_ ?_ ?_ ?_ (by decide) ?_
  · funext table
    cases table with
    | messageAttachments =>
        refine List.map_append.trans ?_
        rw [List.map_map]
        rfl
    | _ => rfl
  · rw [List.length_map, List.length_zipIdx]
    rfl
  · rw [List.length_map, List.length_zipIdx, List.map_map, ← List.zipIdx_map_snd, List.map_map]
    rfl
  · intro record inside
    obtain ⟨pair, -, rfl⟩ := List.mem_map.mp inside
    rfl
  · intro key declared same record inside
    obtain ⟨pair, -, rfl⟩ := List.mem_map.mp inside
    have only : ∀ key ∈ tableConstraints.foreign, key.table = .messageAttachments →
        key = reference .messageAttachments .messageId .messages .cascade := by decide
    obtain rfl := only key declared same
    exact resolves rfl (refers_message message)

/-- The link of a conversation leads to a message that is there. -/
theorem Integral.updateLastMessage (before : Integral store) (now : Nat) (conversationId : Uuid) {messageId : Uuid}
    (message : ∃ message ∈ store.messages, message.id = messageId) :
    Integral (updateLastMessage now conversationId messageId store) := by
  have written : (ConversationRepository.updateLastMessage now conversationId messageId store).database =
      setColumn .conversations .lastMessageId
        (fun found => if found .id = some (.uuid conversationId) then some (.uuid messageId) else found .lastMessageId)
        store.database := by
    funext table
    cases table with
    | conversations =>
        refine @updateWhere_setColumn _ _ _ Conversation.id _ _ _ _ _ (fun _ => rfl) (fun _ => beq_iff_eq) ?_
        intro row
        funext column
        cases column <;> rfl
    | _ => rfl
  constructor
  · rw [written]
    refine before.constraints.setColumn (by decide) ?_ ?_
    · intro key declared same touched
      have none : ∀ key ∈ tableConstraints.unique, key.table = .conversations → .lastMessageId ∉ key.columns := by
        decide
      exact absurd touched (none key declared same)
    · intro key declared same _ record stored value named
      have only : ∀ key ∈ tableConstraints.foreign, key.table = .conversations →
          key = reference .conversations .lastMessageId .messages .setNull := by decide
      obtain rfl := only key declared same
      split at named
      · obtain ⟨target, there, equal⟩ := refers_message message
        exact ⟨target, there, equal.trans named⟩
      · exact before.constraints.foreign _ declared record stored value named
  · rw [written]
    exact before.supplied.setColumn (by decide) (by decide)

end Writes

/-- A new row with one reference. -/
theorem forall_references {table : TableName} {keys : List (ForeignKey TableName ColumnName)} {record : SqlRecord}
    {store : Store} (listed : tableConstraints.foreign.filter (fun key => key.table = table) = keys)
    (each : List.Forall (Resolves store.database record) keys) :
    ∀ key ∈ tableConstraints.foreign.filter (fun key => key.table = table), ∀ value,
      record key.column = some value → ∃ target ∈ store.database key.target, target key.targetColumn = some value := by
  rw [listed]
  exact List.forall_iff_forall_mem.mp each

section Rules
variable {store : Store}

theorem Integral.insertUser (before : Integral store) (row : User) (id : row.id = store.nextId)
    (free : ∀ user ∈ store.users, (row.loginKeyLookup.isSome = true → user.loginKeyLookup ≠ row.loginKeyLookup) ∧
      (row.userCode.isSome = true → user.userCode ≠ row.userCode)) : Integral (store.addUser row) := by
  refine before.insertRow .users row.record ?_ (Nat.lt_succ_self _)
    (congrArg (some ∘ SqlValue.uuid) id) (fun _ named => by cases named) ?_ (forall_references rfl trivial)
  · funext table
    cases table with
    | users => exact List.map_append
    | _ => rfl
  · intro key listed other
    have keys : ∀ key ∈ tableConstraints.unique.filter (fun key => key.table = .users), key.columns ≠ [.id] →
        key = ⟨.users, [.loginKeyLookup]⟩ ∨ key = ⟨.users, [.userCode]⟩ := by decide
    obtain rfl | rfl := keys key listed other
    · exact fresh_text rfl (fun _ => rfl) rfl fun user inside => (free user inside).1
    · exact fresh_text rfl (fun _ => rfl) rfl fun user inside => (free user inside).2

theorem Integral.insertSession (before : Integral store) (row : Session) (id : row.id = store.nextId)
    (user : store.hasUser row.userId = true)
    (free : ∀ session ∈ store.sessions, session.refreshTokenHash ≠ row.refreshTokenHash) :
    Integral { store with sessions := store.sessions ++ [row], nextId := store.nextId + 1 } := by
  refine before.insertRow .userSessions row.record ?_ (Nat.lt_succ_self _)
    (congrArg (some ∘ SqlValue.uuid) id) (fun _ named => by cases named) ?_
    (forall_references rfl (resolves rfl (refers_user user)))
  · funext table
    cases table with
    | userSessions => exact List.map_append
    | _ => rfl
  · intro key listed other
    have keys : ∀ key ∈ tableConstraints.unique.filter (fun key => key.table = .userSessions),
        key.columns ≠ [.id] → key = ⟨.userSessions, [.refreshTokenHash]⟩ := by decide
    obtain rfl := keys key listed other
    refine fresh_column rfl ?_
    intro session inside value named same
    exact free session inside (SqlValue.text.inj (Option.some.inj (same.trans named.symm)))

theorem Integral.insertConversation (before : Integral store) (row : Conversation) (id : row.id = store.nextId)
    (empty : row.lastMessageId = none)
    (free : row.privateKey.isSome = true → ∀ conversation ∈ store.conversations,
      conversation.privateKey ≠ row.privateKey) :
    Integral { store with conversations := store.conversations ++ [row], nextId := store.nextId + 1 } := by
  refine before.insertRow .conversations row.record ?_ (Nat.lt_succ_self _)
    (congrArg (some ∘ SqlValue.uuid) id) (fun _ named => by cases named) ?_
    (forall_references rfl (resolves_null (congrArg (Option.map SqlValue.uuid) empty)))
  · funext table
    cases table with
    | conversations => exact List.map_append
    | _ => rfl
  · intro key listed other
    have keys : ∀ key ∈ tableConstraints.unique.filter (fun key => key.table = .conversations),
        key.columns ≠ [.id] → key = ⟨.conversations, [.privateKey]⟩ := by decide
    obtain rfl := keys key listed other
    exact fresh_text rfl (fun _ => rfl) rfl fun conversation inside keyed => free keyed conversation inside

/-- The supply numbers the upload and its object. -/
theorem Integral.insertUpload (before : Integral store) (row : PendingUpload) (id : row.id = store.nextId)
    (storageKey : row.storageKey = ⟨row.userId, store.nextId + 1⟩) (user : store.hasUser row.userId = true) :
    Integral { store with pendingUploads := store.pendingUploads ++ [row], nextId := store.nextId + 2 } := by
  refine before.insertRow .pendingUploads row.record ?_
    (Nat.lt_add_of_pos_right (Nat.succ_pos 1)) (congrArg (some ∘ SqlValue.uuid) id) ?_ ?_
    (forall_references rfl (resolves rfl (refers_user user)))
  · funext table
    cases table with
    | pendingUploads => exact List.map_append
    | _ => rfl
  · intro key named
    obtain rfl : row.storageKey = key := SqlValue.storageKey.inj (Option.some.inj named)
    rw [storageKey]
    exact Nat.lt_succ_self _
  · intro key listed other
    have keys : ∀ key ∈ tableConstraints.unique.filter (fun key => key.table = .pendingUploads),
        key.columns ≠ [.id] → key = ⟨.pendingUploads, [.storageKey]⟩ := by decide
    obtain rfl := keys key listed other
    refine fresh_column rfl ?_
    intro upload inside value named same
    have equal : upload.storageKey = row.storageKey :=
      SqlValue.storageKey.inj (Option.some.inj (same.trans named.symm))
    have below := before.supplied.objects _ (List.mem_map_of_mem inside) upload.storageKey rfl
    rw [equal, storageKey] at below
    exact Nat.not_succ_le_self _ (Nat.le_of_succ_le below)

/-- A message is inserted with its deliveries, and its conversation links to it. -/
theorem Integral.postMessage (before : Integral store) (now : Nat) (row : Message) {senderId : Uuid}
    (userIds : List Uuid) (id : row.id = store.nextId) (conversation : store.hasConversation row.conversationId = true)
    (sender : row.senderId = some senderId) (user : store.hasUser senderId = true) :
    Integral (ConversationRepository.updateLastMessage now row.conversationId row.id
      (MessageDeliveryRepository.createDeliveries now row.id userIds
        { store with messages := store.messages ++ [row], nextId := store.nextId + 1 })) := by
  have inserted : Integral { store with messages := store.messages ++ [row], nextId := store.nextId + 1 } := by
    refine before.insertRow .messages row.record ?_ (Nat.lt_succ_self _)
      (congrArg (some ∘ SqlValue.uuid) id) (fun _ named => by cases named) (onlyPrimary (by decide))
      (forall_references rfl ⟨resolves rfl (refers_conversation conversation),
        resolves (congrArg (Option.map SqlValue.uuid) sender) (refers_user user)⟩)
    funext table
    cases table with
    | messages => exact List.map_append
    | _ => rfl
  have there : ∃ message ∈ store.messages ++ [row], message.id = row.id :=
    ⟨row, List.mem_append_right _ (List.mem_singleton.mpr rfl), rfl⟩
  exact (inserted.createDeliveries now userIds there).updateLastMessage now row.conversationId there

end Rules

/-- Every write keeps the constraints of the tables. -/
theorem Write.integral {platform : Platform} {store next : Store} (write : Write platform store next)
    (before : Integral store) : Integral next := by
  cases write with
  | insertUser row id free => exact before.insertUser row id free
  | updateUser userId change keeps =>
      refine before.of_database ?_ (Nat.le_refl _)
      funext table
      cases table with
      | users => exact map_updateWhere User.record _ change keeps store.users
      | _ => rfl
  | restoreLoginKey userId change loginKeyLookup sets free =>
      refine before.setUnique .users userId rfl (fun _ => rfl) (fun _ => beq_iff_eq) sets ?_ rfl (by decide) ?_
        (by decide) (by decide) (by decide)
      · funext table
        cases table <;> rfl
      · rintro ⟨user, inside, same⟩ other there different named
        refine free ?_ other there different (Option.map_injective (fun _ _ => SqlValue.text.inj) named)
        exact List.any_eq_true.mpr ⟨user, inside, beq_iff_eq.mpr same⟩
  | deleteUsers doomed => exact before.of_cascades (cascades_users before.constraints doomed) rfl
  | insertSession row id user free => exact before.insertSession row id user free
  | updateSessions matching change keeps =>
      refine before.of_database ?_ (Nat.le_refl _)
      funext table
      cases table with
      | userSessions => exact map_updateWhere Session.record _ change keeps store.sessions
      | _ => rfl
  | rotateSession sessionId change refreshTokenHash sets free =>
      refine before.setUnique .userSessions sessionId rfl (fun _ => rfl) (fun _ => beq_iff_eq) sets ?_ rfl (by decide)
        ?_ (by decide) (by decide) (by decide)
      · funext table
        cases table <;> rfl
      · intro _ session there different named
        exact free session there different (SqlValue.text.inj (Option.some.inj named))
  | openConversation row rows id empty free present keys size =>
      refine (before.insertConversation row id empty free).insertMembers rows ?_ keys
      intro member inside
      obtain ⟨own, user⟩ := present member inside
      exact ⟨List.any_eq_true.mpr ⟨row, List.mem_append_right _ (List.mem_singleton_self row),
        beq_iff_eq.mpr own.symm⟩, user⟩
  | deleteConversations doomed => exact before.of_cascades (cascades_conversations before.constraints doomed) rfl
  | insertMembers rows present keys => exact before.insertMembers rows present keys
  | updateMembers matching change keeps =>
      refine before.of_database ?_ (Nat.le_refl _)
      funext table
      cases table with
      | conversationMembers => exact map_updateWhere ConversationMember.record _ change keeps store.members
      | _ => rfl
  | insertEvent row id conversation =>
      refine before.insertRow .conversationEvents row.record ?_ (Nat.lt_succ_self _)
        (congrArg (some ∘ SqlValue.uuid) id) (fun _ named => by cases named) (onlyPrimary (by decide))
        (forall_references rfl (resolves rfl (refers_conversation conversation)))
      funext table
      cases table with
      | conversationEvents => exact List.map_append
      | _ => rfl
  | insertInvitation row id conversation actor target =>
      refine before.insertRow .groupInvitations row.record ?_ (Nat.lt_succ_self _)
        (congrArg (some ∘ SqlValue.uuid) id) (fun _ named => by cases named) (onlyPrimary (by decide))
        (forall_references rfl ⟨resolves rfl (refers_conversation conversation), resolves rfl (refers_user actor),
          resolves rfl (refers_user target)⟩)
      funext table
      cases table with
      | groupInvitations => exact List.map_append
      | _ => rfl
  | updateInvitations matching change keeps =>
      refine before.of_database ?_ (Nat.le_refl _)
      funext table
      cases table with
      | groupInvitations => exact map_updateWhere GroupInvitation.record _ change keeps store.invitations
      | _ => rfl
  | postMessage now row senderId userIds id conversation sender user =>
      exact before.postMessage now row userIds id conversation sender user
  | deleteMessages doomed => exact before.of_cascades (cascades_messages before.constraints doomed) rfl
  | updateDeliveries matching change keeps =>
      refine before.of_database ?_ (Nat.le_refl _)
      funext table
      cases table with
      | messageDeliveries =>
          exact map_updateWhere MessageDelivery.record _ change (fun delivery => (keeps delivery).1) store.deliveries
      | _ => rfl
  | insertAttachments now messageId uploads message => exact before.createAttachments now uploads message
  | insertUpload row id storageKey user => exact before.insertUpload row id storageKey user
  | deleteUploads keep =>
      refine @Integral.remove _ before _ .pendingUploads _ _ _ keep rfl ?_ rfl (by decide)
      funext table
      cases table <;> rfl
  | insertSubscription row id user =>
      refine before.insertRow .pushSubscriptions row.record ?_ (Nat.lt_succ_self _)
        (congrArg (some ∘ SqlValue.uuid) id) (fun _ named => by cases named) (onlyPrimary (by decide))
        (forall_references rfl (resolves rfl (refers_user user)))
      funext table
      cases table with
      | pushSubscriptions => exact List.map_append
      | _ => rfl
  | updateSubscriptions matching change keeps =>
      refine before.of_database ?_ (Nat.le_refl _)
      funext table
      cases table with
      | pushSubscriptions => exact map_updateWhere PushSubscription.record _ change keeps store.pushSubscriptions
      | _ => rfl
  | deleteSubscriptions keep =>
      refine @Integral.remove _ before _ .pushSubscriptions _ _ _ keep rfl ?_ rfl (by decide)
      funext table
      cases table <;> rfl
  | writeBucket bucket =>
      refine before.of_database ?_ (Nat.le_refl _)
      funext table
      cases table <;> rfl

section Runs
variable (platform : Platform) (jsonParse : CodeUnits → Option Json) (turns : List BackendTurn) (position : Nat)

theorem integral_empty : Integral {} where
  constraints := Constraints.hold_empty fun table => by cases table <;> rfl
  supplied := by
    constructor
    · intro table record stored
      have empty : Store.database {} table = [] := by cases table <;> rfl
      rw [empty] at stored
      cases stored
    · intro record stored
      cases stored

/-- Whichever order the turns are taken in, the tables keep their constraints. -/
theorem backend_integral : Integral (backendStore platform jsonParse turns position) :=
  backend_invariant integral_empty (fun _ _ write before => write.integral before) turns position

/-- The schema that the migrations leave permits every state of the backend. -/
theorem backend_permitted : ∃ schema, migratedSchema Migrations.all.length = some schema ∧
    schema.Permits (backendStore platform jsonParse turns position).database := by
  obtain ⟨schema, migrated⟩ := migratedSchema_some Migrations.all.length
  refine ⟨schema, migrated, (tableConstraints_describe migrated).permits_iff.mpr ?_⟩
  exact (backend_integral platform jsonParse turns position).constraints

/-- The schema that the migrations leave determines what every deletion of the backend takes with it. -/
theorem backend_cascades : ∃ schema, migratedSchema Migrations.all.length = some schema ∧
    tableConstraints.Describe schema ∧ CascadesEverywhere (backendStore platform jsonParse turns position) := by
  obtain ⟨schema, migrated⟩ := migratedSchema_some Migrations.all.length
  have holds := (backend_integral platform jsonParse turns position).constraints
  exact ⟨schema, migrated, tableConstraints_describe migrated, cascades_users holds, cascades_conversations holds,
    cascades_messages holds⟩

end Runs

end Messinger
