import Messinger.Proof.Occupancy
import Messinger.Proof.PrivatePairs

namespace Messinger
open Library ConversationMemberRepository ConversationRepository ConversationService MessageService StorageService

/-- The message is in a conversation that is active for the user and comes in the list of the user. -/
structure InList (store : Store) (entry : Uuid × Uuid) (userId : Uuid) : Prop where
  active : existsMember store entry.1 userId = true
  message : ∃ message ∈ store.messages, message.conversationId = entry.1 ∧ message.id = entry.2
  listed : ∃ conversation ∈ getConversationList store userId { limit := store.conversations.length },
    conversation.id = entry.1

/-- Both users see every message that has committed since the last deletion of its conversation started. -/
def Reopened (senderId receiverId : Uuid) (state : ReopeningState) : Prop :=
  ∀ entry ∈ state.reopened, ∀ userId, userId = senderId ∨ userId = receiverId → InList state.store entry userId

/-- The message transaction has its rows and its files, and the database commits it. -/
def CommitsMessage (env : Env) (message : PrivateDraft) (conversation : Conversation) (store : Store) : Prop :=
  env.succeeds 1 = true ∧ store.hasConversation conversation.id = true ∧ store.hasUser message.senderId = true ∧
    ∃ uploads, findUploads env.now message.senderId store message.dto.attachments = .ok uploads

/-- The row of the user was read as deleted before the transaction. -/
def ReadAsDeleted (message : PrivateDraft) (sender receiver : Option ConversationMember) (userId : Uuid) : Prop :=
  (userId = message.senderId ∧ (sender.bind (·.softDeletedAt)).isSome = true) ∨
    (userId = parseUuid message.dto.receiverId ∧ (receiver.bind (·.softDeletedAt)).isSome = true)

/-- A message commits when the rows of both users are active or were read as deleted, and a deletion commits
when no message has reopened its conversation after the deletion started. -/
def Reopens (senderId receiverId : Uuid) (progress : Library.Progress ReopeningState PrivateTask)
    (task : PrivateTask) (env : Env) : Prop :=
  match task with
  | .saveMessage message conversation sender receiver _ =>
      CommitsMessage env message conversation progress.state.store →
        ∀ userId, userId = senderId ∨ userId = receiverId →
          existsMember progress.state.store conversation.id userId = true ∨
            userId ∈ memberIds progress.state.store conversation.id ∧ ReadAsDeleted message sender receiver userId
  | .commitDeletion _ conversationId _ _ =>
      env.succeeds 0 = true → ∀ entry ∈ progress.state.reopened, entry.1 ≠ conversationId
  | _ => True

/-- The task belongs to a call of the two users. -/
def PrivateTask.Between (senderId receiverId : Uuid) : PrivateTask → Prop
  | .createConversation message => message.senderId = senderId ∧ parseUuid message.dto.receiverId = receiverId
  | .findMembers message _ => message.senderId = senderId ∧ parseUuid message.dto.receiverId = receiverId
  | .saveMessage message _ _ _ _ => message.senderId = senderId ∧ parseUuid message.dto.receiverId = receiverId
  | .countRemaining userId _ => userId = senderId ∨ userId = receiverId
  | .commitDeletion userId _ _ _ => userId = senderId ∨ userId = receiverId
  | _ => False

/-- The user is active in the conversation of the message. -/
structure Sees (entry : Uuid × Uuid) (userId : Uuid) (store : Store) : Prop where
  active : existsMember store entry.1 userId = true
  message : ∃ message ∈ store.messages, message.conversationId = entry.1 ∧ message.id = entry.2
  present : store.hasConversation entry.1 = true

section Rows
variable {store next : Store} {conversationId userId : Uuid} {entry : Uuid × Uuid}

theorem exists_active_iff :
    existsMember store conversationId userId = true ↔
      ∃ member ∈ store.members, member.key = (conversationId, userId) ∧ member.softDeletedAt = none := by
  unfold existsMember
  rw [List.any_eq_true]
  constructor
  · rintro ⟨member, inside, selected⟩
    simp only [Bool.and_eq_true, beq_iff_eq, Option.isNone_iff_eq_none] at selected
    exact ⟨member, inside, Prod.ext selected.1.1 selected.1.2, selected.2⟩
  · rintro ⟨member, inside, key, active⟩
    refine ⟨member, inside, ?_⟩
    simp only [Bool.and_eq_true, beq_iff_eq, Option.isNone_iff_eq_none]
    exact ⟨⟨congrArg Prod.fst key, congrArg Prod.snd key⟩, active⟩

/-- An active member has the conversation in the list when the page has room for all conversations. -/
theorem Sees.inList (sees : Sees entry userId store) : InList store entry userId := by
  refine ⟨sees.active, sees.message, ?_⟩
  obtain ⟨conversation, inside, id⟩ := hasConversation_iff.mp sees.present
  refine ⟨conversation, ?_, id⟩
  unfold getConversationList
  simp only
  rw [List.take_of_length_le]
  · refine (List.perm_insertionSort _ _).mem_iff.mpr (List.mem_filter.mpr ⟨inside, ?_⟩)
    rw [id, sees.active]
    rfl
  · rw [List.length_insertionSort]
    exact Nat.le_succ_of_le (List.length_filter_le _ _)

/-- What a step keeps for the conversation of the message keeps the message in sight. -/
theorem Sees.carry (sees : Sees entry userId store) (active : existsMember next entry.1 userId = true)
    (messages : ∀ message ∈ store.messages, message.conversationId = entry.1 → message ∈ next.messages)
    (conversations : ∀ conversation ∈ store.conversations, conversation.id = entry.1 →
      ∃ other ∈ next.conversations, other.id = conversation.id) : Sees entry userId next := by
  refine ⟨active, ?_, ?_⟩
  · obtain ⟨message, inside, place, id⟩ := sees.message
    exact ⟨message, messages message inside place, place, id⟩
  · obtain ⟨conversation, inside, id⟩ := hasConversation_iff.mp sees.present
    obtain ⟨other, listed, same⟩ := conversations conversation inside id
    exact hasConversation_iff.mpr ⟨other, listed, same.trans id⟩

theorem exists_active_restoreIfDeleted (now : Nat) (member : Option ConversationMember)
    (restoredConversation restoredUser : Uuid) :
    existsMember (restoreIfDeleted now member restoredConversation restoredUser store) conversationId userId = true ↔
      existsMember store conversationId userId = true ∨
        userId ∈ memberIds store conversationId ∧ (conversationId, userId) = (restoredConversation, restoredUser) ∧
          (member.bind (·.softDeletedAt)).isSome = true := by
  unfold restoreIfDeleted
  split
  · next deleted =>
      rw [exists_active_iff, exists_active_iff, mem_memberIds]
      constructor
      · rintro ⟨row, inside, key, active⟩
        obtain ⟨old, present, same⟩ := mem_updateWhere.mp inside
        split at same
        · next selected =>
            rw [same] at key
            have oldKey : old.key = (conversationId, userId) := key
            exact .inr ⟨List.mem_map.mpr ⟨old, present, oldKey⟩,
              oldKey.symm.trans (of_decide_eq_true selected), deleted⟩
        · rw [same] at key active
          exact .inl ⟨old, present, key, active⟩
      · rintro (⟨row, inside, key, active⟩ | ⟨listed, same, -⟩)
        · refine ⟨_, mem_updateWhere.mpr ⟨row, inside, rfl⟩, ?_⟩
          split
          · exact ⟨key, rfl⟩
          · exact ⟨key, active⟩
        · obtain ⟨row, inside, key⟩ := List.mem_map.mp listed
          refine ⟨_, mem_updateWhere.mpr ⟨row, inside, rfl⟩, ?_⟩
          rw [if_pos (decide_eq_true (key.trans same))]
          exact ⟨key, rfl⟩
  · next kept => exact ⟨.inl, fun active => active.resolve_right fun restored => kept restored.2.2⟩

theorem mem_memberIds_restoreIfDeleted (now : Nat) (member : Option ConversationMember) (restoredId : Uuid) :
    userId ∈ memberIds (restoreIfDeleted now member conversationId restoredId store) conversationId ↔
      userId ∈ memberIds store conversationId := by
  rw [mem_memberIds, mem_memberIds, (SameRooms.restoreIfDeleted now member conversationId restoredId store).members]

theorem exists_active_persisted (now : Nat) (senderId : Uuid) (messageConversation : Uuid)
    (members : List ConversationMember) (ciphered : CipheredMessage) (uploads : List PendingUpload) :
    existsMember (persisted now senderId messageConversation members ciphered uploads store) conversationId userId =
      existsMember store conversationId userId := by
  unfold existsMember persisted
  rw [List.any_map]
  rfl

theorem exists_active_mark (now : Nat) (markedConversation markedUser : Uuid) :
    existsMember (markConversationAsDeleted now markedConversation markedUser store) conversationId userId = true ↔
      existsMember store conversationId userId = true ∧
        (conversationId, userId) ≠ (markedConversation, markedUser) := by
  rw [exists_active_iff, exists_active_iff]
  constructor
  · rintro ⟨row, inside, key, active⟩
    obtain ⟨old, present, same⟩ := mem_updateWhere.mp inside
    split at same
    · rw [same] at active
      cases active
    · next other =>
        rw [same] at key active
        exact ⟨⟨old, present, key, active⟩, fun equal => other (decide_eq_true (key.trans equal))⟩
  · rintro ⟨⟨row, inside, key, active⟩, other⟩
    refine ⟨row, mem_updateWhere.mpr ⟨row, inside, ?_⟩, key, active⟩
    rw [if_neg fun same => other (key.symm.trans (of_decide_eq_true same))]

theorem exists_active_deleteConversation (deletedConversation : Uuid) :
    existsMember (deleteConversation deletedConversation store) conversationId userId = true ↔
      existsMember store conversationId userId = true ∧ conversationId ≠ deletedConversation := by
  have members : (deleteConversation deletedConversation store).members =
      store.members.filter fun member => !(member.conversationId == deletedConversation) := rfl
  rw [exists_active_iff, exists_active_iff, members]
  constructor
  · rintro ⟨row, inside, key, active⟩
    obtain ⟨present, kept⟩ := List.mem_filter.mp inside
    refine ⟨⟨row, present, key, active⟩, ?_⟩
    rintro rfl
    have place : row.conversationId = conversationId := congrArg Prod.fst key
    rw [place, beq_self_eq_true] at kept
    cases kept
  · rintro ⟨⟨row, inside, key, active⟩, other⟩
    refine ⟨row, List.mem_filter.mpr ⟨inside, ?_⟩, key, active⟩
    have place : row.conversationId = conversationId := congrArg Prod.fst key
    rw [place]
    simpa using other

end Rows

section Commits
variable {store : Store}

/-- The message is saved when its conversation, its sender and its files are there. -/
theorem persistMessage_done {now : Nat} {senderId conversationId : Uuid} {members : List ConversationMember}
    {ciphered : CipheredMessage} {content : CodeUnits} {attachments : List MessageAttachmentDto}
    {uploads : List PendingUpload} (conversation : store.hasConversation conversationId = true)
    (sender : store.hasUser senderId = true) (found : findUploads now senderId store attachments = .ok uploads) :
    ∃ result, persistMessage now senderId conversationId members ciphered content attachments store = .ok result := by
  have both : (store.hasConversation conversationId && store.hasUser senderId) = true := by
    rw [conversation, sender]
    rfl
  unfold persistMessage MessageRepository.saveMessage
  rw [if_pos both]
  simp only [bind, Except.bind]
  unfold processMessageAttachments
  rw [findUploads_congr store, found]
  · exact ⟨_, rfl⟩
  · rfl
  · rfl

theorem persistMessage_sender {now : Nat} {senderId conversationId : Uuid} {members : List ConversationMember}
    {ciphered : CipheredMessage} {content : CodeUnits} {attachments : List MessageAttachmentDto}
    {result : SavedMessage × Store}
    (done : persistMessage now senderId conversationId members ciphered content attachments store = .ok result) :
    store.hasUser senderId = true := by
  obtain ⟨⟨savedMessage, written⟩, inserted, -⟩ := ok_of_bind done
  unfold MessageRepository.saveMessage at inserted
  split at inserted
  · next present => exact (Bool.and_eq_true_iff.mp present).2
  · cases inserted

/-- The message transaction commits its rows, or leaves the store. -/
theorem saveMessage_cases (env : Env) (message : PrivateDraft) (conversation : Conversation)
    (sender receiver : Option ConversationMember) (members : List ConversationMember) (store : Store) :
    (¬ CommitsMessage env message conversation store ∧ ∃ exception,
        transaction (env.succeeds 1) store (createPrivateMessageBody env.now message.senderId message.dto
          message.ciphered conversation sender receiver members) = (.error exception, store)) ∨
      CommitsMessage env message conversation store ∧ ∃ saved uploads,
        saved.id = store.nextId ∧
        transaction (env.succeeds 1) store (createPrivateMessageBody env.now message.senderId message.dto
          message.ciphered conversation sender receiver members) =
        (.ok saved, persisted env.now message.senderId conversation.id members message.ciphered uploads
          (restoreIfDeleted env.now receiver conversation.id (parseUuid message.dto.receiverId)
            (restoreIfDeleted env.now sender conversation.id message.senderId store))) := by
  have shape : ∃ rows, restoreIfDeleted env.now receiver conversation.id (parseUuid message.dto.receiverId)
      (restoreIfDeleted env.now sender conversation.id message.senderId store) = { store with members := rows } := by
    unfold restoreIfDeleted
    split <;> split <;> exact ⟨_, rfl⟩
  obtain ⟨rows, shape⟩ := shape
  have files : findUploads env.now message.senderId { store with members := rows } message.dto.attachments =
      findUploads env.now message.senderId store message.dto.attachments :=
    findUploads_congr store { store with members := rows } rfl rfl _
  obtain ⟨exception, failed⟩ | ⟨saved, next, done, commits, equal⟩ :=
    transaction_cases (env.succeeds 1) store (createPrivateMessageBody env.now message.senderId message.dto
      message.ciphered conversation sender receiver members)
  · refine .inl ⟨?_, exception, failed⟩
    rintro ⟨commits, present, user, uploads, found⟩
    obtain ⟨result, saves⟩ : ∃ result, createPrivateMessageBody env.now message.senderId message.dto
        message.ciphered conversation sender receiver members store = .ok result := by
      unfold createPrivateMessageBody
      simp only
      rw [shape]
      exact persistMessage_done present user (files.trans found)
    obtain ⟨saved, next⟩ := result
    rw [transaction, saves, commits] at failed
    cases failed
  · have body : persistMessage env.now message.senderId conversation.id members message.ciphered message.dto.content
        message.dto.attachments (restoreIfDeleted env.now receiver conversation.id
          (parseUuid message.dto.receiverId)
          (restoreIfDeleted env.now sender conversation.id message.senderId store)) = .ok (saved, next) := done
    obtain ⟨present, id, uploads, found, final⟩ := persistMessage_ok body
    have user := persistMessage_sender body
    rw [shape] at present id found user
    refine .inr ⟨⟨commits, present, user, uploads, files.symm.trans found⟩, saved, uploads, id, ?_⟩
    rw [equal, final]

end Commits

section Steps
variable {platform : Platform} {senderId receiverId : Uuid} {store : Store} {entry : Uuid × Uuid} {userId : Uuid}

theorem Sees.createConversation (platform : Platform) (sees : Sees entry userId store) (env : Env) (params : CreateConversationParams) :
    Sees entry userId (createPrivateConversation platform env params store).2 := by
  refine transaction_keeps sees ?_
  intro conversation next done
  obtain ⟨-, final, -⟩ := createConversation_ok done
  rw [final]
  refine sees.carry ?_ (fun _ inside _ => inside) ?_
  · obtain ⟨member, inside, key, active⟩ := exists_active_iff.mp sees.active
    exact exists_active_iff.mpr ⟨member, List.mem_append_left _ inside, key, active⟩
  · exact fun other inside _ => ⟨other, List.mem_append_left _ inside, rfl⟩

theorem Sees.mark (sees : Sees entry userId store) (now : Nat) {conversationId : Uuid} (other : entry.1 ≠ conversationId)
    (markedUser : Uuid) : Sees entry userId (markConversationAsDeleted now conversationId markedUser store) := by
  refine sees.carry ?_ (fun _ inside _ => inside) fun conversation inside _ => ⟨conversation, inside, rfl⟩
  exact (exists_active_mark now conversationId markedUser).mpr ⟨sees.active, fun same => other (congrArg Prod.fst same)⟩

theorem Sees.deleteConversation (sees : Sees entry userId store) {conversationId : Uuid}
    (other : entry.1 ≠ conversationId) : Sees entry userId (deleteConversation conversationId store) := by
  refine sees.carry ((exists_active_deleteConversation conversationId).mpr ⟨sees.active, other⟩) ?_ ?_
  · intro message inside place
    exact List.mem_filter.mpr ⟨inside, congrArg not (beq_eq_false_iff_ne.mpr (place ▸ other))⟩
  · intro conversation inside id
    have kept : (conversation.id == conversationId) = false := beq_eq_false_iff_ne.mpr (id ▸ other)
    obtain ⟨row, listed, same, -⟩ : ∃ row ∈ (store.deleteConversations fun id => id == conversationId).conversations,
        row.id = conversation.id ∧ row.type = conversation.type := deleteConversations_keeps inside kept
    exact ⟨row, listed, same⟩

/-- A deletion of another conversation keeps the message in sight. -/
theorem Sees.finishDeletion (sees : Sees entry userId store) (now : Nat) {conversationId : Uuid}
    (other : entry.1 ≠ conversationId) (markedUser : Uuid) (remaining : Nat) :
    Sees entry userId (finishDeletion now markedUser conversationId remaining store) := by
  have marked := sees.mark now other markedUser
  unfold ConversationService.finishDeletion
  simp only
  split
  · exact marked.deleteConversation other
  · exact marked

/-- A deletion hides the conversation from its user. -/
theorem finishDeletion_hides (now conversationId : Nat) (remaining : Nat) :
    existsMember (finishDeletion now userId conversationId remaining store) conversationId userId = false := by
  unfold finishDeletion
  simp only
  split
  · refine Bool.eq_false_iff.mpr fun active => ?_
    exact ((exists_active_deleteConversation conversationId).mp active).2 rfl
  · refine Bool.eq_false_iff.mpr fun active => ?_
    exact ((exists_active_mark now conversationId userId).mp active).2 rfl

/-- The two users are active after the transaction exactly when their rows were, or were read as deleted. -/
theorem exists_active_saved (now : Nat) (message : PrivateDraft) (sender receiver : Option ConversationMember)
    (members : List ConversationMember) (uploads : List PendingUpload) (conversationId : Uuid) :
    existsMember (persisted now message.senderId conversationId members message.ciphered uploads
        (restoreIfDeleted now receiver conversationId (parseUuid message.dto.receiverId)
          (restoreIfDeleted now sender conversationId message.senderId store))) conversationId userId = true ↔
      existsMember store conversationId userId = true ∨
        userId ∈ memberIds store conversationId ∧ ReadAsDeleted message sender receiver userId := by
  rw [exists_active_persisted, exists_active_restoreIfDeleted, exists_active_restoreIfDeleted,
    mem_memberIds_restoreIfDeleted]
  unfold ReadAsDeleted
  simp only [Prod.mk.injEq, true_and]
  rw [and_or_left, or_assoc]

/-- A saved message keeps the earlier ones in sight. -/
theorem Sees.saveMessage (sees : Sees entry userId store) (now : Nat) (message : PrivateDraft)
    (sender receiver : Option ConversationMember) (members : List ConversationMember) (uploads : List PendingUpload)
    (conversationId : Uuid) :
    Sees entry userId (persisted now message.senderId conversationId members message.ciphered uploads
      (restoreIfDeleted now receiver conversationId (parseUuid message.dto.receiverId)
        (restoreIfDeleted now sender conversationId message.senderId store))) := by
  have restoring : SameRooms store (restoreIfDeleted now receiver conversationId (parseUuid message.dto.receiverId)
      (restoreIfDeleted now sender conversationId message.senderId store)) :=
    (SameRooms.restoreIfDeleted now sender conversationId message.senderId store).trans
      (.restoreIfDeleted now receiver conversationId _ _)
  refine sees.carry ?_ ?_ ?_
  · rw [exists_active_persisted, exists_active_restoreIfDeleted, exists_active_restoreIfDeleted]
    exact .inl (.inl sees.active)
  · intro other inside _
    refine List.mem_append_left _ ?_
    unfold restoreIfDeleted
    split <;> split <;> exact inside
  · intro conversation inside _
    have rooms := (restoring.trans (.persisted now message.senderId conversationId members message.ciphered uploads
      _)).conversations
    have ids := congrArg (List.map Prod.fst) rooms
    rw [← map_id_eq, ← map_id_eq] at ids
    have listed := List.mem_map_of_mem (f := Conversation.id) inside
    rw [← ids] at listed
    exact List.mem_map.mp listed

/-- A user whose row is active, or is restored, sees the new message. -/
theorem sees_saved {env : Env} {message : PrivateDraft} {conversation : Conversation} {saved : SavedMessage}
    (commits : CommitsMessage env message conversation store) (id : saved.id = store.nextId) (now : Nat)
    (sender receiver : Option ConversationMember) (members : List ConversationMember) (uploads : List PendingUpload)
    (row : existsMember store conversation.id userId = true ∨
      userId ∈ memberIds store conversation.id ∧ ReadAsDeleted message sender receiver userId) :
    Sees (conversation.id, saved.id) userId
      (persisted now message.senderId conversation.id members message.ciphered uploads
        (restoreIfDeleted now receiver conversation.id (parseUuid message.dto.receiverId)
          (restoreIfDeleted now sender conversation.id message.senderId store))) := by
  have same : (restoreIfDeleted now receiver conversation.id (parseUuid message.dto.receiverId)
      (restoreIfDeleted now sender conversation.id message.senderId store)).nextId = saved.id ∧
      (restoreIfDeleted now receiver conversation.id (parseUuid message.dto.receiverId)
      (restoreIfDeleted now sender conversation.id message.senderId store)).conversations = store.conversations := by
    unfold restoreIfDeleted
    split <;> split <;> exact ⟨id.symm, rfl⟩
  refine ⟨(exists_active_saved now message sender receiver members uploads conversation.id).mpr row, ?_, ?_⟩
  · exact ⟨_, List.mem_append_right _ (List.mem_singleton_self _), rfl, same.1⟩
  · obtain ⟨stored, inside, place⟩ := hasConversation_iff.mp commits.2.1
    refine hasConversation_iff.mpr ⟨_, mem_updateWhere.mpr ⟨stored, same.2 ▸ inside, rfl⟩, ?_⟩
    split <;> exact place

theorem start_between {call : Env × ReopeningCall senderId receiverId} {task : PrivateTask}
    (waits : (PrivateTask.start platform store (call.1, call.2.call)).2 = some task) :
    task.Between senderId receiverId := by
  obtain ⟨env, call⟩ := call
  unfold PrivateTask.start at waits
  cases call with
  | createPrivateMessage dto receiver =>
      simp only [ReopeningCall.call] at waits
      split at waits
      · cases waits
      · cases waits
        exact ⟨rfl, receiver⟩
      · cases waits
        exact ⟨rfl, receiver⟩
  | deletePrivateConversation userId conversationId party =>
      simp only [ReopeningCall.call] at waits
      split at waits
      · cases waits
      · cases waits
        exact party

theorem resume_between {task next : PrivateTask} {env : Env} (between : task.Between senderId receiverId)
    (waits : (PrivateTask.resume platform store task env).2 = some next) : next.Between senderId receiverId := by
  unfold PrivateTask.resume at waits
  cases task with
  | createConversation message =>
      simp only at waits
      split at waits
      · cases waits
      · cases waits
        exact between
  | findMembers message conversation =>
      cases waits
      exact between
  | countRemaining userId conversationId =>
      cases waits
      exact between
  | saveMessage message conversation sender receiver members => cases waits
  | commitDeletion userId conversationId now remaining => cases waits
  | commitLeave userId conversationId => exact absurd between id
  | deleteFiles dto doomed => exact absurd between id
  | commitUser dto doomed => exact absurd between id

/-- Both users see the messages of these entries. -/
def BothSee (senderId receiverId : Uuid) (store : Store) (entries : List (Uuid × Uuid)) : Prop :=
  ∀ entry ∈ entries, ∀ userId, userId = senderId ∨ userId = receiverId → Sees entry userId store

/-- The calls of the two users keep their messages in sight. -/
structure Reopening (senderId receiverId : Uuid) (progress : Library.Progress ReopeningState PrivateTask) : Prop where
  sees : BothSee senderId receiverId progress.state.store progress.state.reopened
  tasks : ∀ task ∈ progress.pending, task.Between senderId receiverId

theorem resume_sees {progress : Library.Progress ReopeningState PrivateTask}
    (reopening : Reopening senderId receiverId progress) {task : PrivateTask} {env : Env}
    (between : task.Between senderId receiverId) (met : Reopens senderId receiverId progress task env) :
    BothSee senderId receiverId (PrivateTask.resume platform progress.state.store task env).1
      (progress.state.reopened ++ task.reopens progress.state.store env) := by
  have sees := reopening.sees
  cases task with
  | createConversation message =>
      simp only [PrivateTask.reopens, List.append_nil]
      intro entry inside userId party
      rw [resume_createConversation_store]
      exact (sees entry inside userId party).createConversation platform env message.params
  | findMembers message conversation =>
      simp only [PrivateTask.reopens, List.append_nil]
      exact sees
  | countRemaining userId conversationId =>
      simp only [PrivateTask.reopens, List.append_nil]
      exact sees
  | saveMessage message conversation sender receiver members =>
      unfold PrivateTask.resume PrivateTask.reopens
      simp only
      obtain ⟨-, exception, failed⟩ | ⟨commits, saved, uploads, id, equal⟩ :=
        saveMessage_cases env message conversation sender receiver members progress.state.store
      · rw [failed, List.append_nil]
        exact sees
      · rw [equal]
        intro entry inside userId party
        obtain old | new := List.mem_append.mp inside
        · exact (sees entry old userId party).saveMessage env.now message sender receiver members uploads _
        · cases List.mem_singleton.mp new
          exact sees_saved commits id env.now sender receiver members uploads (met commits userId party)
  | commitDeletion userId conversationId now remaining =>
      simp only [PrivateTask.reopens, List.append_nil]
      intro entry inside user party
      unfold PrivateTask.resume
      simp only
      obtain ⟨exception, failed⟩ | ⟨value, next, done, commits, equal⟩ := transaction_cases (env.succeeds 0)
        progress.state.store fun current => .ok ((), finishDeletion now userId conversationId remaining current)
      · rw [failed]
        exact sees entry inside user party
      · rw [equal]
        cases done
        exact (sees entry inside user party).finishDeletion now (met commits entry inside) userId remaining
  | commitLeave userId conversationId => exact absurd between id
  | deleteFiles dto doomed => exact absurd between id
  | commitUser dto doomed => exact absurd between id

/-- A commit that misses the condition hides a message from one of the two users. -/
theorem reopens_of_resume {progress : Library.Progress ReopeningState PrivateTask} {task : PrivateTask} {env : Env}
    (between : task.Between senderId receiverId)
    (shown : Reopened senderId receiverId ⟨(PrivateTask.resume platform progress.state.store task env).1,
      progress.state.reopened ++ task.reopens progress.state.store env⟩) :
    Reopens senderId receiverId progress task env := by
  cases task with
  | saveMessage message conversation sender receiver members =>
      intro commits userId party
      obtain ⟨fails, -⟩ | ⟨-, saved, uploads, -, equal⟩ :=
        saveMessage_cases env message conversation sender receiver members progress.state.store
      · exact absurd commits fails
      · unfold PrivateTask.resume PrivateTask.reopens at shown
        simp only at shown
        rw [equal] at shown
        have listed := shown (conversation.id, saved.id) (List.mem_append_right _ (List.mem_singleton_self _)) userId
          party
        exact (exists_active_saved env.now message sender receiver members uploads conversation.id).mp listed.active
  | commitDeletion userId conversationId now remaining =>
      intro commits entry inside same
      have active := (shown entry (List.mem_append_left _ inside) userId between).active
      unfold PrivateTask.resume at active
      simp only [transaction] at active
      rw [if_pos commits, same, finishDeletion_hides] at active
      cases active
  | createConversation message => trivial
  | findMembers message conversation => trivial
  | countRemaining userId conversationId => trivial
  | commitLeave userId conversationId => trivial
  | deleteFiles dto doomed => trivial
  | commitUser dto doomed => trivial

theorem Reopening.advance {progress : Library.Progress ReopeningState PrivateTask}
    (reopening : Reopening senderId receiverId progress) {turn : Turn (Env × ReopeningCall senderId receiverId) Env}
    (met : OnResume (Reopens senderId receiverId) progress turn) :
    Reopening senderId receiverId ((reopeningSystem platform senderId receiverId).advance progress turn) := by
  refine (reopeningSystem platform senderId receiverId).advance_keeps (Reopening senderId receiverId) reopening ?_ ?_
  · intro call _
    constructor
    · intro entry inside userId party
      have kept : entry ∈ progress.state.reopened := (List.mem_filter.mp inside).1
      have same : (PrivateTask.start platform progress.state.store (call.1, call.2.call)).1 =
          progress.state.store := start_store (call.1, call.2.call)
      change Sees entry userId (PrivateTask.start platform progress.state.store (call.1, call.2.call)).1
      rw [same]
      exact reopening.sees entry kept userId party
    · intro task inside
      obtain old | new := mem_waiting.mp inside
      · exact reopening.tasks task old
      · exact start_between new
  · rintro position env task rfl present
    have between := reopening.tasks task (List.mem_of_getElem? present)
    constructor
    · exact resume_sees reopening between (met task present)
    · intro next inside
      obtain old | new := mem_waiting.mp inside
      · exact reopening.tasks next (List.mem_of_mem_eraseIdx old)
      · exact resume_between between new

/-- A message that commits is in the lists of both users until the next deletion of its conversation starts,
exactly when each message restores its members and no deletion that started before it commits after it. -/
theorem messages_reopen_iff (platform : Platform) (senderId receiverId : Uuid) (store : Store)
    (turns : List (Turn (Env × ReopeningCall senderId receiverId) Env)) :
    (∀ position, Reopened senderId receiverId
        (stateAt (reopeningSystem platform senderId receiverId).advance ⟨⟨store, []⟩, []⟩ turns position).state) ↔
      Meets (reopeningSystem platform senderId receiverId).advance (OnResume (Reopens senderId receiverId))
        ⟨⟨store, []⟩, []⟩ turns := by
  apply always_iff_meets (reopeningSystem platform senderId receiverId).advance (Reopening senderId receiverId)
    fun progress => Reopened senderId receiverId progress.state
  · constructor
    · exact fun _ inside => absurd inside List.not_mem_nil
    · exact fun _ inside => absurd inside List.not_mem_nil
  · exact fun _ reopening entry inside userId party => (reopening.sees entry inside userId party).inList
  · exact fun _ _ reopening met => reopening.advance met
  · intro progress turn reopening shown
    cases turn with
    | call call => trivial
    | resume position env =>
        intro task present
        have between := reopening.tasks task (List.mem_of_getElem? present)
        rw [Cooperative.advance_resume _ present] at shown
        exact reopens_of_resume between shown

end Steps

/-- User 2 deletes the conversation after a message has read its members and before the message commits. -/
def missedDeletion : List (Turn (Env × ReopeningCall 1 2) Env) :=
  [.call ({ now := 1000 }, .createPrivateMessage { receiverId := uuidText 2, content := [104], attachments := [] } rfl),
    .resume 0 { now := 2000 }, .resume 0 { now := 3000 }, .resume 0 { now := 4000 },
    .call ({ now := 5000 }, .createPrivateMessage { receiverId := uuidText 2, content := [105], attachments := [] } rfl),
    .resume 0 { now := 6000 }, .call ({ now := 7000 }, .deletePrivateConversation 2 10 (.inr rfl)),
    .resume 1 { now := 8000 }, .resume 1 { now := 9000 }, .resume 0 { now := 10000 }]

/-- The message does not restore the row of user 2, which it has read as active. -/
theorem missed_deletion_hides_message :
    ¬ ∀ position, Reopened 1 2
      (stateAt (reopeningSystem plainPlatform 1 2).advance ⟨⟨strangersOfTwo, []⟩, []⟩ missedDeletion position).state := by
  intro reopened
  have hidden : ∃ entry ∈ (stateAt (reopeningSystem plainPlatform 1 2).advance ⟨⟨strangersOfTwo, []⟩, []⟩
      missedDeletion 10).state.reopened, existsMember (stateAt (reopeningSystem plainPlatform 1 2).advance
        ⟨⟨strangersOfTwo, []⟩, []⟩ missedDeletion 10).state.store entry.1 2 = false := by
    decide
  obtain ⟨entry, inside, gone⟩ := hidden
  have active := (reopened 10 entry inside 2 (.inr rfl)).active
  rw [gone] at active
  cases active

end Messinger
