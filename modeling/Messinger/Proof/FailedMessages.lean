import Messinger.Proof.Reopenings

namespace Messinger
open Library ConversationMemberRepository ConversationRepository ConversationService MessageService StorageService
  PendingUploadRepository

/-- A call that throws leaves every table and the bucket as they are. -/
def LeavesNoTrace {A : Type} (store : Store) (outcome : Outcome A) : Prop :=
  ∀ exception, outcome.1 = .error exception → { outcome.2 with nextId := store.nextId } = store

/-- The attachment names an upload of the user that has not expired and has an object. -/
def Attachable (now : Nat) (userId : Uuid) (store : Store) (attachment : MessageAttachmentDto) : Prop :=
  ∃ upload, findByIdAndUser store attachment.id userId = some upload ∧
    getTime now ≤ getTime upload.expiresAt ∧ upload.storageKey ∈ store.bucket

/-- The call opens a conversation: none has its key, both users exist, the keys of the member rows are free, and the
database commits them. -/
structure OpensConversation (platform : Platform) (env : Env) (senderId : Uuid) (dto : PrivateMessageDto)
    (store : Store) : Prop where
  missing : findByPrivateKey store (keyOf platform senderId dto.receiverId) = none
  sender : store.hasUser senderId = true
  receiver : store.hasUser (parseUuid dto.receiverId) = true
  keys : ((store.members ++ newMembers env.now (privateMessageParams senderId dto)
    (normalizeMembers (uuidText senderId) [dto.receiverId]) store.nextId).map ConversationMember.key).Nodup
  commits : env.succeeds 0 = true

/-- Every attachment of the message is usable, and the database commits its transaction. -/
structure CommitsWithFiles (env : Env) (senderId : Uuid) (dto : PrivateMessageDto) (store : Store) : Prop where
  files : ∀ attachment ∈ dto.attachments, Attachable env.now senderId store attachment
  commits : env.succeeds 1 = true

/-- A step that cannot throw leaves it to the step before it. -/
theorem ok_bind_iff {A B : Type} {first : Except Exception A} {change : A → B} :
    (∃ result, (first >>= fun value => pure (change value)) = .ok result) ↔ ∃ value, first = .ok value := by
  cases first with
  | error exception =>
      constructor
      · rintro ⟨_, done⟩
        cases done
      · rintro ⟨_, done⟩
        cases done
  | ok value => exact iff_of_true ⟨_, rfl⟩ ⟨_, rfl⟩

section Files
variable {now : Nat} {userId : Uuid} {store : Store}

/-- The uploads of a message are found exactly when each of its attachments is usable. -/
theorem findUploads_ok_iff (attachments : List MessageAttachmentDto) :
    (∃ uploads, findUploads now userId store attachments = .ok uploads) ↔
      ∀ attachment ∈ attachments, Attachable now userId store attachment := by
  induction attachments with
  | nil => exact iff_of_true ⟨[], rfl⟩ (fun _ inside => absurd inside List.not_mem_nil)
  | cons attachment rest ih =>
      rw [List.forall_mem_cons, ← ih]
      constructor
      · rintro ⟨uploads, found⟩
        obtain ⟨upload, others, located, current, stored, tail, -⟩ := findUploads_cons_ok_iff.mp found
        exact ⟨⟨upload, located, current, stored⟩, others, tail⟩
      · rintro ⟨⟨upload, located, current, stored⟩, others, tail⟩
        exact ⟨_, findUploads_cons_ok_iff.mpr ⟨upload, others, located, current, stored, tail, rfl⟩⟩

end Files

section Opening
variable {platform : Platform} {env : Env} {senderId : Uuid} {dto : PrivateMessageDto} {store : Store}

/-- A call that opens a conversation inserts it. -/
theorem OpensConversation.opening (opens : OpensConversation platform env senderId dto store) :
    getOrCreatePrivateConversation platform env (privateMessageParams senderId dto) store =
      (.ok (newConversation env.now .privateType (some (keyOf platform senderId dto.receiverId)) store.nextId),
        opened env.now (privateMessageParams senderId dto) (some (keyOf platform senderId dto.receiverId))
          (normalizeMembers (uuidText senderId) [dto.receiverId]) store) := by
  obtain ⟨⟨conversation, next⟩, done⟩ := (createConversation_done env.now senderId dto _ opens.missing).mpr
    ⟨opens.sender, opens.receiver, opens.keys⟩
  obtain ⟨same, final, -⟩ := createConversation_ok done
  have isPrivate : (privateMessageParams senderId dto).type = .privateType := rfl
  rw [getOrCreate_missing opens.missing, transaction, done, opens.commits]
  simp only [if_true]
  rw [same, final, isPrivate]

/-- A call that opens no conversation leaves the store until its message transaction. -/
theorem getOrCreate_unopened (unopened : ¬ OpensConversation platform env senderId dto store) :
    (getOrCreatePrivateConversation platform env (privateMessageParams senderId dto) store).2 = store := by
  cases missing : findByPrivateKey store (keyOf platform senderId dto.receiverId) with
  | some existing => rw [getOrCreate_found missing]
  | none =>
      rw [getOrCreate_missing missing]
      rcases transaction_cases (env.succeeds 0) store (createConversation env.now (privateMessageParams senderId dto)
        (some (keyOf platform senderId dto.receiverId)) (normalizeMembers (uuidText senderId) [dto.receiverId])) with
        ⟨exception, failed⟩ | ⟨value, written, done, commits, -⟩
      · exact congrArg Prod.snd failed
      · obtain ⟨sender, receiver, keys⟩ := (createConversation_done env.now senderId dto _ missing).mp ⟨_, done⟩
        exact absurd ⟨missing, sender, receiver, keys, commits⟩ unopened

/-- The message transaction has what it writes when its conversation, its sender and its files are there. -/
theorem createPrivateMessageBody_ok_iff (conversation : Conversation) (ciphered : CipheredMessage)
    (sender receiver : Option ConversationMember) (members : List ConversationMember)
    (present : store.hasConversation conversation.id = true) (user : store.hasUser senderId = true) :
    (∃ result, createPrivateMessageBody env.now senderId dto ciphered conversation sender receiver members store =
      .ok result) ↔ ∀ attachment ∈ dto.attachments, Attachable env.now senderId store attachment := by
  obtain ⟨rows, shape⟩ : ∃ rows, restoreIfDeleted env.now receiver conversation.id (parseUuid dto.receiverId)
      (restoreIfDeleted env.now sender conversation.id senderId store) = { store with members := rows } := by
    unfold restoreIfDeleted
    split <;> split <;> exact ⟨_, rfl⟩
  have files : findUploads env.now senderId { store with members := rows } dto.attachments =
      findUploads env.now senderId store dto.attachments :=
    findUploads_congr store { store with members := rows } rfl rfl _
  unfold createPrivateMessageBody
  simp only
  rw [shape, ← findUploads_ok_iff, ← files]
  constructor
  · rintro ⟨⟨saved, next⟩, done⟩
    obtain ⟨-, -, uploads, found, -⟩ := persistMessage_ok done
    exact ⟨uploads, found⟩
  · rintro ⟨uploads, found⟩
    exact persistMessage_done present user found

/-- After it has opened its conversation, the call returns exactly when its message commits. -/
theorem OpensConversation.returns_iff (opens : OpensConversation platform env senderId dto store) :
    (∃ result, (createPrivateMessage platform env senderId dto store).1 = .ok result) ↔
      CommitsWithFiles env senderId dto store := by
  have params : privateMessageParams senderId dto =
      { type := .privateType, creatorId := uuidText senderId, members := [dto.receiverId] } := rfl
  have opening := opens.opening
  obtain ⟨between, same⟩ : ∃ between, between = opened env.now (privateMessageParams senderId dto)
      (some (keyOf platform senderId dto.receiverId)) (normalizeMembers (uuidText senderId) [dto.receiverId]) store :=
    ⟨_, rfl⟩
  rw [← same] at opening
  have present : between.hasConversation store.nextId = true := by
    rw [same]
    exact hasConversation_iff.mpr ⟨_, List.mem_append_right _ (List.mem_singleton_self _), rfl⟩
  have user : between.hasUser senderId = true := by
    rw [same]
    exact opens.sender
  have usable (attachment : MessageAttachmentDto) :
      Attachable env.now senderId between attachment ↔ Attachable env.now senderId store attachment := by
    rw [same]
    exact Iff.rfl
  unfold createPrivateMessage
  rw [← params, opening]
  simp only
  rw [transaction_returns_iff, ok_bind_iff, createPrivateMessageBody_ok_iff _ _ _ _ _ present user]
  simp only [usable]
  exact ⟨fun both => ⟨both.2, both.1⟩, fun both => ⟨both.commits, both.files⟩⟩

/-- When its message fails, the conversation stays behind. -/
theorem OpensConversation.left (opens : OpensConversation platform env senderId dto store) {exception : Exception}
    (failed : (createPrivateMessage platform env senderId dto store).1 = .error exception) :
    (createPrivateMessage platform env senderId dto store).2 =
      opened env.now (privateMessageParams senderId dto) (some (keyOf platform senderId dto.receiverId))
        (normalizeMembers (uuidText senderId) [dto.receiverId]) store := by
  have params : privateMessageParams senderId dto =
      { type := .privateType, creatorId := uuidText senderId, members := [dto.receiverId] } := rfl
  unfold createPrivateMessage at failed ⊢
  rw [← params, opens.opening] at failed ⊢
  simp only at failed ⊢
  rcases transaction_outcome rfl with ⟨exception, thrown⟩ | ⟨value, next, -, returned⟩
  · exact congrArg Prod.snd thrown
  · rw [returned] at failed
    cases failed

/-- A call that opens no conversation throws without a trace. -/
theorem createPrivateMessage_unopened (unopened : ¬ OpensConversation platform env senderId dto store)
    {exception : Exception} (failed : (createPrivateMessage platform env senderId dto store).1 = .error exception) :
    (createPrivateMessage platform env senderId dto store).2 = store := by
  have same := getOrCreate_unopened unopened
  rcases createPrivateMessage_cases platform env senderId dto store with ⟨other, thrown⟩ |
    ⟨conversation, between, opening, ⟨other, thrown⟩ | ⟨saved, next, returned, -⟩⟩
  · rw [thrown]
  · rw [opening] at same
    rw [thrown]
    exact same
  · rw [returned] at failed
    cases failed

/-- A private message that fails leaves no trace exactly when it opens no conversation or its message commits. -/
theorem failed_message_leaves_no_trace_iff (platform : Platform) (env : Env) (senderId : Uuid)
    (dto : PrivateMessageDto) (store : Store) :
    LeavesNoTrace store (createPrivateMessage platform env senderId dto store) ↔
      (OpensConversation platform env senderId dto store → CommitsWithFiles env senderId dto store) := by
  constructor
  · intro traceless opens
    rw [← opens.returns_iff]
    cases failed : (createPrivateMessage platform env senderId dto store).1 with
    | ok result => exact ⟨result, rfl⟩
    | error exception =>
        have kept := congrArg Store.conversations (traceless exception failed)
        rw [opens.left failed] at kept
        exact absurd (List.append_right_eq_self.mp kept) (List.cons_ne_nil _ _)
  · intro condition exception failed
    by_cases opens : OpensConversation platform env senderId dto store
    · obtain ⟨result, returned⟩ := opens.returns_iff.mpr (condition opens)
      rw [returned] at failed
      cases failed
    · rw [createPrivateMessage_unopened opens failed]

end Opening

/-- The first user sends the second one an upload that is not there. -/
def lostUpload : PrivateMessageDto :=
  { receiverId := uuidText 0x4000800000000000000b, content := [104], attachments := [{ id := 5 }] }

/-- The message fails, and each of the two users has a new conversation without messages in the list. -/
theorem lost_upload_leaves_conversation :
    ¬ LeavesNoTrace pairStore (createPrivateMessage plainPlatform { now := 1 } 0x4000800000000000000a lostUpload pairStore) ∧
      ∀ userId ∈ pairUsers, ∃ conversation, getConversationList
        (createPrivateMessage plainPlatform { now := 1 } 0x4000800000000000000a lostUpload pairStore).2 userId
          { limit := 20 } = [conversation] ∧ conversation.lastMessageId = none := by
  refine ⟨fun traceless => ?_, ?_⟩
  · have kept := traceless (.badRequest "ATTACHMENT:INVALID_UPLOAD") (by decide)
    exact absurd (congrArg (fun store => store.conversations.length) kept) (by decide)
  · intro userId inside
    rcases List.mem_cons.mp inside with rfl | second
    · exact ⟨_, rfl, by decide⟩
    · rcases List.mem_singleton.mp second with rfl
      exact ⟨_, rfl, by decide⟩

end Messinger
