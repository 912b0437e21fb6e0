import Messinger.Proof.ConsistentCalls

namespace Messinger
open Library ConversationMemberRepository ConversationRepository ConversationService MessageService
  MessageAttachmentRepository StorageService

/-- The stores have the same messages, attachments, uploads and files. -/
structure SameFiles (store next : Store) : Prop where
  messages : next.messages = store.messages
  attachments : next.attachments = store.attachments
  pendingUploads : next.pendingUploads = store.pendingUploads
  bucket : next.bucket = store.bucket
  later : store.nextId ≤ next.nextId

theorem SameFiles.refl (store : Store) : SameFiles store store := ⟨rfl, rfl, rfl, rfl, Nat.le_refl _⟩

theorem SameFiles.trans {store next last : Store} (first : SameFiles store next) (second : SameFiles next last) :
    SameFiles store last where
  messages := second.messages.trans first.messages
  attachments := second.attachments.trans first.attachments
  pendingUploads := second.pendingUploads.trans first.pendingUploads
  bucket := second.bucket.trans first.bucket
  later := Nat.le_trans first.later second.later

/-- The call saves the message, and the uploads that its list names become attachments of it. -/
structure SavesMessage (now : Nat) (senderId : Uuid) (attachments : List MessageAttachmentDto)
    (message : Message) (uploads : List PendingUpload) (store next : Store) : Prop where
  found : findUploads now senderId store attachments = .ok uploads
  fresh : store.nextId ≤ message.id
  spent : message.id < next.nextId
  sender : message.senderId = some senderId
  time : message.createdAt = now
  messages : next.messages = store.messages ++ [message]
  attachments : ∀ attachment ∈ next.attachments, attachment ∈ store.attachments ∨
    ∃ upload ∈ uploads, ∃ id, attachment = ofUpload now message.id id upload
  pendingUploads : ∀ upload ∈ next.pendingUploads, upload ∈ store.pendingUploads
  bucket : next.bucket = store.bucket

section Calls
variable {store : Store}

theorem persisted_saves {now : Nat} {senderId conversationId : Uuid} {members : List ConversationMember}
    {ciphered : CipheredMessage} {attachments : List MessageAttachmentDto} {uploads : List PendingUpload}
    (found : findUploads now senderId store attachments = .ok uploads) :
    SavesMessage now senderId attachments (newMessage now senderId conversationId ciphered store.nextId) uploads
      store (persisted now senderId conversationId members ciphered uploads store) where
  found := found
  fresh := Nat.le_refl _
  spent := by
    change store.nextId < store.nextId + 1 + (recipients members senderId).length + uploads.length
    exact Nat.lt_of_lt_of_le (Nat.lt_succ_self _) (Nat.le_trans (Nat.le_add_right _ _) (Nat.le_add_right _ _))
  sender := rfl
  time := rfl
  messages := rfl
  attachments attachment inside := by
    obtain old | new := List.mem_append.mp inside
    · exact .inl old
    · obtain ⟨⟨upload, index⟩, listed, same⟩ := List.mem_map.mp new
      exact .inr ⟨upload, List.fst_mem_of_mem_zipIdx listed, _, same.symm⟩
  pendingUploads _ inside := (List.mem_filter.mp inside).1
  bucket := rfl

/-- A message that follows writes outside the files saves what it saves without them. -/
theorem SavesMessage.after {now : Nat} {senderId : Uuid} {attachments : List MessageAttachmentDto}
    {message : Message} {uploads : List PendingUpload} {between next : Store}
    (saves : SavesMessage now senderId attachments message uploads between next) (same : SameFiles store between) :
    SavesMessage now senderId attachments message uploads store next where
  found := (findUploads_congr store between same.pendingUploads same.bucket attachments).symm.trans saves.found
  fresh := Nat.le_trans same.later saves.fresh
  spent := saves.spent
  sender := saves.sender
  time := saves.time
  messages := by rw [saves.messages, same.messages]
  attachments := by
    rw [← same.attachments]
    exact saves.attachments
  pendingUploads := by
    rw [← same.pendingUploads]
    exact saves.pendingUploads
  bucket := saves.bucket.trans same.bucket

theorem getOrCreate_sameFiles (platform : Platform) (env : Env) (params : CreateConversationParams)
    (isPrivate : params.type = .privateType) (store : Store) :
    SameFiles store (getOrCreatePrivateConversation platform env params store).2 := by
  obtain ⟨exception, failed⟩ | ⟨privateKey, conversation, next, -, done, ⟨same, -⟩ | ⟨-, -, final, -⟩⟩ :=
    getOrCreatePrivateConversation_cases platform env params isPrivate store
  · rw [failed]
    exact .refl store
  · rw [done, same]
    exact .refl store
  · rw [done, final]
    exact ⟨rfl, rfl, rfl, rfl, Nat.le_succ _⟩

/-- A private message is saved, or all files stay as they are. -/
theorem createPrivateMessage_files (platform : Platform) (env : Env) (senderId : Uuid) (dto : PrivateMessageDto)
    (store : Store) :
    SameFiles store (createPrivateMessage platform env senderId dto store).2 ∨
      ∃ message uploads, SavesMessage env.now senderId dto.attachments message uploads store
        (createPrivateMessage platform env senderId dto store).2 := by
  have opening := getOrCreate_sameFiles platform env (privateMessageParams senderId dto) rfl store
  obtain ⟨exception, failed⟩ | ⟨conversation, between, done, ⟨exception, failed⟩ |
    ⟨saved, next, final, -, -, uploads, found, equal⟩⟩ := createPrivateMessage_cases platform env senderId dto store
  · rw [failed]
    exact .inl (.refl store)
  · rw [done] at opening
    rw [failed]
    exact .inl opening
  · rw [done] at opening
    rw [final, equal]
    obtain ⟨rows, shape⟩ := restored_eq env.now senderId (parseUuid dto.receiverId) conversation.id between
    rw [shape]
    have restored : SameFiles store { between with members := rows } :=
      opening.trans ⟨rfl, rfl, rfl, rfl, Nat.le_refl _⟩
    rw [← findUploads_congr between { between with members := rows } rfl rfl] at found
    exact .inr ⟨_, uploads, (persisted_saves found).after restored⟩

/-- A group message is saved, or the store stays as it is. -/
theorem createGroupMessage_files (platform : Platform) (env : Env) (senderId : Uuid) (dto : GroupMessageDto)
    (store : Store) :
    (createGroupMessage platform env senderId dto store).2 = store ∨
      ∃ message uploads, SavesMessage env.now senderId dto.attachments message uploads store
        (createGroupMessage platform env senderId dto store).2 := by
  obtain ⟨exception, failed⟩ | ⟨-, -, saved, uploads, -, -, -, -, -, found, answered⟩ :=
    createGroupMessage_cases platform env senderId dto store
  · rw [failed]
    exact .inl rfl
  · rw [answered]
    exact .inr ⟨_, uploads, persisted_saves found⟩

theorem confirmDelivery_sameFiles (env : Env) (userId : Uuid) (dto : MessageDeliveryDto) (store : Store) :
    SameFiles store (confirmDelivery env userId dto store).2 := by
  obtain ⟨rows, same | counted⟩ := confirmDelivery_writes env userId dto store
  · rw [same]
    exact ⟨rfl, rfl, rfl, rfl, Nat.le_refl _⟩
  · rw [counted]
    exact ⟨rfl, rfl, rfl, rfl, Nat.le_refl _⟩

theorem syncPendingMessages_sameFiles (platform : Platform) (env : Env) (connected : Bool) (userId : Uuid)
    (store : Store) : SameFiles store (syncPendingMessages platform env connected userId store).2 := by
  obtain ⟨rows, same⟩ := syncPendingMessages_writes platform env connected userId store
  rw [same]
  exact ⟨rfl, rfl, rfl, rfl, Nat.le_refl _⟩

end Calls

end Messinger
