import Messinger.Proof.Calls

namespace Messinger
open Library ConversationMemberRepository ConversationRepository MessageRepository
  MessageDeliveryRepository

namespace StorageService
open PendingUploadRepository MessageAttachmentRepository

/-- The uploads depend only on the pending rows and the bucket. -/
theorem findUploads_congr {now : Nat} {userId : Uuid} (store other : Store)
    (uploads : other.pendingUploads = store.pendingUploads) (bucket : other.bucket = store.bucket)
    (attachments : List MessageAttachmentDto) :
    findUploads now userId other attachments = findUploads now userId store attachments := by
  induction attachments with
  | nil => rfl
  | cons attachment rest ih =>
      simp only [findUploads, findByIdAndUser, objectExists, uploads, bucket, ih]
      rfl

/-- The uploads are found when the first one is pending, current and stored, and the others are found. -/
theorem findUploads_cons_ok_iff {now : Nat} {userId : Uuid} {store : Store} {attachment : MessageAttachmentDto}
    {rest : List MessageAttachmentDto} {uploads : List PendingUpload} :
    findUploads now userId store (attachment :: rest) = .ok uploads ↔
      ∃ upload others, findByIdAndUser store attachment.id userId = some upload ∧
        getTime now ≤ getTime upload.expiresAt ∧ upload.storageKey ∈ store.bucket ∧
        findUploads now userId store rest = .ok others ∧ uploads = upload :: others := by
  constructor
  · intro found
    unfold findUploads at found
    simp only at found
    split at found
    · next upload located =>
        split at found
        · cases found
        · next current =>
            split at found
            · cases found
            · next stored =>
                obtain ⟨others, tail, last⟩ := ok_of_bind found
                cases last
                exact ⟨upload, others, located, Nat.not_lt.mp current,
                  List.contains_iff_mem.mp (Bool.eq_true_of_not_eq_false stored), tail, rfl⟩
    · cases found
  · rintro ⟨upload, others, located, current, stored, tail, rfl⟩
    have object : ¬ objectExists store upload.storageKey = false := by
      rw [objectExists, List.contains_iff_mem.mpr stored]
      exact Bool.noConfusion
    unfold findUploads
    simp only [located, if_neg (Nat.not_lt.mpr current), if_neg object, tail]
    rfl

theorem foldl_deleteById (uploads : List PendingUpload) (store : Store) :
    uploads.foldl (fun current upload => deleteById upload.id current) store =
      { store with pendingUploads := store.pendingUploads.filter fun row =>
          uploads.all fun upload => row.id != upload.id } := by
  induction uploads generalizing store with
  | nil => simp
  | cons upload rest ih =>
      rw [List.foldl_cons, ih]
      simp only [deleteById, List.filter_filter, List.all_cons, Bool.and_comm]

/-- This is the state that attaching uploads to a message writes. -/
def attached (now : Nat) (messageId : Uuid) (uploads : List PendingUpload) (store : Store) : Store :=
  { createAttachments now messageId uploads store with
    pendingUploads := store.pendingUploads.filter fun row =>
      uploads.all fun upload => row.id != upload.id }

theorem processMessageAttachments_ok {now : Nat} {userId messageId : Uuid}
    {attachments : List MessageAttachmentDto} {store next : Store}
    (done : processMessageAttachments now userId messageId attachments store = .ok next) :
    ∃ uploads, findUploads now userId store attachments = .ok uploads ∧
      next = attached now messageId uploads store := by
  obtain ⟨uploads, found, rest⟩ := ok_of_bind done
  cases rest
  exact ⟨uploads, found, foldl_deleteById uploads _⟩

end StorageService

namespace MessageService
open StorageService MessageAttachmentRepository

/-- The counter of a member grows once for each time the member is a recipient. -/
def countUnread (conversationId : Uuid) (targets : List Uuid) (member : ConversationMember) :
    ConversationMember :=
  { member with unreadCount := member.unreadCount +
      targets.countP fun userId => decide (member.key = (conversationId, userId)) }

theorem foldl_incrementUnreadCount (conversationId : Uuid) (targets : List Uuid) (store : Store) :
    targets.foldl (fun current userId => incrementUnreadCount conversationId userId current) store =
      { store with members := store.members.map (countUnread conversationId targets) } := by
  induction targets generalizing store with
  | nil =>
      have same : countUnread conversationId [] = id := by
        funext member
        rfl
      simp [same]
  | cons userId rest ih =>
      rw [List.foldl_cons, ih]
      simp only [incrementUnreadCount, updateMember, updateWhere, List.map_map]
      congr 1
      apply List.map_congr_left
      intro member _
      rw [Function.comp_apply]
      by_cases same : member.key = (conversationId, userId)
      · rw [if_pos (decide_eq_true same)]
        change { member with
            unreadCount := member.unreadCount + 1 +
              rest.countP fun userId => decide (member.key = (conversationId, userId)) } = _
        rw [countUnread, List.countP_cons, if_pos (decide_eq_true same), Nat.add_assoc, Nat.add_comm 1]
      · rw [if_neg (by simpa using same)]
        simp only [countUnread, List.countP_cons]
        rw [if_neg (by simpa using same), Nat.add_zero]

/-- This is the row that saving a message inserts. -/
def newMessage (now : Nat) (senderId conversationId : Uuid) (ciphered : CipheredMessage)
    (id : Uuid) : Message :=
  { id, conversationId, senderId := some senderId, cipheredContent := ciphered.cipheredContent,
    iv := ciphered.iv, authTag := ciphered.authTag, createdAt := now }

/-- This is the state that persisting a message writes. -/
def persisted (now : Nat) (senderId conversationId : Uuid) (members : List ConversationMember)
    (ciphered : CipheredMessage) (uploads : List PendingUpload) (store : Store) : Store :=
  let saved := { store with
    messages := store.messages ++ [newMessage now senderId conversationId ciphered store.nextId]
    nextId := store.nextId + 1 }
  let targets := recipients members senderId
  let linked := updateLastMessage now conversationId store.nextId
    (createDeliveries now store.nextId targets saved)
  { attached now store.nextId uploads linked with
    members := store.members.map (countUnread conversationId targets) }

theorem persistMessage_ok {now : Nat} {senderId conversationId : Uuid}
    {members : List ConversationMember} {ciphered : CipheredMessage} {content : CodeUnits}
    {attachments : List MessageAttachmentDto} {store next : Store} {saved : SavedMessage}
    (done : persistMessage now senderId conversationId members ciphered content attachments store =
      .ok (saved, next)) :
    store.hasConversation conversationId = true ∧ saved.id = store.nextId ∧
      ∃ uploads, findUploads now senderId store attachments = .ok uploads ∧
        next = persisted now senderId conversationId members ciphered uploads store := by
  obtain ⟨⟨savedMessage, written⟩, inserted, rest⟩ := ok_of_bind done
  obtain ⟨processed, attaching, last⟩ := ok_of_bind rest
  unfold saveMessage at inserted
  split at inserted
  · rename_i present
    simp only [Bool.and_eq_true] at present
    cases inserted
    cases last
    obtain ⟨uploads, found, equal⟩ := processMessageAttachments_ok attaching
    subst equal
    refine ⟨present.1, rfl, uploads, ?_, ?_⟩
    · refine (findUploads_congr store _ ?_ ?_ attachments).symm.trans found <;> rfl
    · rw [foldl_incrementUnreadCount]
      rfl
  · cases inserted

theorem createGroupMessageChecks_ok {store : Store} {senderId conversationId : Uuid}
    {members : List ConversationMember}
    (passed : createGroupMessageChecks store senderId conversationId = .ok members) :
    members = getMembers store conversationId ∧ ∃ conversation member,
      findById store conversationId = some conversation ∧ conversation.type = .groupType ∧
      findMember store conversationId senderId = some member ∧ member.softDeletedAt = none := by
  unfold createGroupMessageChecks at passed
  simp only at passed
  split at passed
  · rename_i conversation found
    split at passed
    · cases passed
    · rename_i group
      split at passed
      · rename_i member listed
        split at passed
        · cases passed
        · rename_i active
          refine ⟨(Except.ok.inj passed).symm, conversation, member, found, not_not.mp group, listed, ?_⟩
          simpa using active
      · cases passed
  · cases passed

/-- An active member sends a message to the active members of the group. -/
theorem createGroupMessage_cases (platform : Platform) (env : Env) (senderId : Uuid) (dto : GroupMessageDto)
    (store : Store) :
    (∃ exception, createGroupMessage platform env senderId dto store = (.error exception, store)) ∨
      ∃ conversation member saved uploads, findById store dto.conversationId = some conversation ∧
        conversation.type = .groupType ∧
        findMember store dto.conversationId senderId = some member ∧ member.softDeletedAt = none ∧
        saved.id = store.nextId ∧ findUploads env.now senderId store dto.attachments = .ok uploads ∧
        createGroupMessage platform env senderId dto store =
          (.ok (saved, getMembers store dto.conversationId),
            persisted env.now senderId dto.conversationId (getMembers store dto.conversationId)
              (cipherMessage platform env dto.content) uploads store) := by
  obtain ⟨exception, failed⟩ | ⟨members, result, next, passed, done, equal⟩ := guarded_transaction_cases
    (rfl : _ = createGroupMessage platform env senderId dto store)
  · exact .inl ⟨exception, failed⟩
  · obtain ⟨⟨saved, written⟩, body, rest⟩ := ok_of_bind done
    cases rest
    obtain ⟨same, conversation, member, found, group, listed, active⟩ := createGroupMessageChecks_ok passed
    obtain ⟨-, id, uploads, pending, final⟩ := persistMessage_ok body
    subst same final
    exact .inr ⟨conversation, member, saved, uploads, found, group, listed, active, id, pending, equal⟩

/-- The counter that a confirmation resets is the only thing it writes about members. -/
theorem confirmDelivery_writes (env : Env) (userId : Uuid) (dto : MessageDeliveryDto) (store : Store) :
    ∃ rows, (confirmDelivery env userId dto store).2 = { store with deliveries := rows } ∨
      (confirmDelivery env userId dto store).2 =
        { resetUnreadCount dto.conversationId userId store with deliveries := rows } := by
  unfold confirmDelivery
  split
  · exact ⟨_, .inl rfl⟩
  · split
    · exact ⟨_, .inl rfl⟩
    · simp only
      by_cases read : dto.status = .read
      · rw [if_pos read]
        split
        · exact ⟨_, .inr rfl⟩
        · exact ⟨_, .inr rfl⟩
      · rw [if_neg read]
        split
        · exact ⟨_, .inl rfl⟩
        · exact ⟨_, .inl rfl⟩

end MessageService

end Messinger
