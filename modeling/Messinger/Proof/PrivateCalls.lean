import Messinger.Proof.MessageCalls

namespace Messinger
open Library ConversationMemberRepository ConversationRepository

namespace ConversationService

/-- This is the conversation that opening a private conversation inserts. -/
def newConversation (now : Nat) (type : ConversationType) (privateKey : Option Text) (id : Uuid) :
    Conversation :=
  { id, privateKey, type, createdAt := now, updatedAt := now }

/-- These are the member rows that opening a conversation inserts. -/
def newMembers (now : Nat) (params : CreateConversationParams) (uniqueMembers : List Text)
    (conversationId : Uuid) : List ConversationMember :=
  uniqueMembers.map fun userId => newRow now
    { conversationId, userId := parseUuid userId,
      role := getMemberRole params.type userId params.creatorId }

/-- This is the state that opening a conversation writes. -/
def opened (now : Nat) (params : CreateConversationParams) (privateKey : Option Text)
    (uniqueMembers : List Text) (store : Store) : Store :=
  { store with
    conversations := store.conversations ++
      [newConversation now params.type privateKey store.nextId]
    members := store.members ++ newMembers now params uniqueMembers store.nextId
    nextId := store.nextId + 1 }

theorem createConversation_ok {now : Nat} {params : CreateConversationParams}
    {privateKey : Option Text} {uniqueMembers : List Text} {store next : Store}
    {conversation : Conversation}
    (done : createConversation now params privateKey uniqueMembers store = .ok (conversation, next)) :
    conversation = newConversation now params.type privateKey store.nextId ∧
      next = opened now params privateKey uniqueMembers store ∧
      ((opened now params privateKey uniqueMembers store).members.map
        ConversationMember.key).Nodup := by
  obtain ⟨⟨savedConversation, saved⟩, inserted, rest⟩ := ok_of_bind done
  obtain ⟨final, created, last⟩ := ok_of_bind rest
  unfold saveConversation at inserted
  split at inserted
  · cases inserted
  · cases inserted
    cases last
    obtain ⟨members, -, distinct⟩ := bulkCreate_ok created
    simp only [List.map_map] at members distinct
    exact ⟨rfl, members, distinct⟩

/-- A private conversation is found by its key or opened with its two users. -/
theorem getOrCreatePrivateConversation_cases (platform : Platform) (env : Env)
    (params : CreateConversationParams) (isPrivate : params.type = .privateType) (store : Store) :
    (∃ exception,
        getOrCreatePrivateConversation platform env params store = (.error exception, store)) ∨
      ∃ privateKey conversation next,
        privateKey =
          generatePrivateKey platform (normalizeMembers params.creatorId params.members) ∧
        getOrCreatePrivateConversation platform env params store = (.ok conversation, next) ∧
        ((next = store ∧ findByPrivateKey store privateKey = some conversation) ∨
          (findByPrivateKey store privateKey = none ∧
            conversation = newConversation env.now .privateType (some privateKey) store.nextId ∧
            next = opened env.now params (some privateKey)
              (normalizeMembers params.creatorId params.members) store ∧
            (next.members.map ConversationMember.key).Nodup)) := by
  unfold getOrCreatePrivateConversation
  simp only [isPrivate]
  split
  · exact .inl ⟨_, rfl⟩
  · split
    · rename_i existing found
      exact .inr ⟨_, existing, store, rfl, rfl, .inl ⟨rfl, found⟩⟩
    · rename_i missing
      unfold transaction
      split
      · exact .inl ⟨_, rfl⟩
      · rename_i conversation next done
        split
        · obtain ⟨same, final, distinct⟩ := createConversation_ok done
          rw [isPrivate] at same
          subst final
          exact .inr ⟨_, conversation, _, rfl, rfl, .inr ⟨missing, same, rfl, distinct⟩⟩
        · exact .inl ⟨_, rfl⟩

theorem deletePrivateConversationChecks_ok {store : Store} {userId conversationId : Uuid}
    {nothing : Unit}
    (passed : deletePrivateConversationChecks store userId conversationId = .ok nothing) :
    ∃ conversation member, findById store conversationId = some conversation ∧
      conversation.type = .privateType ∧
      findMember store conversationId userId = some member ∧ member.softDeletedAt = none := by
  unfold deletePrivateConversationChecks at passed
  simp only at passed
  split at passed
  · rename_i conversation found
    split at passed
    · cases passed
    · rename_i type
      split at passed
      · rename_i member foundMember
        split at passed
        · cases passed
        · rename_i active
          exact ⟨conversation, member, found, not_not.mp type, foundMember,
            Option.not_isSome_iff_eq_none.mp active⟩
      · cases passed
  · cases passed

/-- A user leaves a private conversation once, and the last one takes the conversation along. -/
theorem deletePrivateConversation_cases (env : Env) (userId conversationId : Uuid) (store : Store) :
    (∃ exception, deletePrivateConversation env userId conversationId store =
        (.error exception, store)) ∨
      ∃ conversation member, findById store conversationId = some conversation ∧
        conversation.type = .privateType ∧
        findMember store conversationId userId = some member ∧ member.softDeletedAt = none ∧
        deletePrivateConversation env userId conversationId store =
          (.ok (), deletePrivateConversationBody env.now userId conversationId store) := by
  unfold deletePrivateConversation
  cases passed : deletePrivateConversationChecks store userId conversationId with
  | error exception => exact .inl ⟨exception, rfl⟩
  | ok nothing =>
      obtain ⟨conversation, member, found, type, foundMember, active⟩ :=
        deletePrivateConversationChecks_ok passed
      simp only [guarded, transaction]
      split
      · exact .inr ⟨conversation, member, found, type, foundMember, active, rfl⟩
      · exact .inl ⟨_, rfl⟩

/-- A deletion is refused, or it hides the private conversation from an active member, and the last one drops it. -/
inductive DeletionStep (now : Nat) (userId conversationId : Uuid) (store : Store) : Store → Prop where
  | refused : DeletionStep now userId conversationId store store
  | hides (conversation : Conversation) (member : ConversationMember)
      (found : findById store conversationId = some conversation) (type : conversation.type = .privateType)
      (foundMember : findMember store conversationId userId = some member) (active : member.softDeletedAt = none) :
      DeletionStep now userId conversationId store (markConversationAsDeleted now conversationId userId store)
  | drops (conversation : Conversation) (member : ConversationMember)
      (found : findById store conversationId = some conversation) (type : conversation.type = .privateType)
      (foundMember : findMember store conversationId userId = some member) (active : member.softDeletedAt = none) :
      DeletionStep now userId conversationId store
        (deleteConversation conversationId (markConversationAsDeleted now conversationId userId store))

theorem deletionStep (env : Env) (userId conversationId : Uuid) (store : Store) :
    DeletionStep env.now userId conversationId store (deletePrivateConversation env userId conversationId store).2 := by
  obtain ⟨exception, failed⟩ | ⟨conversation, member, found, type, foundMember, active, done⟩ :=
    deletePrivateConversation_cases env userId conversationId store
  · rw [failed]
    exact .refused
  · rw [done]
    unfold deletePrivateConversationBody
    simp only
    split
    · exact .drops conversation member found type foundMember active
    · exact .hides conversation member found type foundMember active

end ConversationService

namespace MessageService
open StorageService ConversationService

/-- The two transactions of a private message run with these rows. -/
def privateMessageParams (senderId : Uuid) (dto : PrivateMessageDto) : CreateConversationParams :=
  { type := .privateType, creatorId := uuidText senderId, members := [dto.receiverId] }

/-- This is the state of the second transaction before the message is saved. -/
def restored (now : Nat) (senderId receiverId conversationId : Uuid) (store : Store) : Store :=
  restoreIfDeleted now (findMember store conversationId receiverId) conversationId receiverId
    (restoreIfDeleted now (findMember store conversationId senderId) conversationId senderId store)

/-- Restoring changes nothing but the member table. -/
theorem restored_eq (now : Nat) (senderId receiverId conversationId : Uuid) (store : Store) :
    ∃ rows, restored now senderId receiverId conversationId store = { store with members := rows } := by
  unfold restored restoreIfDeleted
  split <;> split <;> exact ⟨_, rfl⟩

theorem createPrivateMessageBody_ok {now : Nat} {senderId : Uuid} {dto : PrivateMessageDto}
    {ciphered : CipheredMessage} {conversation : Conversation} {members : List ConversationMember}
    {store next : Store} {saved : SavedMessage}
    (done : createPrivateMessageBody now senderId dto ciphered conversation
      (findMember store conversation.id senderId)
      (findMember store conversation.id (parseUuid dto.receiverId)) members store = .ok (saved, next)) :
    store.hasConversation conversation.id = true ∧ saved.id = store.nextId ∧
      ∃ uploads, findUploads now senderId store dto.attachments = .ok uploads ∧
        next = persisted now senderId conversation.id members ciphered uploads
          (restored now senderId (parseUuid dto.receiverId) conversation.id store) := by
  have body : persistMessage now senderId conversation.id members ciphered dto.content dto.attachments
      (restored now senderId (parseUuid dto.receiverId) conversation.id store) = .ok (saved, next) := done
  obtain ⟨present, id, uploads, found, final⟩ := persistMessage_ok body
  obtain ⟨rows, shape⟩ := restored_eq now senderId (parseUuid dto.receiverId) conversation.id store
  rw [shape] at present id found
  rw [findUploads_congr store { store with members := rows } rfl rfl] at found
  exact ⟨present, id, uploads, found, final⟩

/-- The first transaction finds or opens the conversation, and the second saves the message. -/
theorem createPrivateMessage_cases (platform : Platform) (env : Env) (senderId : Uuid)
    (dto : PrivateMessageDto) (store : Store) :
    (∃ exception, createPrivateMessage platform env senderId dto store = (.error exception, store)) ∨
      ∃ conversation between,
        getOrCreatePrivateConversation platform env (privateMessageParams senderId dto) store =
          (.ok conversation, between) ∧
        ((∃ exception,
            createPrivateMessage platform env senderId dto store = (.error exception, between)) ∨
          ∃ saved next, createPrivateMessage platform env senderId dto store =
              (.ok (getConversationMembers between conversation.id, saved), next) ∧
            saved.id = between.nextId ∧ between.hasConversation conversation.id = true ∧
            ∃ uploads, findUploads env.now senderId between dto.attachments = .ok uploads ∧
              next = persisted env.now senderId conversation.id
                (getConversationMembers between conversation.id)
                (cipherMessage platform env dto.content) uploads
                (restored env.now senderId (parseUuid dto.receiverId) conversation.id between)) := by
  obtain ⟨exception, failed⟩ | ⟨privateKey, conversation, between, -, opening, origin⟩ :=
    getOrCreatePrivateConversation_cases platform env (privateMessageParams senderId dto) rfl store
  · refine .inl ⟨exception, ?_⟩
    unfold createPrivateMessage
    unfold privateMessageParams at failed
    rw [failed]
  · refine .inr ⟨conversation, between, opening, ?_⟩
    unfold createPrivateMessage
    unfold privateMessageParams at opening
    rw [opening]
    simp only [transaction]
    split
    · exact .inl ⟨_, rfl⟩
    · rename_i value next done
      split
      · obtain ⟨⟨saved, written⟩, body, rest⟩ := ok_of_bind done
        cases rest
        obtain ⟨present, id, uploads, found, final⟩ := createPrivateMessageBody_ok body
        exact .inr ⟨_, _, rfl, id, present, uploads, found, final⟩
      · exact .inl ⟨_, rfl⟩

end MessageService

end Messinger
