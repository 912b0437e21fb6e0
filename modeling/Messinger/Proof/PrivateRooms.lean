import Messinger.Proof.PrivateKeys
import Messinger.Proof.ActiveOwner

namespace Messinger
open Library ConversationMemberRepository ConversationRepository ConversationService MessageService

/-- The identifier, the type and the private key of a conversation stay. -/
def Conversation.room (conversation : Conversation) : Uuid × ConversationType × Option Text :=
  (conversation.id, conversation.type, conversation.privateKey)

/-- The call can open a conversation: it commits, both users exist, and a message to oneself spells the
identifier of the sender as the service does. -/
def CanOpen (env : Env) (senderId : Uuid) (dto : PrivateMessageDto) (store : Store) : Prop :=
  env.succeeds 0 = true ∧ store.hasUser senderId = true ∧ store.hasUser (parseUuid dto.receiverId) = true ∧
    (uuidText senderId = dto.receiverId ∨ senderId ≠ parseUuid dto.receiverId)

instance (env : Env) (senderId : Uuid) (dto : PrivateMessageDto) (store : Store) :
    Decidable (CanOpen env senderId dto store) :=
  inferInstanceAs (Decidable (_ ∧ _))

/-- This is the key under which the call looks for the conversation of its users. -/
def keyOf (platform : Platform) (senderId : Uuid) (receiverId : Text) : Text :=
  generatePrivateKey platform (normalizeMembers (uuidText senderId) [receiverId])

/-- The call changes neither the keys of the members nor the conversations. -/
structure SameRooms (store next : Store) : Prop where
  conversations : next.conversations.map Conversation.room = store.conversations.map Conversation.room
  members : next.members.map ConversationMember.key = store.members.map ConversationMember.key

/-- The call opens a conversation with the users as its members. -/
structure OpensRoom (privateKey : Text) (users : List Uuid) (store next : Store) : Prop where
  conversations : next.conversations.map Conversation.room =
    store.conversations.map Conversation.room ++ [(store.nextId, .privateType, some privateKey)]
  members : next.members.map ConversationMember.key =
    store.members.map ConversationMember.key ++ users.map fun userId => (store.nextId, userId)

/-- The call deletes the conversation with its members. -/
structure DropsRoom (conversationId : Uuid) (store next : Store) : Prop where
  conversations : next.conversations.map Conversation.room =
    (store.conversations.map Conversation.room).filter fun room => room.1 != conversationId
  members : next.members.map ConversationMember.key =
    (store.members.map ConversationMember.key).filter fun key => key.1 != conversationId

namespace SameRooms
variable {store next last : Store}

theorem refl (store : Store) : SameRooms store store := ⟨rfl, rfl⟩

theorem trans (first : SameRooms store next) (second : SameRooms next last) : SameRooms store last :=
  ⟨second.conversations.trans first.conversations, second.members.trans first.members⟩

theorem updateMember (store : Store) (conversationId userId : Uuid)
    (change : ConversationMember → ConversationMember) (keeps : ∀ member, (change member).key = member.key) :
    SameRooms store (updateMember store conversationId userId change) :=
  ⟨rfl, memberKeys_updateMember store conversationId userId change keeps⟩

theorem mark (now : Nat) (conversationId userId : Uuid) (store : Store) :
    SameRooms store (markConversationAsDeleted now conversationId userId store) := by
  refine updateMember store conversationId userId _ ?_
  exact fun _ => rfl

theorem restoreIfDeleted (now : Nat) (member : Option ConversationMember) (conversationId userId : Uuid)
    (store : Store) : SameRooms store (restoreIfDeleted now member conversationId userId store) := by
  unfold MessageService.restoreIfDeleted
  split
  · exact updateMember store conversationId userId _ fun _ => rfl
  · exact refl store

theorem persisted (now : Nat) (senderId conversationId : Uuid) (members : List ConversationMember)
    (ciphered : CipheredMessage) (uploads : List PendingUpload) (store : Store) :
    SameRooms store (persisted now senderId conversationId members ciphered uploads store) := by
  constructor
  · refine map_updateWhere Conversation.room _ _ ?_ store.conversations
    exact fun _ => rfl
  · exact List.map_map.trans (List.map_congr_left fun _ _ => rfl)

theorem restored (now : Nat) (senderId receiverId conversationId : Uuid) (store : Store) :
    SameRooms store (restored now senderId receiverId conversationId store) :=
  (restoreIfDeleted now _ conversationId senderId store).trans (restoreIfDeleted now _ conversationId receiverId _)

end SameRooms

theorem sameRooms_leaveGroup (env : Env) (userId conversationId : Uuid) (store : Store) :
    SameRooms store (leaveGroup env userId conversationId store).2 := by
  obtain ⟨exception, failed⟩ | ⟨member, -, -, equal⟩ := leaveGroup_cases env userId conversationId store
  · rw [failed]
    exact .refl store
  · rw [equal]
    have marked := SameRooms.mark env.now conversationId userId store
    exact ⟨marked.conversations, marked.members⟩

theorem map_room_deleteMessages (doomed : Message → Bool) (store : Store) :
    (store.deleteMessages doomed).conversations.map Conversation.room =
      store.conversations.map Conversation.room := by
  unfold Store.deleteMessages
  rw [List.map_map]
  apply List.map_congr_left
  intro conversation _
  rw [Function.comp_apply]
  split <;> rfl

theorem dropsRoom_deleteConversation (conversationId : Uuid) (store : Store) :
    DropsRoom conversationId store (deleteConversation conversationId store) := by
  constructor
  · rw [← map_room_deleteMessages (fun message => message.conversationId == conversationId) store, List.filter_map]
    rfl
  · rw [List.filter_map]
    rfl

/-- A deletion hides the conversation from the user, or drops it with its last member. -/
theorem deletePrivateConversation_rooms (env : Env) (userId conversationId : Uuid) (store : Store) :
    SameRooms store (deletePrivateConversation env userId conversationId store).2 ∨
      DropsRoom conversationId store (deletePrivateConversation env userId conversationId store).2 := by
  have marked := SameRooms.mark env.now conversationId userId store
  have step := deletionStep env userId conversationId store
  generalize (deletePrivateConversation env userId conversationId store).2 = next at step ⊢
  cases step with
  | refused => exact .inl (.refl store)
  | hides => exact .inl marked
  | drops =>
      have dropped := dropsRoom_deleteConversation conversationId
        (markConversationAsDeleted env.now conversationId userId store)
      refine .inr ⟨?_, ?_⟩
      · rw [dropped.conversations, marked.conversations]
      · rw [dropped.members, marked.members]

theorem map_id_eq (store : Store) :
    store.conversations.map Conversation.id = (store.conversations.map Conversation.room).map Prod.fst := by
  rw [List.map_map]
  rfl

section Identifiers
variable {store next : Store} (distinct : (store.conversations.map Conversation.id).Nodup)
include distinct

theorem SameRooms.ids (same : SameRooms store next) : (next.conversations.map Conversation.id).Nodup := by
  rw [map_id_eq, same.conversations, ← map_id_eq]
  exact distinct

theorem DropsRoom.ids {conversationId : Uuid} (dropped : DropsRoom conversationId store next) :
    (next.conversations.map Conversation.id).Nodup := by
  rw [map_id_eq] at distinct
  rw [map_id_eq, dropped.conversations]
  exact distinct.sublist (List.filter_sublist.map _)

theorem OpensRoom.ids {privateKey : Text} {users : List Uuid} (opens : OpensRoom privateKey users store next)
    (known : ∀ conversation ∈ store.conversations, conversation.id < store.nextId) :
    (next.conversations.map Conversation.id).Nodup := by
  rw [map_id_eq, opens.conversations, List.map_append, ← map_id_eq]
  refine distinct.append (List.nodup_singleton _) ?_
  intro id old new
  obtain ⟨conversation, inside, rfl⟩ := List.mem_map.mp old
  exact absurd (known conversation inside) (List.mem_singleton.mp new ▸ Nat.lt_irrefl _)

end Identifiers

section Opening
variable {rule : Roster Uuid → Prop} {store : Store}

/-- These users become the members of a new conversation. -/
def newUsers (senderId : Uuid) (receiverId : Text) : List Uuid :=
  (normalizeMembers (uuidText senderId) [receiverId]).map parseUuid

theorem mem_newUsers {senderId userId : Uuid} {receiverId : Text} :
    userId ∈ newUsers senderId receiverId ↔ userId = senderId ∨ userId = parseUuid receiverId := by
  unfold newUsers
  rw [List.mem_map]
  constructor
  · rintro ⟨text, inside, rfl⟩
    obtain rfl | rfl := mem_normalizeMembers.mp inside
    · exact .inl (parseUuid_uuidText senderId)
    · exact .inr rfl
  · rintro (rfl | rfl)
    · exact ⟨uuidText userId, mem_normalizeMembers.mpr (.inl rfl), parseUuid_uuidText userId⟩
    · exact ⟨receiverId, mem_normalizeMembers.mpr (.inr rfl), rfl⟩

theorem length_normalizeMembers_le (senderId : Uuid) (receiverId : Text) :
    (normalizeMembers (uuidText senderId) [receiverId]).length ≤ 2 := by
  by_cases same : uuidText senderId = receiverId
  · rw [← same, normalizeMembers_same]
    exact Nat.le_succ 1
  · rw [normalizeMembers_pair same]
    exact Nat.le_refl 2

/-- Without collisions of the hash, the key of a message that the schema accepts belongs to its users. -/
theorem users_of_keyOf {platform : Platform} (injective : Function.Injective platform.sha256)
    {senderId otherId : Uuid} {receiverId text : Text} (plain : ':' ∉ receiverId)
    (same : keyOf platform otherId text = keyOf platform senderId receiverId) (userId : Uuid) :
    (userId = otherId ∨ userId = parseUuid text) ↔ (userId = senderId ∨ userId = parseUuid receiverId) := by
  have filled (senderId : Uuid) (receiverId : Text) : normalizeMembers (uuidText senderId) [receiverId] ≠ [] :=
    List.ne_nil_of_mem (mem_normalizeMembers.mpr (.inl rfl))
  have separate {senderId : Uuid} {receiverId : Text} (plain : ':' ∉ receiverId) :
      ∀ text ∈ normalizeMembers (uuidText senderId) [receiverId], ':' ∉ text := by
    intro text listed
    obtain rfl | rfl := mem_normalizeMembers.mp listed
    · exact colon_not_mem_uuidText senderId
    · exact plain
  have others : ∀ part ∈ normalizeMembers (uuidText otherId) [text], ':' ∉ part := by
    by_cases alone : uuidText otherId = text
    · exact separate (alone ▸ colon_not_mem_uuidText otherId)
    · apply plain_of_generatePrivateKey injective (filled _ _) (filled _ _) (separate plain) _ same
      rw [normalizeMembers_pair alone]
      exact length_normalizeMembers_le senderId receiverId
  have perm := perm_of_generatePrivateKey injective (filled _ _) (filled _ _) others (separate plain) same
  rw [← mem_newUsers, ← mem_newUsers]
  exact (perm.map parseUuid).mem_iff

theorem newUsers_nodup {senderId : Uuid} {receiverId : Text} :
    (newUsers senderId receiverId).Nodup ↔ uuidText senderId = receiverId ∨ senderId ≠ parseUuid receiverId := by
  unfold newUsers
  by_cases same : uuidText senderId = receiverId
  · rw [← same, normalizeMembers_same]
    exact iff_of_true (List.nodup_singleton _) (.inl rfl)
  · rw [normalizeMembers_pair same, List.map_cons, List.map_cons, List.map_nil, parseUuid_uuidText]
    simp [same]

theorem map_key_newMembers (now : Nat) (senderId : Uuid) (dto : PrivateMessageDto) (conversationId : Uuid) :
    (newMembers now (privateMessageParams senderId dto) (normalizeMembers (uuidText senderId) [dto.receiverId])
        conversationId).map ConversationMember.key =
      (newUsers senderId dto.receiverId).map fun userId => (conversationId, userId) := by
  unfold newMembers newUsers
  rw [List.map_map, List.map_map]
  exact List.map_congr_left fun _ _ => rfl

/-- The keys of the new rows are free when the users are different. -/
theorem newMembers_nodup (governed : Governed rule store) (now : Nat) (senderId : Uuid)
    (dto : PrivateMessageDto) :
    ((store.members ++ newMembers now (privateMessageParams senderId dto)
        (normalizeMembers (uuidText senderId) [dto.receiverId]) store.nextId).map ConversationMember.key).Nodup ↔
      (newUsers senderId dto.receiverId).Nodup := by
  rw [List.map_append, map_key_newMembers]
  constructor
  · exact fun distinct => (List.nodup_append.mp distinct).2.1.of_map _
  · intro distinct
    refine governed.memberKeys.append (distinct.map fun _ _ same => (Prod.mk.inj same).2) ?_
    intro key old new
    obtain ⟨member, inside, rfl⟩ := List.mem_map.mp old
    obtain ⟨userId, -, same⟩ := List.mem_map.mp new
    have known := governed.membersKnown member inside
    have place : store.nextId = member.conversationId := congrArg Prod.fst same
    exact absurd known (place ▸ Nat.lt_irrefl _)

/-- The rows of a new conversation are inserted exactly when its users exist and their keys are free. -/
theorem createConversation_done (now : Nat) (senderId : Uuid) (dto : PrivateMessageDto) (privateKey : Text)
    (missing : findByPrivateKey store privateKey = none) :
    (∃ result, createConversation now (privateMessageParams senderId dto) (some privateKey)
        (normalizeMembers (uuidText senderId) [dto.receiverId]) store = .ok result) ↔
      store.hasUser senderId = true ∧ store.hasUser (parseUuid dto.receiverId) = true ∧
        ((store.members ++ newMembers now (privateMessageParams senderId dto)
          (normalizeMembers (uuidText senderId) [dto.receiverId]) store.nextId).map ConversationMember.key).Nodup := by
  have free : ¬ ((some privateKey).isSome ∧
      (store.conversations.any fun row => row.privateKey == some privateKey) = true) := by
    rintro ⟨-, taken⟩
    obtain ⟨row, inside, same⟩ := List.any_eq_true.mp taken
    exact (lookup_eq_none Conversation.privateKey).mp missing row inside (beq_iff_eq.mp same)
  have saved : saveConversation now .privateType (some privateKey) none store =
      .ok (newConversation now .privateType (some privateKey) store.nextId, { store with
        conversations := store.conversations ++ [newConversation now .privateType (some privateKey) store.nextId]
        nextId := store.nextId + 1 }) := by
    unfold saveConversation
    rw [if_neg free]
    rfl
  constructor
  · rintro ⟨⟨conversation, next⟩, done⟩
    obtain ⟨⟨savedConversation, between⟩, inserted, rest⟩ := ok_of_bind done
    obtain ⟨final, created, -⟩ := ok_of_bind rest
    obtain ⟨rfl, rfl⟩ := Prod.mk.inj (Except.ok.inj (saved.symm.trans inserted))
    obtain ⟨-, references, distinct⟩ := bulkCreate_ok created
    rw [List.map_map] at references distinct
    have present : ∀ text ∈ normalizeMembers (uuidText senderId) [dto.receiverId],
        store.hasUser (parseUuid text) = true := by
      intro text inside
      exact (references _ (List.mem_map_of_mem inside)).2
    have sender := present _ (mem_normalizeMembers.mpr (.inl rfl))
    rw [parseUuid_uuidText] at sender
    exact ⟨sender, present _ (mem_normalizeMembers.mpr (.inr rfl)), distinct⟩
  · rintro ⟨sender, receiver, distinct⟩
    unfold createConversation
    have isPrivate : (privateMessageParams senderId dto).type = .privateType := rfl
    rw [isPrivate, saved]
    simp only [bind, Except.bind]
    unfold bulkCreate
    simp only
    rw [if_pos]
    · exact ⟨_, rfl⟩
    · rw [List.map_map]
      refine ⟨?_, distinct⟩
      rw [List.all_eq_true]
      intro row inside
      obtain ⟨text, listed, rfl⟩ := List.mem_map.mp inside
      rw [Bool.and_eq_true]
      constructor
      · exact List.any_eq_true.mpr ⟨_, List.mem_append_right _ (List.mem_singleton_self _), beq_self_eq_true _⟩
      · obtain rfl | rfl := mem_normalizeMembers.mp listed
        · exact (congrArg store.hasUser (parseUuid_uuidText senderId)).trans sender
        · exact receiver

/-- The rows of a new conversation are inserted exactly when its users exist and are different. -/
theorem createConversation_succeeds (governed : Governed rule store) (now : Nat) (senderId : Uuid)
    (dto : PrivateMessageDto) (privateKey : Text) (missing : findByPrivateKey store privateKey = none) :
    (∃ result, createConversation now (privateMessageParams senderId dto) (some privateKey)
        (normalizeMembers (uuidText senderId) [dto.receiverId]) store = .ok result) ↔
      store.hasUser senderId = true ∧ store.hasUser (parseUuid dto.receiverId) = true ∧
        (newUsers senderId dto.receiverId).Nodup := by
  rw [createConversation_done now senderId dto privateKey missing, newMembers_nodup governed now senderId dto]

section Lookup
variable {platform : Platform} {env : Env} {senderId : Uuid} {dto : PrivateMessageDto}

/-- A message never names more than two users, so its call goes on to the lookup of the key. -/
theorem few_members (senderId : Uuid) (dto : PrivateMessageDto) :
    ¬ 2 < (normalizeMembers (privateMessageParams senderId dto).creatorId
      (privateMessageParams senderId dto).members).length :=
  Nat.not_lt_of_le (length_normalizeMembers_le senderId dto.receiverId)

theorem getOrCreate_found {existing : Conversation}
    (found : findByPrivateKey store (keyOf platform senderId dto.receiverId) = some existing) :
    getOrCreatePrivateConversation platform env (privateMessageParams senderId dto) store = (.ok existing, store) := by
  change findByPrivateKey store (generatePrivateKey platform (normalizeMembers
    (privateMessageParams senderId dto).creatorId (privateMessageParams senderId dto).members)) = _ at found
  have isPrivate : (privateMessageParams senderId dto).type = .privateType := rfl
  unfold getOrCreatePrivateConversation
  simp only [isPrivate, if_neg (few_members senderId dto), found]

theorem getOrCreate_missing
    (missing : findByPrivateKey store (keyOf platform senderId dto.receiverId) = none) :
    getOrCreatePrivateConversation platform env (privateMessageParams senderId dto) store =
      transaction (env.succeeds 0) store (createConversation env.now (privateMessageParams senderId dto)
        (some (keyOf platform senderId dto.receiverId)) (normalizeMembers (uuidText senderId) [dto.receiverId])) := by
  change findByPrivateKey store (generatePrivateKey platform (normalizeMembers
    (privateMessageParams senderId dto).creatorId (privateMessageParams senderId dto).members)) = _ at missing
  have isPrivate : (privateMessageParams senderId dto).type = .privateType := rfl
  unfold getOrCreatePrivateConversation
  simp only [isPrivate, if_neg (few_members senderId dto), missing]
  rfl

end Lookup

/-- A message opens a conversation when its key is free and its users allow it. -/
theorem getOrCreate_rooms (governed : Governed rule store) (platform : Platform) (env : Env)
    (senderId : Uuid) (dto : PrivateMessageDto) :
    (findByPrivateKey store (keyOf platform senderId dto.receiverId) = none ∧ CanOpen env senderId dto store ∧
        OpensRoom (keyOf platform senderId dto.receiverId) (newUsers senderId dto.receiverId) store
          (getOrCreatePrivateConversation platform env (privateMessageParams senderId dto) store).2) ∨
      ((findByPrivateKey store (keyOf platform senderId dto.receiverId) = none →
          ¬ CanOpen env senderId dto store) ∧
        (getOrCreatePrivateConversation platform env (privateMessageParams senderId dto) store).2 = store) := by
  have succeeds := createConversation_succeeds governed env.now senderId dto
    (keyOf platform senderId dto.receiverId)
  cases missing : findByPrivateKey store (keyOf platform senderId dto.receiverId) with
  | some existing =>
      rw [getOrCreate_found missing]
      exact .inr ⟨nofun, rfl⟩
  | none =>
      rw [getOrCreate_missing missing]
      specialize succeeds missing
      simp only [transaction]
      cases done : createConversation env.now (privateMessageParams senderId dto)
          (some (keyOf platform senderId dto.receiverId))
          (normalizeMembers (uuidText senderId) [dto.receiverId]) store with
      | error exception =>
          refine .inr ⟨fun _ opens => ?_, rfl⟩
          obtain ⟨result, inserted⟩ := succeeds.mpr ⟨opens.2.1, opens.2.2.1, newUsers_nodup.mpr opens.2.2.2⟩
          rw [done] at inserted
          cases inserted
      | ok pair =>
          obtain ⟨sender, receiver, distinct⟩ := succeeds.mp ⟨pair, done⟩
          obtain ⟨conversation, next⟩ := pair
          cases commits : env.succeeds 0 with
          | false =>
              refine .inr ⟨fun _ opens => ?_, rfl⟩
              rw [CanOpen, commits] at opens
              cases opens.1
          | true =>
              obtain ⟨-, rfl, -⟩ := createConversation_ok done
              refine .inl ⟨trivial, ⟨commits, sender, receiver, newUsers_nodup.mp distinct⟩, ?_, ?_⟩
              · exact List.map_append
              · exact List.map_append.trans (congrArg _ (map_key_newMembers env.now senderId dto store.nextId))

/-- The second transaction of a message keeps the conversations and their members. -/
theorem sameRooms_createPrivateMessage (platform : Platform) (env : Env) (senderId : Uuid)
    (dto : PrivateMessageDto) (store : Store) :
    SameRooms (getOrCreatePrivateConversation platform env (privateMessageParams senderId dto) store).2
      (createPrivateMessage platform env senderId dto store).2 := by
  unfold createPrivateMessage
  have params : (privateMessageParams senderId dto) =
      { type := .privateType, creatorId := uuidText senderId, members := [dto.receiverId] } := rfl
  rw [params]
  generalize getOrCreatePrivateConversation platform env _ store = outcome
  obtain ⟨result, opened⟩ := outcome
  cases result with
  | error exception => exact .refl opened
  | ok conversation =>
      refine transaction_keeps (.refl opened) ?_
      intro value next done
      obtain ⟨⟨saved, written⟩, body, rest⟩ := ok_of_bind done
      cases rest
      obtain ⟨-, -, uploads, -, rfl⟩ := createPrivateMessageBody_ok body
      exact (SameRooms.restored _ _ _ _ _).trans (SameRooms.persisted _ _ _ _ _ _ _)

theorem createPrivateMessage_rooms (governed : Governed rule store) (platform : Platform) (env : Env)
    (senderId : Uuid) (dto : PrivateMessageDto) :
    (findByPrivateKey store (keyOf platform senderId dto.receiverId) = none ∧ CanOpen env senderId dto store ∧
        OpensRoom (keyOf platform senderId dto.receiverId) (newUsers senderId dto.receiverId) store
          (createPrivateMessage platform env senderId dto store).2) ∨
      ((findByPrivateKey store (keyOf platform senderId dto.receiverId) = none →
          ¬ CanOpen env senderId dto store) ∧
        SameRooms store (createPrivateMessage platform env senderId dto store).2) := by
  have saved := sameRooms_createPrivateMessage platform env senderId dto store
  obtain ⟨missing, opens, opened⟩ | ⟨closed, same⟩ := getOrCreate_rooms governed platform env senderId dto
  · refine .inl ⟨missing, opens, ?_, ?_⟩
    · rw [saved.conversations, opened.conversations]
    · rw [saved.members, opened.members]
  · rw [same] at saved
    exact .inr ⟨closed, saved⟩

end Opening

end Messinger
