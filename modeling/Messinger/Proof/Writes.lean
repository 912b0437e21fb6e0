import Messinger.Model.Service
import Messinger.Model.Tables
import Messinger.Proof.Middlewares
import Messinger.Proof.MessageCalls

namespace Messinger
open Library SessionRepository UserRepository ConversationMemberRepository ConversationRepository
  ConversationEventRepository GroupInvitationRepository MessageRepository MessageDeliveryRepository
  MessageAttachmentRepository MessageService StorageService PendingUploadRepository
open Relation (ReflTransGen)

/-- The service has ciphered the content itself. -/
def Ciphered (platform : Platform) (ciphered : CipheredMessage) : Prop :=
  ∃ env content, ciphered = cipherMessage platform env content

def Message.ciphered (message : Message) : CipheredMessage :=
  ⟨message.cipheredContent, message.iv, message.authTag⟩

/-- The conversation is a group, or it is gone for good. -/
structure Store.GroupOrGone (store : Store) (conversationId : Uuid) : Prop where
  issued : conversationId < store.nextId
  group : ∀ conversation ∈ store.conversations, conversation.id = conversationId → conversation.type = .groupType

/-- These are the writes that the repositories make, each with what its statement finds in the tables. -/
inductive Write (platform : Platform) (store : Store) : Store → Prop where
  | insertUser (row : User) (id : row.id = store.nextId)
      (free : ∀ user ∈ store.users, (row.loginKeyLookup.isSome = true → user.loginKeyLookup ≠ row.loginKeyLookup) ∧
        (row.userCode.isSome = true → user.userCode ≠ row.userCode)) :
      Write platform store (store.addUser row)
  | updateUser (userId : Uuid) (change : User → User) (keeps : ∀ user, (change user).record = user.record) :
      Write platform store (updateUser userId change store)
  | restoreLoginKey (userId : Uuid) (change : User → User) (loginKeyLookup : Text)
      (sets : ∀ user, (change user).record =
        Function.update user.record .loginKeyLookup (some (.text loginKeyLookup)))
      (free : store.hasUser userId = true → ∀ user ∈ store.users, user.id ≠ userId →
        user.loginKeyLookup ≠ some loginKeyLookup) :
      Write platform store (updateUser userId change store)
  | deleteUsers (doomed : User → Bool) : Write platform store (store.deleteUsers doomed)
  | insertSession (row : Session) (id : row.id = store.nextId) (user : store.hasUser row.userId = true)
      (free : ∀ session ∈ store.sessions, session.refreshTokenHash ≠ row.refreshTokenHash) :
      Write platform store { store with sessions := store.sessions ++ [row], nextId := store.nextId + 1 }
  | updateSessions (matching : Session → Bool) (change : Session → Session)
      (keeps : ∀ session, (change session).record = session.record) :
      Write platform store { store with sessions := updateWhere matching change store.sessions }
  | rotateSession (sessionId : Uuid) (change : Session → Session) (refreshTokenHash : Text)
      (sets : ∀ session, (change session).record =
        Function.update session.record .refreshTokenHash (some (.text refreshTokenHash)))
      (free : ∀ session ∈ store.sessions, session.id ≠ sessionId → session.refreshTokenHash ≠ refreshTokenHash) :
      Write platform store (updateSession sessionId change store)
  | openConversation (row : Conversation) (rows : List ConversationMember) (id : row.id = store.nextId)
      (empty : row.lastMessageId = none)
      (free : row.privateKey.isSome = true → ∀ conversation ∈ store.conversations,
        conversation.privateKey ≠ row.privateKey)
      (present : ∀ member ∈ rows, member.conversationId = row.id ∧ store.hasUser member.userId = true)
      (keys : ((store.members ++ rows).map ConversationMember.key).Nodup)
      (size : row.type = .privateType → rows.length ≤ 2) :
      Write platform store
        { store with conversations := store.conversations ++ [row], members := store.members ++ rows
                     nextId := store.nextId + 1 }
  | deleteConversations (doomed : Uuid → Bool) : Write platform store (store.deleteConversations doomed)
  | insertMembers (rows : List ConversationMember)
      (present : ∀ row ∈ rows, store.hasConversation row.conversationId = true ∧ store.hasUser row.userId = true)
      (keys : ((store.members ++ rows).map ConversationMember.key).Nodup)
      (group : ∀ row ∈ rows, store.GroupOrGone row.conversationId) :
      Write platform store { store with members := store.members ++ rows }
  | updateMembers (matching : ConversationMember → Bool) (change : ConversationMember → ConversationMember)
      (keeps : ∀ member, (change member).record = member.record) :
      Write platform store { store with members := updateWhere matching change store.members }
  | insertEvent (row : ConversationEvent) (id : row.id = store.nextId)
      (conversation : store.hasConversation row.conversationId = true) :
      Write platform store (store.logEvent row)
  | insertInvitation (row : GroupInvitation) (id : row.id = store.nextId)
      (conversation : store.hasConversation row.conversationId = true) (actor : store.hasUser row.actorId = true)
      (target : store.hasUser row.targetId = true) (group : store.GroupOrGone row.conversationId) :
      Write platform store { store with invitations := store.invitations ++ [row], nextId := store.nextId + 1 }
  | updateInvitations (matching : GroupInvitation → Bool) (change : GroupInvitation → GroupInvitation)
      (keeps : ∀ invitation, (change invitation).record = invitation.record) :
      Write platform store { store with invitations := updateWhere matching change store.invitations }
  | postMessage (now : Nat) (row : Message) (senderId : Uuid) (userIds : List Uuid) (id : row.id = store.nextId)
      (conversation : store.hasConversation row.conversationId = true) (sender : row.senderId = some senderId)
      (user : store.hasUser senderId = true) (ciphered : Ciphered platform row.ciphered)
      (distinct : userIds.Nodup) (others : senderId ∉ userIds) :
      Write platform store (updateLastMessage now row.conversationId row.id (createDeliveries now row.id userIds
        { store with messages := store.messages ++ [row], nextId := store.nextId + 1 }))
  | deleteMessages (doomed : Message → Bool) : Write platform store (store.deleteMessages doomed)
  | updateDeliveries (matching : MessageDelivery → Bool) (change : MessageDelivery → MessageDelivery)
      (keeps : ∀ delivery, (change delivery).record = delivery.record ∧ (change delivery).userId = delivery.userId) :
      Write platform store { store with deliveries := updateWhere matching change store.deliveries }
  | insertAttachments (now : Nat) (messageId : Uuid) (uploads : List PendingUpload)
      (message : ∃ message ∈ store.messages, message.id = messageId) :
      Write platform store (createAttachments now messageId uploads store)
  | insertUpload (row : PendingUpload) (id : row.id = store.nextId)
      (storageKey : row.storageKey = ⟨row.userId, store.nextId + 1⟩) (user : store.hasUser row.userId = true) :
      Write platform store { store with pendingUploads := store.pendingUploads ++ [row], nextId := store.nextId + 2 }
  | deleteUploads (keep : PendingUpload → Bool) :
      Write platform store { store with pendingUploads := store.pendingUploads.filter keep }
  | insertSubscription (row : PushSubscription) (id : row.id = store.nextId)
      (user : store.hasUser row.userId = true) :
      Write platform store
        { store with pushSubscriptions := store.pushSubscriptions ++ [row], nextId := store.nextId + 1 }
  | updateSubscriptions (matching : PushSubscription → Bool) (change : PushSubscription → PushSubscription)
      (keeps : ∀ subscription, (change subscription).record = subscription.record) :
      Write platform store { store with pushSubscriptions := updateWhere matching change store.pushSubscriptions }
  | deleteSubscriptions (keep : PushSubscription → Bool) :
      Write platform store { store with pushSubscriptions := store.pushSubscriptions.filter keep }
  | writeBucket (bucket : List StorageKey) : Write platform store { store with bucket }

/-- A committed step makes some writes, one after the other. -/
abbrev Committed (platform : Platform) : Store → Store → Prop := ReflTransGen (Write platform)

/-- What every write keeps holds after all writes of a step. -/
theorem Committed.keeps {platform : Platform} {store next : Store} (writes : Committed platform store next)
    {holds : Store → Prop} (before : holds store)
    (kept : ∀ current after, Write platform current after → holds current → holds after) : holds next := by
  induction writes with
  | refl => exact before
  | tail _ write ih => exact kept _ _ write ih

/-- Conversations are told apart by identifiers from the supply, and only groups invite. -/
structure Rooted (store : Store) : Prop where
  supplied : ∀ conversation ∈ store.conversations, conversation.id < store.nextId
  distinct : (store.conversations.map Conversation.id).Nodup
  keyed : (store.members.map ConversationMember.key).Nodup
  invited : ∀ invitation ∈ store.invitations, store.GroupOrGone invitation.conversationId

theorem rooted_empty : Rooted {} where
  supplied conversation inside := by cases inside
  distinct := List.nodup_nil
  keyed := List.nodup_nil
  invited invitation inside := by cases inside

/-- Identifiers and types never change. -/
def Conversation.kind (conversation : Conversation) : Uuid × ConversationType := (conversation.id, conversation.type)

section Roots
variable {platform : Platform} {store next : Store}

theorem sublist_of_eq {A : Type} {first second : List A} (same : first = second) : List.Sublist first second := by
  rw [same]

theorem Store.GroupOrGone.of_sublist {conversationId : Uuid} (before : store.GroupOrGone conversationId)
    (later : store.nextId ≤ next.nextId)
    (kinds : List.Sublist (next.conversations.map Conversation.kind) (store.conversations.map Conversation.kind)) :
    next.GroupOrGone conversationId where
  issued := Nat.lt_of_lt_of_le before.issued later
  group conversation inside same := by
    obtain ⟨old, there, kind⟩ := List.mem_map.mp (kinds.subset (List.mem_map_of_mem inside))
    have id : old.id = conversation.id := congrArg Prod.fst kind
    have type : old.type = conversation.type := congrArg Prod.snd kind
    rw [← type]
    exact before.group old there (id.trans same)

theorem conversation_ids (conversations : List Conversation) :
    conversations.map Conversation.id = (conversations.map Conversation.kind).map Prod.fst := by
  rw [List.map_map]
  rfl

theorem conversation_bound {bound : Uuid} {conversations : List Conversation} :
    (∀ conversation ∈ conversations, conversation.id < bound) ↔
      ∀ kind ∈ conversations.map Conversation.kind, kind.1 < bound := by
  rw [List.forall_mem_map]
  rfl

/-- A write that adds no conversation, no member and no invitation. -/
theorem Rooted.of_tables (before : Rooted store) (later : store.nextId ≤ next.nextId)
    (kinds : List.Sublist (next.conversations.map Conversation.kind) (store.conversations.map Conversation.kind))
    (keys : List.Sublist (next.members.map ConversationMember.key) (store.members.map ConversationMember.key))
    (invitations : ∀ invitation ∈ next.invitations,
      ∃ old ∈ store.invitations, old.conversationId = invitation.conversationId) : Rooted next where
  supplied := by
    have bounds := conversation_bound.mp before.supplied
    exact conversation_bound.mpr fun kind inside => Nat.lt_of_lt_of_le (bounds kind (kinds.subset inside)) later
  distinct := by
    have distinct := before.distinct
    rw [conversation_ids] at distinct ⊢
    exact distinct.sublist (kinds.map Prod.fst)
  keyed := before.keyed.sublist keys
  invited invitation inside := by
    obtain ⟨old, there, same⟩ := invitations invitation inside
    rw [← same]
    exact (before.invited old there).of_sublist later kinds

/-- The type of a conversation that is there decides. -/
theorem Rooted.groupOrGone (before : Rooted store) {conversation : Conversation}
    (stored : conversation ∈ store.conversations) (group : conversation.type = .groupType) :
    store.GroupOrGone conversation.id where
  issued := before.supplied conversation stored
  group other inside same := by
    rw [List.inj_on_of_nodup_map before.distinct inside stored same]
    exact group

/-- A deletion of messages keeps identifiers and types. -/
theorem deleteMessages_kinds (doomed : Message → Bool) :
    (store.deleteMessages doomed).conversations.map Conversation.kind = store.conversations.map Conversation.kind := by
  unfold Store.deleteMessages
  rw [List.map_map]
  apply List.map_congr_left
  intro conversation _
  rw [Function.comp_apply]
  split <;> rfl

theorem updateLastMessage_kinds (now : Nat) (conversationId messageId : Uuid) :
    (updateLastMessage now conversationId messageId store).conversations.map Conversation.kind =
      store.conversations.map Conversation.kind :=
  map_updateWhere Conversation.kind _ (fun row => { row with lastMessageId := some messageId, updatedAt := now })
    (fun _ => rfl) store.conversations

theorem ConversationMember.key_of_record {member other : ConversationMember} (same : member.record = other.record) :
    member.key = other.key := by
  have conversations := congrFun same .conversationId
  have users := congrFun same .userId
  simp only [ConversationMember.record, Option.some.injEq, SqlValue.uuid.injEq] at conversations users
  exact Prod.ext conversations users

theorem GroupInvitation.conversation_of_record {invitation other : GroupInvitation}
    (same : invitation.record = other.record) : invitation.conversationId = other.conversationId := by
  have conversations := congrFun same .conversationId
  simpa only [GroupInvitation.record, Option.some.injEq, SqlValue.uuid.injEq] using conversations

/-- A new conversation takes an identifier that no other has. -/
theorem Store.GroupOrGone.opens {conversationId : Uuid} (before : store.GroupOrGone conversationId) {row : Conversation}
    (id : row.id = store.nextId) (rows : List ConversationMember) :
    Store.GroupOrGone { store with conversations := store.conversations ++ [row], members := store.members ++ rows
                                   nextId := store.nextId + 1 } conversationId where
  issued := Nat.lt_succ_of_lt before.issued
  group conversation inside same := by
    obtain old | new := List.mem_append.mp inside
    · exact before.group conversation old same
    · rw [List.mem_singleton.mp new, id] at same
      exact absurd before.issued (Nat.not_lt.mpr (Nat.le_of_eq same))

/-- No write makes a group of a private conversation, or the other way. -/
theorem Write.groupOrGone (write : Write platform store next) {conversationId : Uuid}
    (before : store.GroupOrGone conversationId) : next.GroupOrGone conversationId := by
  cases write with
  | openConversation row rows id => exact before.opens id rows
  | deleteConversations doomed =>
      refine before.of_sublist (Nat.le_refl _) ?_
      exact (List.filter_sublist.map _).trans (sublist_of_eq (deleteMessages_kinds _))
  | deleteMessages doomed =>
      exact before.of_sublist (Nat.le_refl _) (sublist_of_eq (deleteMessages_kinds doomed))
  | postMessage now row senderId userIds =>
      refine before.of_sublist ?_ (sublist_of_eq (updateLastMessage_kinds now _ _))
      exact Nat.le_trans (Nat.le_succ _) (Nat.le_add_right _ _)
  | insertUpload row => exact before.of_sublist (Nat.le_add_right _ _) (.refl _)
  | insertAttachments now messageId uploads => exact before.of_sublist (Nat.le_add_right _ _) (.refl _)
  | insertUser row => exact before.of_sublist (Nat.le_succ _) (.refl _)
  | insertSession row => exact before.of_sublist (Nat.le_succ _) (.refl _)
  | insertEvent row => exact before.of_sublist (Nat.le_succ _) (.refl _)
  | insertInvitation row => exact before.of_sublist (Nat.le_succ _) (.refl _)
  | insertSubscription row => exact before.of_sublist (Nat.le_succ _) (.refl _)
  | _ => exact before.of_sublist (Nat.le_refl _) (.refl _)

/-- Every write keeps the ground that the calls stand on. -/
theorem Write.rooted (write : Write platform store next) (before : Rooted store) : Rooted next := by
  cases write with
  | openConversation row rows id empty free present keys size =>
      constructor
      · intro conversation inside
        obtain old | new := List.mem_append.mp inside
        · exact Nat.lt_succ_of_lt (before.supplied conversation old)
        · rw [List.mem_singleton.mp new, id]
          exact Nat.lt_succ_self _
      · rw [List.map_append]
        refine before.distinct.append (List.nodup_singleton _) ?_
        intro other old new
        obtain ⟨conversation, there, rfl⟩ := List.mem_map.mp old
        have same : conversation.id = row.id := List.mem_singleton.mp new
        exact absurd (before.supplied conversation there) (Nat.not_lt.mpr (Nat.le_of_eq (same.trans id).symm))
      · exact keys
      · exact fun invitation inside => (before.invited invitation inside).opens id rows
  | insertMembers rows present keys group =>
      exact ⟨before.supplied, before.distinct, keys, fun invitation inside =>
        (before.invited invitation inside).of_sublist (Nat.le_refl _) (.refl _)⟩
  | insertInvitation row id conversation actor target group =>
      refine ⟨fun conversation inside => Nat.lt_succ_of_lt (before.supplied conversation inside), before.distinct,
        before.keyed, ?_⟩
      intro invitation inside
      refine Store.GroupOrGone.of_sublist ?_ (Nat.le_succ _) (.refl _)
      obtain old | new := List.mem_append.mp inside
      · exact before.invited invitation old
      · rw [List.mem_singleton.mp new]
        exact group
  | deleteUsers doomed =>
      refine before.of_tables (Nat.le_refl _) (.refl _) (List.filter_sublist.map _) ?_
      exact fun invitation inside => ⟨invitation, List.mem_of_mem_filter inside, rfl⟩
  | deleteConversations doomed =>
      refine before.of_tables (Nat.le_refl _) ?_ (List.filter_sublist.map _) ?_
      · exact (List.filter_sublist.map _).trans (sublist_of_eq (deleteMessages_kinds _))
      · exact fun invitation inside => ⟨invitation, List.mem_of_mem_filter inside, rfl⟩
  | deleteMessages doomed =>
      exact before.of_tables (Nat.le_refl _) (sublist_of_eq (deleteMessages_kinds doomed)) (.refl _)
        fun invitation inside => ⟨invitation, inside, rfl⟩
  | updateMembers matching change keeps =>
      refine before.of_tables (Nat.le_refl _) (.refl _) (sublist_of_eq ?_)
        fun invitation inside => ⟨invitation, inside, rfl⟩
      exact map_updateWhere ConversationMember.key _ change
        (fun member => ConversationMember.key_of_record (keeps member)) store.members
  | updateInvitations matching change keeps =>
      refine before.of_tables (Nat.le_refl _) (.refl _) (.refl _) ?_
      intro invitation inside
      obtain ⟨old, there, rfl⟩ := mem_updateWhere.mp inside
      refine ⟨old, there, ?_⟩
      split
      · exact (GroupInvitation.conversation_of_record (keeps old)).symm
      · rfl
  | postMessage now row senderId userIds =>
      refine before.of_tables ?_ (sublist_of_eq (updateLastMessage_kinds now _ _)) (.refl _)
        fun invitation inside => ⟨invitation, inside, rfl⟩
      exact Nat.le_trans (Nat.le_succ _) (Nat.le_add_right _ _)
  | insertUpload row =>
      exact before.of_tables (Nat.le_add_right _ _) (.refl _) (.refl _) fun invitation inside => ⟨invitation, inside, rfl⟩
  | insertAttachments now messageId uploads =>
      exact before.of_tables (Nat.le_add_right _ _) (.refl _) (.refl _) fun invitation inside => ⟨invitation, inside, rfl⟩
  | insertUser row =>
      exact before.of_tables (Nat.le_succ _) (.refl _) (.refl _) fun invitation inside => ⟨invitation, inside, rfl⟩
  | insertSession row =>
      exact before.of_tables (Nat.le_succ _) (.refl _) (.refl _) fun invitation inside => ⟨invitation, inside, rfl⟩
  | insertEvent row =>
      exact before.of_tables (Nat.le_succ _) (.refl _) (.refl _) fun invitation inside => ⟨invitation, inside, rfl⟩
  | insertSubscription row =>
      exact before.of_tables (Nat.le_succ _) (.refl _) (.refl _) fun invitation inside => ⟨invitation, inside, rfl⟩
  | _ => exact before.of_tables (Nat.le_refl _) (.refl _) (.refl _) fun invitation inside => ⟨invitation, inside, rfl⟩

end Roots

section Repositories
variable {platform : Platform} {store next : Store}

theorem updateMember_write (conversationId userId : Uuid) (change : ConversationMember → ConversationMember)
    (keeps : ∀ member, (change member).record = member.record) :
    Write platform store (updateMember store conversationId userId change) := .updateMembers _ change keeps

theorem restoreConversation_write (now : Nat) (conversationId userId : Uuid) :
    Write platform store (restoreConversation now conversationId userId store) :=
  updateMember_write _ _ _ fun _ => rfl

theorem markConversationAsDeleted_write (now : Nat) (conversationId userId : Uuid) :
    Write platform store (markConversationAsDeleted now conversationId userId store) :=
  updateMember_write _ _ _ fun _ => rfl

theorem resetUnreadCount_write (conversationId userId : Uuid) :
    Write platform store (resetUnreadCount conversationId userId store) :=
  updateMember_write _ _ _ fun _ => rfl

theorem updateRole_write (conversationId userId : Uuid) (role : ConversationRole) :
    Write platform store (updateRole conversationId userId role store) :=
  updateMember_write _ _ _ fun _ => rfl

theorem incrementUnreadCount_write (conversationId userId : Uuid) :
    Write platform store (incrementUnreadCount conversationId userId store) :=
  updateMember_write _ _ _ fun _ => rfl

theorem incrementUnreadCount_writes (conversationId : Uuid) (userIds : List Uuid) :
    Committed platform store
      (userIds.foldl (fun current userId => incrementUnreadCount conversationId userId current) store) := by
  induction userIds generalizing store with
  | nil => exact .refl
  | cons userId rest ih => exact .head (incrementUnreadCount_write conversationId userId) ih

theorem setStatus_write (status : GroupInvitationStatus) (conversationId targetId : Uuid) :
    Write platform store (setStatus status conversationId targetId store) :=
  .updateInvitations _ _ fun _ => rfl

theorem bulkCreate_write {now : Nat} {members : List CreateConversationMemberParams}
    (group : ∀ member ∈ members, store.GroupOrGone member.conversationId)
    (done : bulkCreate now members store = .ok next) : Write platform store next := by
  unfold bulkCreate at done
  simp only at done
  split at done
  · next checked =>
      cases done
      refine .insertMembers _ ?_ checked.2 ?_
      · intro row inside
        exact Bool.and_eq_true_iff.mp (List.all_eq_true.mp checked.1 row inside)
      · intro row inside
        obtain ⟨params, listed, rfl⟩ := List.mem_map.mp inside
        exact group params listed
  · cases done

/-- A conversation is inserted with the members that the same transaction gives it. -/
theorem openConversation_write {now : Nat} {type : ConversationType} {privateKey : Option Text} {name : Option String}
    {conversation : Conversation} {saved : Store} {members : List CreateConversationMemberParams}
    (inserted : saveConversation now type privateKey name store = .ok (conversation, saved))
    (own : ∀ member ∈ members, member.conversationId = conversation.id)
    (size : type = .privateType → members.length ≤ 2) (done : bulkCreate now members saved = .ok next) :
    Write platform store next := by
  unfold saveConversation at inserted
  split at inserted
  · cases inserted
  · next free =>
      cases inserted
      unfold bulkCreate at done
      simp only at done
      split at done
      · next checked =>
          cases done
          refine .openConversation _ _ rfl rfl ?_ ?_ checked.2 ?_
          · intro keyed row inside same
            exact free ⟨keyed, List.any_eq_true.mpr ⟨row, inside, beq_iff_eq.mpr same⟩⟩
          · intro row inside
            obtain ⟨params, listed, rfl⟩ := List.mem_map.mp inside
            exact ⟨own params listed, (Bool.and_eq_true_iff.mp (List.all_eq_true.mp checked.1 _ inside)).2⟩
          · rw [List.length_map]
            exact size
      · cases done

theorem createEvent_write {now : Nat} {conversationId actorId : Uuid} {targetUserId : Option Uuid}
    {type : ConversationEventType} (done : createEvent now conversationId actorId targetUserId type store = .ok next) :
    Write platform store next := by
  unfold createEvent at done
  split at done
  · next present =>
      cases done
      exact .insertEvent
        { id := store.nextId, conversationId, actorId, targetUserId, type, createdAt := now } rfl present
  · cases done

theorem createInvitation_write {now : Nat} {conversationId actorId targetId : Uuid} {expiresAt : Nat}
    (group : store.GroupOrGone conversationId)
    (done : createInvitation now conversationId actorId targetId expiresAt store = .ok next) :
    Write platform store next := by
  unfold createInvitation at done
  split at done
  · next present =>
      cases done
      rw [Bool.and_eq_true_iff, Bool.and_eq_true_iff] at present
      exact .insertInvitation _ rfl present.1.1 present.1.2 present.2 group
  · cases done

theorem saveUser_writes (env : Env) (row : User) (id : row.id = store.nextId) :
    Committed platform store (saveUser env row store).2 := by
  unfold saveUser
  split
  · next free =>
      refine .single (.insertUser row id ?_)
      rw [Bool.and_eq_true_iff, Bool.not_eq_true', List.any_eq_false] at free
      intro user inside
      have apart := free.2 user inside
      rw [Bool.or_eq_true_iff, Bool.and_eq_true_iff, Bool.and_eq_true_iff, not_or] at apart
      exact ⟨fun keyed same => apart.1 ⟨keyed, beq_iff_eq.mpr same⟩,
        fun keyed same => apart.2 ⟨keyed, beq_iff_eq.mpr same⟩⟩
  · exact .refl

theorem createSession_writes (env : Env) (params : CreateSessionParams) :
    Committed platform store (createSession platform env params store).2 := by
  unfold createSession
  simp only
  split
  · next checked =>
      rw [Bool.and_eq_true_iff, Bool.and_eq_true_iff, Bool.and_eq_true_iff, Bool.not_eq_true',
        List.any_eq_false] at checked
      refine .single (.insertSession _ rfl checked.1.1.2 ?_)
      intro session inside same
      exact checked.2 session inside (beq_iff_eq.mpr same)
  · exact .refl

theorem revokeSession_write (sessionId : Uuid) (reason : SessionRevokeReason) :
    Write platform store (revokeSession sessionId reason store) := .updateSessions _ _ fun _ => rfl

theorem revokeAllSessions_write (userId : Uuid) : Write platform store (revokeAllSessions userId store) :=
  .updateSessions _ _ fun _ => rfl

theorem rotated_record (now : Nat) (tokens : Tokens) (session : Session) :
    (rotated platform now tokens session).record = Function.update session.record .refreshTokenHash
      (some (.text (platform.sha256 tokens.refreshToken))) := by
  funext column
  cases column <;> rfl

theorem rotateSession_writes (commits : Bool) (now : Nat) (sessionId : Uuid) (roles : List UserRole)
    (refreshToken : Text) :
    Committed platform store (SessionRepository.rotateSession platform commits now sessionId roles refreshToken store).2 := by
  refine transaction_keeps .refl ?_
  intro value next body
  unfold rotateSessionBody at body
  split at body
  · cases body
    exact .refl
  · next session found =>
      simp only at body
      split at body
      · cases body
        exact .refl
      · split at body
        · cases body
          exact .refl
        · split at body
          · cases body
          · next free =>
              cases body
              refine .single (.rotateSession _ _ _ (rotated_record now _) ?_)
              intro other inside different same
              refine free (List.any_eq_true.mpr ⟨other, inside, ?_⟩)
              rw [Bool.and_eq_true_iff, bne_iff_ne, beq_iff_eq]
              exact ⟨different, same⟩

theorem createUploads_writes (env : Env) (userId : Uuid) (expiresAt index : Nat) (files : List FileDto) :
    Committed platform store (createUploads env userId expiresAt index files store).2 := by
  induction files generalizing index store with
  | nil => exact .refl
  | cons file rest ih =>
      unfold createUploads
      split
      · next checked =>
          rw [Bool.and_eq_true_iff, Bool.and_eq_true_iff] at checked
          refine .head (.insertUpload
            { id := store.nextId, userId, storageKey := ⟨userId, store.nextId + 1⟩, fileName := file.fileName
              contentType := file.contentType, size := file.size, expiresAt, createdAt := env.now }
            rfl rfl checked.1.2) ?_
          simp only
          split
          · next equal => exact Eq.mp (congrArg (fun outcome => Committed platform _ outcome.2) equal) (ih (index + 1))
          · next equal => exact Eq.mp (congrArg (fun outcome => Committed platform _ outcome.2) equal) (ih (index + 1))
      · exact ih (index + 1)

theorem deleteFiles_writes (env : Env) (storageKeys : List StorageKey) :
    Committed platform store (deleteFiles env storageKeys store).2 := by
  unfold deleteFiles
  generalize batchesOf storageKeys = batches
  generalize 1 = index
  induction batches generalizing index store with
  | nil => exact .refl
  | cons batch rest ih =>
      unfold deleteBatches
      split
      · exact .head (.writeBucket _) (ih _)
      · exact .single (.writeBucket _)

/-- The uploads become attachments of a message that is there. -/
theorem attachUploads_writes (now : Nat) (messageId : Uuid) (uploads : List PendingUpload)
    (message : ∃ message ∈ store.messages, message.id = messageId) :
    Committed platform store (attachUploads now messageId uploads store) := by
  unfold attachUploads
  rw [foldl_deleteById]
  exact .tail (.single (.insertAttachments now messageId uploads message)) (.deleteUploads _)

end Repositories

end Messinger
