import Messinger.Proof.ConversationContents
import Messinger.Proof.UserDeletions

namespace Messinger
open Library AdminService

def Store.hasMessage (store : Store) (messageId : Uuid) : Bool :=
  store.messages.any fun message => message.id == messageId

/-- The primary keys are distinct, and each reference of the migrations names a row.
Deliveries and events name their users without a foreign key. -/
structure ForeignKeys (store : Store) : Prop where
  users : (store.users.map User.id).Nodup
  conversations : (store.conversations.map Conversation.id).Nodup
  messages : (store.messages.map Message.id).Nodup
  sessionUser : ∀ session ∈ store.sessions, store.hasUser session.userId = true
  memberConversation : ∀ member ∈ store.members, store.hasConversation member.conversationId = true
  memberUser : ∀ member ∈ store.members, store.hasUser member.userId = true
  eventConversation : ∀ event ∈ store.events, store.hasConversation event.conversationId = true
  invitationConversation : ∀ invitation ∈ store.invitations, store.hasConversation invitation.conversationId = true
  invitationUsers : ∀ invitation ∈ store.invitations,
    store.hasUser invitation.actorId = true ∧ store.hasUser invitation.targetId = true
  messageConversation : ∀ message ∈ store.messages, store.hasConversation message.conversationId = true
  messageSender : ∀ message ∈ store.messages, ∀ senderId ∈ message.senderId, store.hasUser senderId = true
  lastMessage : ∀ conversation ∈ store.conversations, ∀ messageId ∈ conversation.lastMessageId,
    store.hasMessage messageId = true
  deliveryMessage : ∀ delivery ∈ store.deliveries, store.hasMessage delivery.messageId = true
  attachmentMessage : ∀ attachment ∈ store.attachments, store.hasMessage attachment.messageId = true
  uploadUser : ∀ upload ∈ store.pendingUploads, store.hasUser upload.userId = true
  subscriptionUser : ∀ subscription ∈ store.pushSubscriptions, store.hasUser subscription.userId = true

/-- The user was a member of the conversation, and nobody else had a row in it. -/
def AloneIn (store : Store) (userId conversationId : Uuid) : Prop :=
  (∃ member ∈ store.members, member.conversationId = conversationId ∧ member.userId = userId) ∧
    ∀ member ∈ store.members, member.conversationId = conversationId → member.userId = userId

/-- The conversation existed before and is gone. -/
def Removed (store next : Store) (conversationId : Uuid) : Prop :=
  store.hasConversation conversationId = true ∧ next.hasConversation conversationId = false

/-- A message of the user loses its sender. -/
def withoutSender (userId : Uuid) (message : Message) : Message :=
  if message.senderId = some userId then { message with senderId := none } else message

theorem withoutSender_place (userId : Uuid) (message : Message) :
    (withoutSender userId message).conversationId = message.conversationId := by
  unfold withoutSender
  split <;> rfl

theorem withoutSender_id (userId : Uuid) (message : Message) : (withoutSender userId message).id = message.id := by
  unfold withoutSender
  split <;> rfl

/-- The rows of a conversation that stays are the same, except for those of the user. -/
structure KeepsConversation (store next : Store) (userId conversationId : Uuid) : Prop where
  members : (next.members.filter fun member => member.conversationId == conversationId) =
    (store.members.filter fun member => member.conversationId == conversationId).filter
      fun member => member.userId != userId
  events : (next.events.filter fun event => event.conversationId == conversationId) =
    store.events.filter fun event => event.conversationId == conversationId
  messages : (next.messages.filter fun message => message.conversationId == conversationId) =
    (store.messages.filter fun message => message.conversationId == conversationId).map (withoutSender userId)
  attachments : attachmentsIn next conversationId = attachmentsIn store conversationId

/-- No row of the user is left. -/
structure Forgets (next : Store) (userId : Uuid) : Prop where
  members : ∀ member ∈ next.members, member.userId ≠ userId
  sessions : ∀ session ∈ next.sessions, session.userId ≠ userId
  uploads : ∀ upload ∈ next.pendingUploads, upload.userId ≠ userId
  subscriptions : ∀ subscription ∈ next.pushSubscriptions, subscription.userId ≠ userId
  invitations : ∀ invitation ∈ next.invitations, invitation.actorId ≠ userId ∧ invitation.targetId ≠ userId

/-- The last message of the conversation is a message of a removed one. -/
def NamesRemoved (store next : Store) (conversation : Conversation) : Prop :=
  ∃ message ∈ store.messages, conversation.lastMessageId = some message.id ∧ Removed store next message.conversationId

/-- The deletion removes the conversations that only the user was in, keeps the others, and forgets the user. -/
structure DeletesExactly (store next : Store) (userId : Uuid) (storageKeys : List StorageKey) : Prop where
  removed : ∀ conversationId, Removed store next conversationId ↔ AloneIn store userId conversationId
  kept : ∀ conversationId, next.hasConversation conversationId = true →
    KeepsConversation store next userId conversationId
  rows : ∀ conversation ∈ store.conversations, next.hasConversation conversation.id = true →
    (¬ NamesRemoved store next conversation → conversation ∈ next.conversations) ∧
      (NamesRemoved store next conversation → { conversation with lastMessageId := none } ∈ next.conversations)
  forgets : Forgets next userId
  files : ∀ key, key ∈ storageKeys ↔ ∃ attachment ∈ store.attachments, attachment.storageKey = key ∧
    ∃ message ∈ store.messages, message.id = attachment.messageId ∧ Removed store next message.conversationId

section Deletion
variable {store : Store} {userId : Uuid}

theorem hasConversation_withoutUser {conversationId : Uuid} :
    (withoutUser userId store).hasConversation conversationId = true ↔
      store.hasConversation conversationId = true ∧ conversationId ∉ conversationsToDelete store userId := by
  unfold Store.hasConversation
  simp only [List.any_eq_true, beq_iff_eq]
  constructor
  · rintro ⟨conversation, inside, rfl⟩
    obtain ⟨old, present, kept, rfl⟩ := mem_conversations_withoutUser.mp inside
    rw [unlinked_id]
    exact ⟨⟨old, present, rfl⟩, kept⟩
  · rintro ⟨⟨old, present, rfl⟩, kept⟩
    exact ⟨_, mem_conversations_withoutUser.mpr ⟨old, present, kept, rfl⟩, unlinked_id old⟩

theorem removed_withoutUser {conversationId : Uuid} :
    Removed store (withoutUser userId store) conversationId ↔ conversationId ∈ conversationsToDelete store userId := by
  unfold Removed
  rw [← Bool.not_eq_true, hasConversation_withoutUser]
  constructor
  · rintro ⟨present, gone⟩
    by_contra kept
    exact gone ⟨present, kept⟩
  · intro goes
    refine ⟨?_, fun both => both.2 goes⟩
    obtain ⟨⟨conversation, present, rfl⟩, -⟩ := mem_conversationsToDelete.mp goes
    exact List.any_eq_true.mpr ⟨conversation, present, beq_self_eq_true _⟩

/-- A reference to the user names a stored one. -/
theorem gone_eq {other : Uuid} (stored : store.hasUser other = true) :
    (store.users.any fun user => user.id == other && user.id == userId) = (other == userId) := by
  rw [Bool.eq_iff_iff, gone_iff, beq_iff_eq]
  constructor
  · exact fun both => both.2
  · rintro rfl
    exact ⟨stored, rfl⟩

variable (keys : ForeignKeys store)
include keys

theorem ForeignKeys.goes_iff {conversationId : Uuid} :
    conversationId ∈ conversationsToDelete store userId ↔ AloneIn store userId conversationId := by
  rw [mem_conversationsToDelete]
  refine and_iff_right_of_imp ?_
  rintro ⟨⟨member, inside, rfl, -⟩, -⟩
  obtain ⟨conversation, present, same⟩ := List.any_eq_true.mp (keys.memberConversation member inside)
  exact ⟨conversation, present, beq_iff_eq.mp same⟩

theorem ForeignKeys.messages_withoutUser :
    (withoutUser userId store).messages =
      (store.messages.filter fun message =>
        !(conversationsToDelete store userId).contains message.conversationId).map (withoutSender userId) := by
  apply List.map_congr_left
  intro message inside
  have sender := keys.messageSender message (List.mem_of_mem_filter inside)
  unfold withoutSender
  cases same : message.senderId with
  | none => rfl
  | some senderId =>
      have gone : (store.users.any fun user => user.id == senderId && user.id == userId) = _ :=
        gone_eq (sender senderId same)
      change (if (store.users.any fun user => user.id == senderId && user.id == userId) = true then _ else _) = _
      rw [gone]
      simp

theorem ForeignKeys.keepsConversation {conversationId : Uuid}
    (kept : conversationId ∉ conversationsToDelete store userId) :
    KeepsConversation store (withoutUser userId store) userId conversationId := by
  have stays : (conversationsToDelete store userId).contains conversationId = false := by simpa using kept
  have spared (id : Uuid) (place : (id == conversationId) = true) :
      (!(conversationsToDelete store userId).contains id) = true := by
    rw [beq_iff_eq.mp place, stays]
    rfl
  constructor
  · have narrowed := filter_filter_kept (fun member : ConversationMember => member.conversationId == conversationId)
      (fun member => !(conversationsToDelete store userId).contains member.conversationId)
      (fun member => spared member.conversationId) store.members
    change List.filter _ (List.filter _ (List.filter _ store.members)) = _
    rw [List.filter_comm, narrowed]
    apply List.filter_congr
    intro member inside
    exact congrArg not (gone_eq (keys.memberUser member (List.mem_of_mem_filter inside)))
  · exact filter_filter_kept _ _ (fun event => spared event.conversationId) store.events
  · have narrowed := filter_filter_kept (fun message : Message => message.conversationId == conversationId)
      (fun message => !(conversationsToDelete store userId).contains message.conversationId)
      (fun message => spared message.conversationId) store.messages
    rw [keys.messages_withoutUser, ← narrowed, List.filter_map]
    congr 1
    apply List.filter_congr
    intro message _
    rw [Function.comp_apply, withoutSender_place]
  · have left : contentOf _ conversationId = _ := contentOf_deleteMessages keys.messages
      (fun message => (conversationsToDelete store userId).contains message.conversationId) fun message _ goes same => by
        rw [same, stays] at goes
        cases goes
    have owns : (withoutUser userId store).owns conversationId = (store.deleteMessages fun message =>
        (conversationsToDelete store userId).contains message.conversationId).owns conversationId := by
      unfold Store.owns
      rw [keys.messages_withoutUser]
      funext messageId
      have unchanged : (fun message : Message => message.conversationId == conversationId && message.id == messageId) ∘
          withoutSender userId = fun message => message.conversationId == conversationId && message.id == messageId := by
        funext message
        rw [Function.comp_apply, withoutSender_place, withoutSender_id]
      rw [List.any_map, unchanged]
      rfl
    have same : attachmentsIn (withoutUser userId store) conversationId = attachmentsIn (store.deleteMessages fun message =>
        (conversationsToDelete store userId).contains message.conversationId) conversationId := by
      unfold attachmentsIn
      rw [owns]
      rfl
    exact same.trans (congrArg ConversationContent.attachments left)

theorem ForeignKeys.forgets : Forgets (withoutUser userId store) userId := by
  have kept {other : Uuid} (stored : store.hasUser other = true)
      (stays : (!(store.users.any fun user => user.id == other && user.id == userId)) = true) : other ≠ userId := by
    rw [gone_eq stored] at stays
    simpa using stays
  constructor
  · intro member inside
    obtain ⟨present, -, other⟩ := mem_members_withoutUser.mp inside
    rintro rfl
    exact other (keys.memberUser member present) rfl
  · intro session inside
    obtain ⟨present, stays⟩ := List.mem_filter.mp inside
    exact kept (keys.sessionUser session present) stays
  · intro upload inside
    obtain ⟨present, stays⟩ := List.mem_filter.mp inside
    exact kept (keys.uploadUser upload present) stays
  · intro subscription inside
    obtain ⟨present, stays⟩ := List.mem_filter.mp inside
    exact kept (keys.subscriptionUser subscription present) stays
  · intro invitation inside
    obtain ⟨listed, stays⟩ := List.mem_filter.mp inside
    obtain ⟨actor, target⟩ := keys.invitationUsers invitation (List.mem_of_mem_filter listed)
    rw [Bool.not_or, Bool.and_eq_true] at stays
    exact ⟨kept actor stays.1, kept target stays.2⟩

omit keys in
theorem goesAlong_iff {messageId : Uuid} :
    goesAlong store userId messageId = true ↔ ∃ message ∈ store.messages, message.id = messageId ∧
      Removed store (withoutUser userId store) message.conversationId := by
  unfold goesAlong
  simp only [List.any_eq_true, Bool.and_eq_true, beq_iff_eq, List.contains_iff_mem, removed_withoutUser]

omit keys in
/-- The deletion clears the last message of a conversation that names a message of a removed one. -/
theorem rows_withoutUser {conversation : Conversation} (present : conversation ∈ store.conversations)
    (stays : (withoutUser userId store).hasConversation conversation.id = true) :
    (¬ NamesRemoved store (withoutUser userId store) conversation →
        conversation ∈ (withoutUser userId store).conversations) ∧
      (NamesRemoved store (withoutUser userId store) conversation →
        { conversation with lastMessageId := none } ∈ (withoutUser userId store).conversations) := by
  have listed := mem_conversations_withoutUser.mpr
    ⟨conversation, present, (hasConversation_withoutUser.mp stays).2, rfl⟩
  have names : conversation.lastMessageId.any (goesAlong store userId) = true ↔
      NamesRemoved store (withoutUser userId store) conversation := by
    unfold NamesRemoved
    cases same : conversation.lastMessageId with
    | none => simp
    | some messageId =>
        rw [Option.any_some, goesAlong_iff]
        simp [eq_comm]
  unfold unlinked at listed
  constructor
  · intro other
    rw [if_neg (mt names.mp other)] at listed
    exact listed
  · intro named
    rw [if_pos (names.mpr named)] at listed
    exact listed

omit keys in
theorem mem_filesOfUser {dto : UserDto} {key : StorageKey} :
    key ∈ filesOfUser store dto ↔ ∃ attachment ∈ store.attachments, attachment.storageKey = key ∧
      ∃ message ∈ store.messages, message.id = attachment.messageId ∧
        Removed store (withoutUser dto.userId store) message.conversationId := by
  unfold filesOfUser
  rw [mem_storageKeysOf]
  constructor
  · rintro ⟨message, inside, attachment, held, same, named⟩
    obtain ⟨stored, goes⟩ := List.mem_filter.mp inside
    exact ⟨attachment, held, named, message, stored, same.symm,
      removed_withoutUser.mpr (List.contains_iff_mem.mp goes)⟩
  · rintro ⟨attachment, held, named, message, stored, same, goes⟩
    refine ⟨message, List.mem_filter.mpr ⟨stored, ?_⟩, attachment, held, same.symm, named⟩
    exact List.contains_iff_mem.mpr (removed_withoutUser.mp goes)

theorem ForeignKeys.deletesExactly (dto : UserDto) (bucket : List StorageKey) :
    DeletesExactly store { withoutUser dto.userId store with bucket } dto.userId (filesOfUser store dto) where
  removed conversationId := removed_withoutUser.trans keys.goes_iff
  kept conversationId stays := by
    obtain ⟨members, events, messages, attachments⟩ := keys.keepsConversation (hasConversation_withoutUser.mp stays).2
    exact ⟨members, events, messages, attachments⟩
  rows conversation present stays := rows_withoutUser present stays
  forgets := by
    obtain ⟨members, sessions, uploads, subscriptions, invitations⟩ : Forgets _ dto.userId := keys.forgets
    exact ⟨members, sessions, uploads, subscriptions, invitations⟩
  files _ := mem_filesOfUser

end Deletion

/-- A successful deletion removes exactly what it should, if the foreign keys hold, and clears the last message of a
conversation only with the message. -/
theorem deleteUser_deletes_exactly (env : Env) (dto : UserDto) (store : Store) (keys : ForeignKeys store)
    (succeeds : (AdminService.deleteUser env dto store).1 = .ok ()) :
    DeletesExactly store (AdminService.deleteUser env dto store).2 dto.userId
      (filesPassed env store (.deleteUser dto)) := by
  obtain ⟨-, exception, kept, failed⟩ | ⟨-, done⟩ := deleteUser_cases env dto store
  · rw [failed] at succeeds
    cases succeeds
  · rw [done]
    exact keys.deletesExactly dto _

/-- User 1 is alone in conversation 10, and conversation 11 has message 20 of the other one as its last message. -/
def crossLinked : Store where
  users := [{ id := 1, role := .user, createdAt := 0 }, { id := 2, role := .user, createdAt := 0 }]
  conversations :=
    [{ id := 10, type := .groupType, createdAt := 0, updatedAt := 0 },
     { id := 11, type := .groupType, lastMessageId := some 20, createdAt := 0, updatedAt := 0 }]
  members :=
    [{ conversationId := 10, userId := 1, role := .owner, createdAt := 0 },
     { conversationId := 11, userId := 2, role := .owner, createdAt := 0 },
     { conversationId := 11, userId := 1, role := .member, createdAt := 0 }]
  messages :=
    [{ id := 20, conversationId := 10, senderId := some 1, cipheredContent := [], iv := [], authTag := [], createdAt := 0 },
     { id := 21, conversationId := 11, senderId := some 1, cipheredContent := [], iv := [], authTag := [], createdAt := 0 }]
  nextId := 30

theorem crossLinked_foreignKeys : ForeignKeys crossLinked := by
  constructor <;> decide

theorem crossLinked_deletes_exactly :
    DeletesExactly crossLinked (AdminService.deleteUser { now := 0 } { userId := 1 } crossLinked).2 1
      (filesPassed { now := 0 } crossLinked (.deleteUser { userId := 1 })) :=
  deleteUser_deletes_exactly { now := 0 } { userId := 1 } crossLinked crossLinked_foreignKeys rfl

/-- Conversation 11 stays, and its last message goes with conversation 10. -/
theorem crossLinked_loses_last_message :
    ForeignKeys crossLinked ∧
      (AdminService.deleteUser { now := 0 } { userId := 1 } crossLinked).1 = .ok () ∧
      ¬ ∀ conversation ∈ crossLinked.conversations,
        (AdminService.deleteUser { now := 0 } { userId := 1 } crossLinked).2.hasConversation conversation.id = true →
          ∃ row ∈ (AdminService.deleteUser { now := 0 } { userId := 1 } crossLinked).2.conversations,
            row.id = conversation.id ∧ row.lastMessageId = conversation.lastMessageId :=
  ⟨crossLinked_foreignKeys, rfl, by decide⟩

end Messinger
