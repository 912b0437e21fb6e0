/-
This file defines the tables of the database, the bucket and the cascades of the foreign keys.
-/
import Messinger.Model.Platform

namespace Messinger

structure User where
  id : Uuid
  username : Option Text := none
  loginKeyHash : Option Text := none
  loginKeyLookup : Option Text := none
  userCode : Option Text := none
  role : UserRole
  adminName : Option Text := none
  passwordHash : Option Text := none
  lastSeenAt : Option Nat := none
  createdAt : Nat
  deriving DecidableEq, Repr

structure Session where
  id : Uuid
  userId : Uuid
  refreshTokenHash : Text
  ipAddress : Option Text := none
  userAgent : Text := []
  isRevoked : Bool := false
  revokedReason : Option SessionRevokeReason := none
  expiresAt : Nat
  previousRefreshTokenHash : Option Text := none
  rotatedAt : Option Nat := none
  rotatedAccessToken : Option Text := none
  rotatedRefreshToken : Option Text := none
  deriving DecidableEq, Repr

structure Conversation where
  id : Uuid
  privateKey : Option Text := none
  name : Option String := none
  type : ConversationType
  lastMessageId : Option Uuid := none
  createdAt : Nat
  updatedAt : Nat
  deriving DecidableEq, Repr

structure ConversationMember where
  conversationId : Uuid
  userId : Uuid
  role : ConversationRole
  softDeletedAt : Option Nat := none
  restoredAt : Option Nat := none
  unreadCount : Nat := 0
  createdAt : Nat
  deriving DecidableEq, Repr

structure ConversationEvent where
  id : Uuid
  conversationId : Uuid
  actorId : Uuid
  targetUserId : Option Uuid := none
  type : ConversationEventType := .groupCreated
  createdAt : Nat
  deriving DecidableEq, Repr

structure GroupInvitation where
  id : Uuid
  conversationId : Uuid
  actorId : Uuid
  targetId : Uuid
  status : GroupInvitationStatus := .pending
  expiresAt : Nat
  createdAt : Nat
  deriving DecidableEq, Repr

structure Message where
  id : Uuid
  conversationId : Uuid
  senderId : Option Uuid
  cipheredContent : Text
  iv : Text
  authTag : Text
  createdAt : Nat
  deriving DecidableEq, Repr

structure MessageDelivery where
  id : Uuid
  messageId : Uuid
  userId : Uuid
  status : MessageStatus := .sent
  deliveredAt : Option Nat := none
  readAt : Option Nat := none
  createdAt : Nat
  deriving DecidableEq, Repr

structure MessageAttachment where
  id : Uuid
  messageId : Uuid
  storageKey : StorageKey
  fileName : Text
  contentType : Text
  size : Nat
  createdAt : Nat
  deriving DecidableEq, Repr

structure PendingUpload where
  id : Uuid
  userId : Uuid
  storageKey : StorageKey
  fileName : Text
  contentType : Text
  size : Nat
  expiresAt : Nat
  createdAt : Nat
  deriving DecidableEq, Repr

structure PushSubscription where
  id : Uuid
  userId : Uuid
  endpoint : Text
  p256dh : Text
  auth : Text
  createdAt : Nat
  deriving DecidableEq, Repr

/-- The tables, the bucket, and the supply of generated uuids. -/
structure Store where
  users : List User := []
  sessions : List Session := []
  conversations : List Conversation := []
  members : List ConversationMember := []
  events : List ConversationEvent := []
  invitations : List GroupInvitation := []
  messages : List Message := []
  deliveries : List MessageDelivery := []
  attachments : List MessageAttachment := []
  pendingUploads : List PendingUpload := []
  pushSubscriptions : List PushSubscription := []
  bucket : List StorageKey := []
  nextId : Uuid := 0
  deriving DecidableEq, Repr

def Store.hasUser (store : Store) (userId : Uuid) : Bool :=
  store.users.any fun user => user.id == userId

def Store.hasConversation (store : Store) (conversationId : Uuid) : Bool :=
  store.conversations.any fun conversation => conversation.id == conversationId

/-- A service call returns a value or an exception, and the store it leaves. -/
abbrev Outcome (A : Type) := Except Exception A × Store

/-- A transaction rolls back when its body throws or when the database aborts it. -/
def transaction {A : Type} (commits : Bool) (store : Store)
    (body : Store → Except Exception (A × Store)) : Outcome A :=
  match body store with
  | .error exception => (.error exception, store)
  | .ok (value, next) => if commits then (.ok value, next) else (.error .failedCall, store)

/-- A call that throws in its checks has written nothing. -/
def guarded {A B : Type} (store : Store) (checks : Except Exception A)
    (body : A → Outcome B) : Outcome B :=
  match checks with
  | .error exception => (.error exception, store)
  | .ok value => body value

/-- A transaction fails without a trace, or runs its body. -/
theorem transaction_cases {A : Type} (commits : Bool) (store : Store)
    (body : Store → Except Exception (A × Store)) :
    (∃ exception, transaction commits store body = (.error exception, store)) ∨
      ∃ value next, body store = .ok (value, next) ∧ commits = true ∧
        transaction commits store body = (.ok value, next) := by
  unfold transaction
  cases outcome : body store with
  | error exception => exact .inl ⟨exception, rfl⟩
  | ok pair =>
      obtain ⟨value, next⟩ := pair
      cases commits with
      | false => exact .inl ⟨_, rfl⟩
      | true => exact .inr ⟨value, next, rfl, rfl, rfl⟩

theorem guarded_cases {A B : Type} (store : Store) (checks : Except Exception A)
    (body : A → Outcome B) :
    (∃ exception, guarded store checks body = (.error exception, store)) ∨
      ∃ value, checks = .ok value ∧ guarded store checks body = body value := by
  cases checks with
  | error exception => exact .inl ⟨exception, rfl⟩
  | ok value => exact .inr ⟨value, rfl, rfl⟩

/-- Deleting messages deletes their deliveries and attachments and clears `lastMessageId`. -/
def Store.deleteMessages (store : Store) (doomed : Message → Bool) : Store :=
  let gone (messageId : Uuid) : Bool := store.messages.any fun message =>
    message.id == messageId && doomed message
  { store with
    messages := store.messages.filter fun message => !doomed message
    deliveries := store.deliveries.filter fun delivery => !gone delivery.messageId
    attachments := store.attachments.filter fun attachment => !gone attachment.messageId
    conversations := store.conversations.map fun conversation =>
      if conversation.lastMessageId.any gone then { conversation with lastMessageId := none }
      else conversation }

/-- Deleting conversations deletes every row that refers to them. -/
def Store.deleteConversations (store : Store) (doomed : Uuid → Bool) : Store :=
  let emptied := store.deleteMessages fun message => doomed message.conversationId
  { emptied with
    conversations := emptied.conversations.filter fun conversation => !doomed conversation.id
    members := store.members.filter fun member => !doomed member.conversationId
    events := store.events.filter fun event => !doomed event.conversationId
    invitations := store.invitations.filter fun invitation => !doomed invitation.conversationId }

/-- Deleting a user deletes the rows that belong to it and clears the sender of its messages. -/
def Store.deleteUsers (store : Store) (doomed : User → Bool) : Store :=
  let gone (userId : Uuid) : Bool := store.users.any fun user => user.id == userId && doomed user
  { store with
    users := store.users.filter fun user => !doomed user
    sessions := store.sessions.filter fun session => !gone session.userId
    members := store.members.filter fun member => !gone member.userId
    invitations := store.invitations.filter fun invitation =>
      !(gone invitation.actorId || gone invitation.targetId)
    pendingUploads := store.pendingUploads.filter fun upload => !gone upload.userId
    pushSubscriptions := store.pushSubscriptions.filter fun subscription =>
      !gone subscription.userId
    messages := store.messages.map fun message =>
      if message.senderId.any gone then { message with senderId := none } else message }

end Messinger
