/-
This file models the repositories of conversations, members, events, invitations and messages.
-/
import Messinger.Library.Rows
import Messinger.Model.Store

namespace Messinger
open Library

def ConversationMember.key (member : ConversationMember) : Uuid × Uuid :=
  (member.conversationId, member.userId)

structure CreateConversationMemberParams where
  conversationId : Uuid
  userId : Uuid
  role : ConversationRole

namespace ConversationMemberRepository

/-- The row that the insert writes for one new member. -/
def newRow (now : Nat) (params : CreateConversationMemberParams) : ConversationMember :=
  { conversationId := params.conversationId, userId := params.userId, role := params.role,
    createdAt := now }

/-- The insert fails when a foreign key is missing or a primary key is taken. -/
def bulkCreate (now : Nat) (members : List CreateConversationMemberParams) (store : Store) :
    Except Exception Store :=
  let rows := members.map (newRow now)
  if (rows.all fun row =>
        store.hasConversation row.conversationId && store.hasUser row.userId) = true ∧
      ((store.members ++ rows).map ConversationMember.key).Nodup then
    .ok { store with members := store.members ++ rows }
  else .error .failedCall

def findMember (store : Store) (conversationId userId : Uuid) : Option ConversationMember :=
  lookup ConversationMember.key (conversationId, userId) store.members

/-- The name in the source is `exists`. -/
def existsMember (store : Store) (conversationId userId : Uuid) : Bool :=
  store.members.any fun member =>
    member.conversationId == conversationId && member.userId == userId &&
      member.softDeletedAt.isNone

def getMembers (store : Store) (conversationId : Uuid) : List ConversationMember :=
  store.members.filter fun member =>
    member.conversationId == conversationId && member.softDeletedAt.isNone

def getRemainingConversations (store : Store) (conversationId : Uuid) : Nat :=
  (getMembers store conversationId).length

/-- All member updates address one row by its primary key. -/
def updateMember (store : Store) (conversationId userId : Uuid)
    (change : ConversationMember → ConversationMember) : Store :=
  { store with
    members := updateWhere
      (fun member => decide (member.key = (conversationId, userId))) change store.members }

def updateRole (conversationId userId : Uuid) (role : ConversationRole) (store : Store) : Store :=
  updateMember store conversationId userId fun member => { member with role }

def markConversationAsDeleted (now : Nat) (conversationId userId : Uuid) (store : Store) : Store :=
  updateMember store conversationId userId fun member =>
    { member with softDeletedAt := some (jsDate now) }

def restoreConversation (now : Nat) (conversationId userId : Uuid) (store : Store) : Store :=
  updateMember store conversationId userId fun member =>
    { member with softDeletedAt := none, restoredAt := some (jsDate now) }

def incrementUnreadCount (conversationId userId : Uuid) (store : Store) : Store :=
  updateMember store conversationId userId fun member =>
    { member with unreadCount := member.unreadCount + 1 }

def resetUnreadCount (conversationId userId : Uuid) (store : Store) : Store :=
  updateMember store conversationId userId fun member => { member with unreadCount := 0 }

end ConversationMemberRepository

namespace ConversationRepository

/-- The insert fails when another conversation has the private key. -/
def saveConversation (now : Nat) (type : ConversationType) (privateKey : Option Text)
    (name : Option String) (store : Store) : Except Exception (Conversation × Store) :=
  if privateKey.isSome ∧ (store.conversations.any fun row => row.privateKey == privateKey) = true then
    .error .failedCall
  else
    let row : Conversation :=
      { id := store.nextId, privateKey, name, type, createdAt := now, updatedAt := now }
    .ok (row, { store with
      conversations := store.conversations ++ [row], nextId := store.nextId + 1 })

def findById (store : Store) (id : Uuid) : Option Conversation :=
  lookup Conversation.id id store.conversations

def findByPrivateKey (store : Store) (privateKey : Text) : Option Conversation :=
  lookup Conversation.privateKey (some privateKey) store.conversations

/-- The members include the rows with a soft deletion. -/
def getConversationMembers (store : Store) (id : Uuid) : List ConversationMember :=
  match findById store id with
  | none => []
  | some _ => store.members.filter fun member => member.conversationId == id

def deleteConversation (conversationId : Uuid) (store : Store) : Store :=
  store.deleteConversations fun id => id == conversationId

def updateLastMessage (now : Nat) (conversationId messageId : Uuid) (store : Store) : Store :=
  { store with
    conversations := updateWhere (fun row => row.id == conversationId)
      (fun row => { row with lastMessageId := some messageId, updatedAt := now })
      store.conversations }

end ConversationRepository

namespace ConversationEventRepository

/-- The insert fails when the conversation is missing. -/
def createEvent (now : Nat) (conversationId actorId : Uuid) (targetUserId : Option Uuid)
    (type : ConversationEventType) (store : Store) : Except Exception Store :=
  if store.hasConversation conversationId then
    .ok { store with
      events := store.events ++
        [{ id := store.nextId, conversationId, actorId, targetUserId, type, createdAt := now }]
      nextId := store.nextId + 1 }
  else .error .failedCall

end ConversationEventRepository

namespace GroupInvitationRepository

/-- All lookups and updates of invitations address the pair of conversation and target. -/
def ofPair (conversationId targetId : Uuid) (invitation : GroupInvitation) : Bool :=
  invitation.conversationId == conversationId && invitation.targetId == targetId

def createInvitation (now : Nat) (conversationId actorId targetId : Uuid) (expiresAt : Nat)
    (store : Store) : Except Exception Store :=
  if store.hasConversation conversationId && store.hasUser actorId && store.hasUser targetId then
    .ok { store with
      invitations := store.invitations ++
        [{ id := store.nextId, conversationId, actorId, targetId, expiresAt, createdAt := now }]
      nextId := store.nextId + 1 }
  else .error .failedCall

/-- The lookup has no order, so it returns whichever row of the pair the scan meets. -/
def findOne (scan : Nat) (store : Store) (conversationId targetId : Uuid) :
    Option GroupInvitation :=
  pickRow scan (store.invitations.filter (ofPair conversationId targetId))

def setStatus (status : GroupInvitationStatus) (conversationId targetId : Uuid) (store : Store) :
    Store :=
  { store with
    invitations := updateWhere (ofPair conversationId targetId)
      (fun invitation => { invitation with status }) store.invitations }

def acceptInvitation (conversationId targetId : Uuid) (store : Store) : Store :=
  setStatus .accepted conversationId targetId store

def rejectInvitation (conversationId targetId : Uuid) (store : Store) : Store :=
  setStatus .rejected conversationId targetId store

/-- The source writes ACCEPTED here, not EXPIRED. -/
def markInvitationAsExpired (conversationId targetId : Uuid) (store : Store) : Store :=
  setStatus .accepted conversationId targetId store

end GroupInvitationRepository

namespace MessageRepository

/-- The insert fails when the conversation or the sender is missing. -/
def saveMessage (now : Nat) (conversationId senderId : Uuid) (cipheredContent iv authTag : Text)
    (store : Store) : Except Exception (Message × Store) :=
  if store.hasConversation conversationId && store.hasUser senderId then
    let row : Message :=
      { id := store.nextId, conversationId, senderId := some senderId, cipheredContent, iv, authTag,
        createdAt := now }
    .ok (row, { store with messages := store.messages ++ [row], nextId := store.nextId + 1 })
  else .error .failedCall

/-- The result is undefined when the list of identifiers is empty. -/
def deleteMessages (conversationId : Uuid) (messagesIds : List Uuid) (store : Store) :
    Option (List Message) × Store :=
  if messagesIds = [] then (none, store)
  else
    let selected (message : Message) : Bool :=
      message.conversationId == conversationId && messagesIds.contains message.id
    (some (store.messages.filter selected), store.deleteMessages selected)

def findMessagesToCleanup (cutoff : Nat) (store : Store) : List Message :=
  store.messages.filter fun message => decide (message.createdAt < cutoff)

def deleteMessagesOlderThan (cutoff : Nat) (store : Store) : Store :=
  store.deleteMessages fun message => decide (message.createdAt < cutoff)

end MessageRepository

namespace MessageDeliveryRepository

/-- The rows take consecutive identifiers. -/
def createDeliveries (now : Nat) (messageId : Uuid) (userIds : List Uuid) (store : Store) : Store :=
  { store with
    deliveries := store.deliveries ++ userIds.zipIdx.map fun (userId, index) =>
      { id := store.nextId + index, messageId, userId, status := .sent, createdAt := now }
    nextId := store.nextId + userIds.length }

/-- The pair of message and user has no unique constraint. -/
def findByMessageAndUser (scan : Nat) (store : Store) (messageId userId : Uuid) :
    Option MessageDelivery :=
  pickRow scan (store.deliveries.filter fun delivery =>
    delivery.messageId == messageId && delivery.userId == userId)

def updateDeliveryStatus (id : Uuid) (change : MessageDelivery → MessageDelivery) (store : Store) :
    Store :=
  { store with deliveries := updateWhere (fun delivery => delivery.id == id) change store.deliveries }

end MessageDeliveryRepository

/-- These are the attachments that the relation loads with a message. -/
def Store.attachmentsOf (store : Store) (messageId : Uuid) : List MessageAttachment :=
  store.attachments.filter fun attachment => attachment.messageId == messageId

end Messinger
