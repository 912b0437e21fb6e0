/-
This file models the rows of the tables as records of the columns that a constraint of the database mentions.
-/
import Messinger.Model.Migrations
import Messinger.Model.Store

namespace Messinger
open Library

inductive SqlValue where
  | uuid (id : Uuid)
  | text (text : Text)
  | storageKey (key : StorageKey)
  deriving DecidableEq, Repr

abbrev SqlRecord := Record ColumnName SqlValue

def User.record (user : User) : SqlRecord
  | .id => some (.uuid user.id)
  | .loginKeyLookup => user.loginKeyLookup.map .text
  | .userCode => user.userCode.map .text
  | _ => none

def Session.record (session : Session) : SqlRecord
  | .id => some (.uuid session.id)
  | .userId => some (.uuid session.userId)
  | .refreshTokenHash => some (.text session.refreshTokenHash)
  | _ => none

def Conversation.record (conversation : Conversation) : SqlRecord
  | .id => some (.uuid conversation.id)
  | .privateKey => conversation.privateKey.map .text
  | .lastMessageId => conversation.lastMessageId.map .uuid
  | _ => none

def ConversationMember.record (member : ConversationMember) : SqlRecord
  | .conversationId => some (.uuid member.conversationId)
  | .userId => some (.uuid member.userId)
  | _ => none

def ConversationEvent.record (event : ConversationEvent) : SqlRecord
  | .id => some (.uuid event.id)
  | .conversationId => some (.uuid event.conversationId)
  | _ => none

def GroupInvitation.record (invitation : GroupInvitation) : SqlRecord
  | .id => some (.uuid invitation.id)
  | .conversationId => some (.uuid invitation.conversationId)
  | .actorId => some (.uuid invitation.actorId)
  | .targetId => some (.uuid invitation.targetId)
  | _ => none

def Message.record (message : Message) : SqlRecord
  | .id => some (.uuid message.id)
  | .conversationId => some (.uuid message.conversationId)
  | .senderId => message.senderId.map .uuid
  | _ => none

def MessageDelivery.record (delivery : MessageDelivery) : SqlRecord
  | .id => some (.uuid delivery.id)
  | .messageId => some (.uuid delivery.messageId)
  | _ => none

def MessageAttachment.record (attachment : MessageAttachment) : SqlRecord
  | .id => some (.uuid attachment.id)
  | .messageId => some (.uuid attachment.messageId)
  | _ => none

def PendingUpload.record (upload : PendingUpload) : SqlRecord
  | .id => some (.uuid upload.id)
  | .userId => some (.uuid upload.userId)
  | .storageKey => some (.storageKey upload.storageKey)
  | _ => none

def PushSubscription.record (subscription : PushSubscription) : SqlRecord
  | .id => some (.uuid subscription.id)
  | .userId => some (.uuid subscription.userId)
  | _ => none

def Store.database (store : Store) : Database TableName ColumnName SqlValue
  | .userSessions => store.sessions.map Session.record
  | .users => store.users.map User.record
  | .messageDeliveries => store.deliveries.map MessageDelivery.record
  | .conversationMembers => store.members.map ConversationMember.record
  | .conversations => store.conversations.map Conversation.record
  | .messages => store.messages.map Message.record
  | .conversationEvents => store.events.map ConversationEvent.record
  | .groupInvitations => store.invitations.map GroupInvitation.record
  | .messageAttachments => store.attachments.map MessageAttachment.record
  | .pendingUploads => store.pendingUploads.map PendingUpload.record
  | .pushSubscriptions => store.pushSubscriptions.map PushSubscription.record

/-- Every foreign key refers to the identifiers of its target. -/
def reference (table : TableName) (column : ColumnName) (target : TableName) (onDelete : DeleteRule) :
    ForeignKey TableName ColumnName :=
  { table, column, target, targetColumn := .id, onDelete }

/-- These are the primary keys, the unique keys and the foreign keys of the migrated schema. -/
def tableConstraints : Constraints TableName ColumnName where
  unique := [
    ⟨.userSessions, [.id]⟩, ⟨.userSessions, [.refreshTokenHash]⟩,
    ⟨.users, [.id]⟩, ⟨.users, [.loginKeyLookup]⟩, ⟨.users, [.userCode]⟩,
    ⟨.messageDeliveries, [.id]⟩,
    ⟨.conversationMembers, [.conversationId, .userId]⟩,
    ⟨.conversations, [.id]⟩, ⟨.conversations, [.privateKey]⟩,
    ⟨.messages, [.id]⟩,
    ⟨.conversationEvents, [.id]⟩,
    ⟨.groupInvitations, [.id]⟩,
    ⟨.messageAttachments, [.id]⟩,
    ⟨.pendingUploads, [.id]⟩, ⟨.pendingUploads, [.storageKey]⟩,
    ⟨.pushSubscriptions, [.id]⟩]
  foreign := [
    reference .userSessions .userId .users .cascade,
    reference .messageDeliveries .messageId .messages .cascade,
    reference .conversationMembers .conversationId .conversations .cascade,
    reference .conversationMembers .userId .users .cascade,
    reference .conversations .lastMessageId .messages .setNull,
    reference .messages .conversationId .conversations .cascade,
    reference .messages .senderId .users .setNull,
    reference .conversationEvents .conversationId .conversations .cascade,
    reference .groupInvitations .conversationId .conversations .cascade,
    reference .groupInvitations .actorId .users .cascade,
    reference .groupInvitations .targetId .users .cascade,
    reference .messageAttachments .messageId .messages .cascade,
    reference .pendingUploads .userId .users .cascade,
    reference .pushSubscriptions .userId .users .cascade]

end Messinger
