/-
This file models the message service and the queries of the message history.
-/
import Messinger.Model.ConversationService
import Messinger.Model.StorageService

namespace Messinger

structure PrivateMessageDto where
  receiverId : Text
  content : CodeUnits
  attachments : List MessageAttachmentDto

structure GroupMessageDto where
  conversationId : Uuid
  content : CodeUnits
  attachments : List MessageAttachmentDto

structure MessageDeliveryDto where
  conversationId : Uuid
  messageId : Uuid
  status : MessageStatus

structure GetConversationMessagesDto where
  conversationId : Uuid
  limit : Nat
  cursor : Option Uuid := none

structure DeleteMessagesDto where
  conversationId : Uuid
  messagesIds : List Uuid

namespace MessageRepository

/-- The cursor must name a message of the conversation, and its time is read as a `Date`. -/
def cursorCreatedAt (store : Store) (conversationId : Uuid) (cursor : Option Uuid) : Option Nat :=
  cursor.bind fun id =>
    (store.messages.find? fun message =>
      message.id == id && message.conversationId == conversationId).map
      fun message => jsDate message.createdAt

/-- The query takes the newest rows after the soft deletion and before the cursor. -/
def findByConversation (store : Store) (conversationId : Uuid) (limit : Nat)
    (cursor : Option Uuid) (lastDeletedAt : Option Nat) : List Message :=
  let cursorDate := cursorCreatedAt store conversationId cursor
  let rows := store.messages.filter fun message =>
    message.conversationId == conversationId &&
      lastDeletedAt.all (fun deleted => decide (deleted < message.createdAt)) &&
      cursorDate.all (fun date => decide (message.createdAt < date))
  (rows.insertionSort fun first second => second.createdAt ≤ first.createdAt).take (limit + 1)

end MessageRepository

namespace ConversationEventRepository

def cursorCreatedAt (store : Store) (conversationId : Uuid) (cursor : Option Uuid) : Option Nat :=
  cursor.bind fun id =>
    (store.events.find? fun event =>
      event.id == id && event.conversationId == conversationId).map
      fun event => jsDate event.createdAt

/-- The query takes the oldest rows before the cursor. -/
def findByConversation (store : Store) (conversationId : Uuid) (limit : Nat)
    (cursor : Option Uuid) : List ConversationEvent :=
  let cursorDate := cursorCreatedAt store conversationId cursor
  let rows := store.events.filter fun event =>
    event.conversationId == conversationId &&
      cursorDate.all (fun date => decide (event.createdAt < date))
  (rows.insertionSort fun first second => first.createdAt ≤ second.createdAt).take (limit + 1)

end ConversationEventRepository

namespace MessageService
open ConversationMemberRepository ConversationRepository MessageRepository
  MessageDeliveryRepository MessageAttachmentRepository StorageService

structure CipheredMessage where
  cipheredContent : Text
  iv : Text
  authTag : Text

/-- `randomBytes(12)` draws the initialization vector. -/
def randomIv (env : Env) : Bytes := (List.range 12).map fun index => UInt8.ofNat (env.draw index)

def cipherMessage (platform : Platform) (env : Env) (content : CodeUnits) : CipheredMessage :=
  let iv := randomIv env
  let (encrypted, authTag) :=
    platform.aesSeal platform.messageEncryptionKey iv (utf8Encode content)
  { cipheredContent := platform.toBase64 encrypted
    iv := platform.toBase64 iv
    authTag := platform.toBase64 authTag }

/-- The decipher throws when the tag does not match. -/
def decipherMessage (platform : Platform) (encryptedContent iv authTag : Text) :
    Except Exception CodeUnits :=
  match platform.aesOpen platform.messageEncryptionKey (platform.fromBase64 iv)
      (platform.fromBase64 authTag) (platform.fromBase64 encryptedContent) with
  | some decrypted => .ok (utf8Decode decrypted)
  | none => .error .failedCall

structure SavedMessage where
  id : Uuid
  senderId : Uuid
  conversationId : Uuid
  createdAt : Nat
  content : CodeUnits
  savedAttachments : List MessageAttachment
  senderName : Option Text := none
  deriving DecidableEq

/-- Both kinds of message reach every listed member except the sender. -/
def recipients (members : List ConversationMember) (senderId : Uuid) : List Uuid :=
  (members.filter fun member => member.userId != senderId).map (·.userId)

/-- Both kinds of message save the row and its deliveries and attachments in one transaction. -/
def persistMessage (now : Nat) (senderId conversationId : Uuid) (members : List ConversationMember)
    (ciphered : CipheredMessage) (content : CodeUnits) (attachments : List MessageAttachmentDto)
    (store : Store) : Except Exception (SavedMessage × Store) := do
  let (savedMessage, saved) ← saveMessage now conversationId senderId ciphered.cipheredContent
    ciphered.iv ciphered.authTag store
  let targets := recipients members senderId
  let delivered := createDeliveries now savedMessage.id targets saved
  let linked := updateLastMessage now conversationId savedMessage.id delivered
  let processed ← processMessageAttachments now senderId savedMessage.id attachments linked
  let counted := targets.foldl
    (fun current userId => incrementUnreadCount conversationId userId current) processed
  return ({ id := savedMessage.id, senderId, conversationId, createdAt := savedMessage.createdAt,
            content, savedAttachments := findByMessageId counted savedMessage.id }, counted)

def restoreIfDeleted (now : Nat) (member : Option ConversationMember)
    (conversationId userId : Uuid) (store : Store) : Store :=
  if (member.bind (·.softDeletedAt)).isSome then
    restoreConversation now conversationId userId store
  else store

/-- The transaction restores the rows of the two users that were read before it. -/
def createPrivateMessageBody (now : Nat) (senderId : Uuid) (dto : PrivateMessageDto)
    (ciphered : CipheredMessage) (conversation : Conversation)
    (sender receiver : Option ConversationMember) (members : List ConversationMember)
    (store : Store) : Except Exception (SavedMessage × Store) :=
  let senderRestored := restoreIfDeleted now sender conversation.id senderId store
  let receiverRestored :=
    restoreIfDeleted now receiver conversation.id (parseUuid dto.receiverId) senderRestored
  persistMessage now senderId conversation.id members ciphered dto.content dto.attachments
    receiverRestored

/-- The conversation is created in its own transaction, before the one that saves the message. -/
def createPrivateMessage (platform : Platform) (env : Env) (senderId : Uuid)
    (dto : PrivateMessageDto) (store : Store) : Outcome (List ConversationMember × SavedMessage) :=
  match ConversationService.getOrCreatePrivateConversation platform env
      { type := .privateType, creatorId := uuidText senderId, members := [dto.receiverId] } store with
  | (.error exception, next) => (.error exception, next)
  | (.ok conversation, opened) =>
      let sender := findMember opened conversation.id senderId
      let receiver := findMember opened conversation.id (parseUuid dto.receiverId)
      let members := getConversationMembers opened conversation.id
      let senderName := sender.bind fun member =>
        (opened.users.find? fun user => user.id == member.userId).bind (·.username)
      transaction (env.succeeds 1) opened fun current => do
        let (saved, next) ← createPrivateMessageBody env.now senderId dto
          (cipherMessage platform env dto.content) conversation sender receiver members current
        return ((members, { saved with senderName }), next)

def createGroupMessageChecks (store : Store) (senderId conversationId : Uuid) :
    Except Exception (List ConversationMember) := do
  let some conversation := findById store conversationId
    | throw (.notFound "GROUP:NOT_FOUND")
  if conversation.type ≠ .groupType then
    throw (.forbidden "GROUP:INVALID_CONVERSATION_TYPE")
  let some member := findMember store conversationId senderId
    | throw (.forbidden "GROUP:USER_NOT_MEMBER")
  if member.softDeletedAt.isSome then
    throw (.forbidden "GROUP:USER_LEFT_GROUP")
  return getMembers store conversationId

def createGroupMessage (platform : Platform) (env : Env) (senderId : Uuid)
    (dto : GroupMessageDto) (store : Store) : Outcome (SavedMessage × List ConversationMember) :=
  guarded store (createGroupMessageChecks store senderId dto.conversationId) fun members =>
    transaction (env.succeeds 0) store fun current => do
      let (saved, next) ← persistMessage env.now senderId dto.conversationId members
        (cipherMessage platform env dto.content) dto.content dto.attachments current
      return ((saved, members), next)

/-- The page mixes messages and events, with their times as dates. -/
inductive HistoryItem where
  | message (id conversationId : Uuid) (senderId : Option Uuid) (createdAt : Nat)
      (attachments : List MessageAttachment) (content : CodeUnits)
  | event (id conversationId actorId : Uuid) (targetUserId : Option Uuid)
      (type : ConversationEventType) (createdAt : Nat)
  deriving DecidableEq

def HistoryItem.id : HistoryItem → Uuid
  | .message id _ _ _ _ _ => id
  | .event id _ _ _ _ _ => id

def HistoryItem.createdAt : HistoryItem → Nat
  | .message _ _ _ createdAt _ _ => createdAt
  | .event _ _ _ _ _ createdAt => createdAt

def messageItem (platform : Platform) (store : Store) (message : Message) :
    Except Exception HistoryItem := do
  let content ← decipherMessage platform message.cipheredContent message.iv message.authTag
  return .message message.id message.conversationId message.senderId (jsDate message.createdAt)
    (store.attachmentsOf message.id) content

def eventItem (event : ConversationEvent) : HistoryItem :=
  .event event.id event.conversationId event.actorId event.targetUserId event.type
    (jsDate event.createdAt)

structure HistoryPage where
  page : List HistoryItem
  nextCursor : Option Uuid
  deriving DecidableEq

/-- The sort is stable, and the page is the first slice of the sorted history. -/
def paginateHistory (limit : Nat) (history : List HistoryItem) : HistoryPage :=
  let sorted := history.insertionSort fun first second =>
    getTime first.createdAt ≤ getTime second.createdAt
  let page := sorted.take (limit + 1)
  { page, nextCursor := if limit < sorted.length then page.head?.map HistoryItem.id else none }

def getConversationMessages (platform : Platform) (store : Store) (userId : Uuid)
    (dto : GetConversationMessagesDto) : Except Exception HistoryPage := do
  let member := findMember store dto.conversationId userId
  let lastDeletedAt := (member.bind (·.softDeletedAt)).map jsDate
  let messages := MessageRepository.findByConversation store dto.conversationId dto.limit dto.cursor
    lastDeletedAt
  let events := ConversationEventRepository.findByConversation store dto.conversationId dto.limit
    dto.cursor
  let items ← messages.mapM (messageItem platform store)
  return paginateHistory dto.limit (items ++ events.map eventItem)

/-- The counter and the delivery are updated one after the other, outside any transaction. -/
def confirmDelivery (env : Env) (userId : Uuid) (dto : MessageDeliveryDto) (store : Store) :
    Outcome MessageDelivery :=
  match findByMessageAndUser env.scan store dto.messageId userId with
  | none => (.error (.notFound "COMFIRM_DELIVERY:DELIVERY_NOT_FOUND"), store)
  | some delivery =>
      if dto.status = .read ∧ env.succeeds 0 = false then (.error .failedCall, store)
      else
        let counted :=
          if dto.status = .read then resetUnreadCount dto.conversationId userId store else store
        if env.succeeds 1 then
          (.ok delivery, updateDeliveryStatus delivery.id
            (fun row =>
              if dto.status = .delivered then
                { row with status := dto.status, deliveredAt := some (jsDate env.now) }
              else { row with status := dto.status, readAt := some (jsDate env.now) }) counted)
        else (.error .failedCall, counted)

/-- The service checks neither the caller nor its membership. -/
def deleteMessages (env : Env) (dto : DeleteMessagesDto) (store : Store) :
    Outcome (Option (List Message)) :=
  transaction (env.succeeds 0) store fun current =>
    .ok (MessageRepository.deleteMessages dto.conversationId dto.messagesIds current)

end MessageService

end Messinger
