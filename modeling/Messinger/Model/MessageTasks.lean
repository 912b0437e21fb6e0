/-
This file models the uploads and the messages that use them, one committed step at a time. A transaction
reads the uploads one by one under READ COMMITTED, and all its writes appear when it commits.
-/
import Messinger.Library.Tasks
import Messinger.Model.MessageService

namespace Messinger
open Library PendingUploadRepository MessageAttachmentRepository ConversationMemberRepository
  ConversationRepository MessageRepository MessageDeliveryRepository StorageService MessageService

namespace StorageService

/-- This is one turn of the loop over the attachments. -/
def findUpload (now : Nat) (userId : Uuid) (store : Store) (attachment : MessageAttachmentDto) :
    Except Exception PendingUpload := do
  let some pendingUpload := findByIdAndUser store attachment.id userId
    | throw (.badRequest "ATTACHMENT:INVALID_UPLOAD")
  if getTime pendingUpload.expiresAt < getTime now then
    throw (.badRequest "ATTACHMENT:UPLOAD_EXPIRED")
  if objectExists store pendingUpload.storageKey = false then
    throw (.badRequest "ATTACHMENT:UPLOAD_NOT_FOUND")
  return pendingUpload

/-- These are the writes that follow the loop. -/
def attachUploads (now : Nat) (messageId : Uuid) (uploads : List PendingUpload) (store : Store) : Store :=
  uploads.foldl (fun current upload => deleteById upload.id current) (createAttachments now messageId uploads store)

end StorageService

/-- A message waits in its transaction with the rows that were read before it, the attachments that are
still to be looked up, and the uploads that were found. -/
structure MessageDraft where
  senderId : Uuid
  conversationId : Uuid
  restored : List (Uuid × Option ConversationMember)
  members : List ConversationMember
  ciphered : MessageService.CipheredMessage
  remaining : List MessageAttachmentDto
  found : List PendingUpload := []

namespace MessageDraft

def saved (draft : MessageDraft) (now : Nat) (store : Store) : Store :=
  draft.restored.foldl
    (fun current member => restoreIfDeleted now member.2 draft.conversationId member.1 current) store

/-- These are the writes of the transaction, with the uploads that it has found. -/
def write (draft : MessageDraft) (now : Nat) (store : Store) : Except Exception (Unit × Store) := do
  let (savedMessage, saved) ← saveMessage now draft.conversationId draft.senderId draft.ciphered.cipheredContent
    draft.ciphered.iv draft.ciphered.authTag (draft.saved now store)
  let targets := recipients draft.members draft.senderId
  let delivered := createDeliveries now savedMessage.id targets saved
  let linked := updateLastMessage now draft.conversationId savedMessage.id delivered
  let processed := attachUploads now savedMessage.id draft.found linked
  let counted := targets.foldl
    (fun current userId => incrementUnreadCount draft.conversationId userId current) processed
  return ((), counted)

end MessageDraft

/-- The client puts the object of an upload into the bucket by itself. -/
inductive UploadCall where
  | prepareUploads (userId : Uuid) (files : List FileDto)
  | putObject (key : StorageKey)
  | createPrivateMessage (senderId : Uuid) (dto : PrivateMessageDto)
  | createGroupMessage (senderId : Uuid) (dto : GroupMessageDto)

inductive UploadTask where
  | createUploads (userId : Uuid) (expiresAt : Nat) (files : List FileDto)
  | message (draft : MessageDraft)

namespace UploadTask

/-- The calls read everything but the uploads before the transaction of the message. -/
def start (platform : Platform) (store : Store) (call : Env × UploadCall) : Store × Option UploadTask :=
  let env := call.1
  match call.2 with
  | .prepareUploads userId files => (store, some (.createUploads userId (addHours (jsDate env.now) 24) files))
  | .putObject key => ({ store with bucket := store.bucket ++ [key] }, none)
  | .createPrivateMessage senderId dto =>
      match ConversationService.getOrCreatePrivateConversation platform env
          { type := .privateType, creatorId := uuidText senderId, members := [dto.receiverId] } store with
      | (.error _, next) => (next, none)
      | (.ok conversation, opened) =>
          (opened, some (.message
            { senderId, conversationId := conversation.id
              restored := [(senderId, findMember opened conversation.id senderId),
                (parseUuid dto.receiverId, findMember opened conversation.id (parseUuid dto.receiverId))]
              members := getConversationMembers opened conversation.id
              ciphered := cipherMessage platform env dto.content, remaining := dto.attachments }))
  | .createGroupMessage senderId dto =>
      match createGroupMessageChecks store senderId dto.conversationId with
      | .error _ => (store, none)
      | .ok members =>
          (store, some (.message
            { senderId, conversationId := dto.conversationId, restored := [], members
              ciphered := cipherMessage platform env dto.content, remaining := dto.attachments }))

/-- A lookup that fails rolls the transaction back, and the commit may fail too. -/
def resume (store : Store) (task : UploadTask) (env : Env) : Store × Option UploadTask :=
  match task with
  | .createUploads _ _ [] => (store, none)
  | .createUploads userId expiresAt (file :: files) =>
      ((PendingUploadRepository.createUploads env userId expiresAt 0 [file] store).2,
        some (.createUploads userId expiresAt files))
  | .message draft =>
      match draft.remaining with
      | attachment :: rest =>
          match findUpload env.now draft.senderId store attachment with
          | .error _ => (store, none)
          | .ok upload => (store, some (.message { draft with remaining := rest, found := draft.found ++ [upload] }))
      | [] => ((transaction (env.succeeds 0) store (draft.write env.now)).2, none)

end UploadTask

/-- Uploads and messages of all users run one committed step at a time. -/
def uploadSystem (platform : Platform) : Cooperative Store (Env × UploadCall) UploadTask Env where
  start := UploadTask.start platform
  resume := UploadTask.resume

end Messinger
