/-
This file models the storage service with the repositories of uploads and attachments.
-/
import Messinger.Model.Repositories

namespace Messinger

structure FileDto where
  contentType : Text
  size : Nat
  fileName : Text

/-- The client copies the row of its upload, and the service reads the identifier and nothing else. -/
structure MessageAttachmentDto where
  id : Uuid
  storageKey : Text := []
  fileName : Text := []
  contentType : Text := []
  size : Nat := 0

namespace PendingUploadRepository

/-- The columns for the name and the type of a file are bounded. -/
def fitsColumns (file : FileDto) : Bool :=
  file.fileName.length ≤ 255 && file.contentType.length ≤ 100

/-- Each row of the batch is saved by itself, so one failure leaves the other rows in place. -/
def createUploads (env : Env) (userId : Uuid) (expiresAt : Nat) (index : Nat) :
    List FileDto → Store → Outcome (List PendingUpload)
  | [], store => (.ok [], store)
  | file :: files, store =>
      if env.succeeds index && store.hasUser userId && fitsColumns file then
        let row : PendingUpload :=
          { id := store.nextId, userId, storageKey := ⟨userId, store.nextId + 1⟩,
            fileName := file.fileName, contentType := file.contentType, size := file.size,
            expiresAt, createdAt := env.now }
        let saved := { store with
          pendingUploads := store.pendingUploads ++ [row], nextId := store.nextId + 2 }
        match createUploads env userId expiresAt (index + 1) files saved with
        | (.ok rows, next) => (.ok (row :: rows), next)
        | (.error exception, next) => (.error exception, next)
      else (.error .failedCall, (createUploads env userId expiresAt (index + 1) files store).2)

def findByIdAndUser (store : Store) (id userId : Uuid) : Option PendingUpload :=
  store.pendingUploads.find? fun upload => upload.id == id && upload.userId == userId

def deleteById (id : Uuid) (store : Store) : Store :=
  { store with pendingUploads := store.pendingUploads.filter fun upload => upload.id != id }

end PendingUploadRepository

namespace MessageAttachmentRepository

/-- This is the attachment row that the insert writes for one upload. -/
def ofUpload (now : Nat) (messageId id : Uuid) (upload : PendingUpload) : MessageAttachment :=
  { id, messageId, storageKey := upload.storageKey, fileName := upload.fileName,
    contentType := upload.contentType, size := upload.size, createdAt := now }

/-- The rows take consecutive identifiers. -/
def createAttachments (now : Nat) (messageId : Uuid) (uploads : List PendingUpload)
    (store : Store) : Store :=
  { store with
    attachments := store.attachments ++ uploads.zipIdx.map fun (upload, index) =>
      ofUpload now messageId (store.nextId + index) upload
    nextId := store.nextId + uploads.length }

def findByMessageId (store : Store) (messageId : Uuid) : List MessageAttachment :=
  store.attachments.filter fun attachment => attachment.messageId == messageId

end MessageAttachmentRepository

namespace StorageService
open PendingUploadRepository MessageAttachmentRepository

/-- The URLs are signed after the rows are saved. -/
def prepareUploads (env : Env) (userId : Uuid) (files : List FileDto) (store : Store) :
    Outcome (List StorageKey × List PendingUpload) :=
  match createUploads env userId (addHours (jsDate env.now) 24) 0 files store with
  | (.error exception, next) => (.error exception, next)
  | (.ok pendingUploads, next) =>
      if env.succeeds files.length then
        (.ok (pendingUploads.map (·.storageKey), pendingUploads), next)
      else (.error .failedCall, next)

def objectExists (store : Store) (key : StorageKey) : Bool := store.bucket.contains key

/-- The loop stops at the first attachment that has no usable upload. -/
def findUploads (now : Nat) (userId : Uuid) (store : Store) :
    List MessageAttachmentDto → Except Exception (List PendingUpload)
  | [] => .ok []
  | attachment :: attachments => do
      let some pendingUpload := findByIdAndUser store attachment.id userId
        | throw (.badRequest "ATTACHMENT:INVALID_UPLOAD")
      if getTime pendingUpload.expiresAt < getTime now then
        throw (.badRequest "ATTACHMENT:UPLOAD_EXPIRED")
      if objectExists store pendingUpload.storageKey = false then
        throw (.badRequest "ATTACHMENT:UPLOAD_NOT_FOUND")
      let uploads ← findUploads now userId store attachments
      return pendingUpload :: uploads

/-- The uploads become attachments of the message and leave the table of pending uploads. -/
def processMessageAttachments (now : Nat) (userId messageId : Uuid)
    (attachments : List MessageAttachmentDto) (store : Store) : Except Exception Store := do
  let uploads ← findUploads now userId store attachments
  let created := createAttachments now messageId uploads store
  return uploads.foldl (fun current upload => deleteById upload.id current) created

def maxKeysPerBatch : Nat := 1000

/-- The loop slices the keys at each multiple of the batch size. -/
def batchesOf (storageKeys : List StorageKey) : List (List StorageKey) :=
  (List.range ((storageKeys.length + maxKeysPerBatch - 1) / maxKeysPerBatch)).map fun index =>
    (storageKeys.drop (index * maxKeysPerBatch)).take maxKeysPerBatch

/-- A batch that fails may have deleted some of its keys, and leaves the later ones in the bucket. -/
def deleteBatches (env : Env) (index : Nat) : List (List StorageKey) → Store → Outcome Unit
  | [], store => (.ok (), store)
  | batch :: batches, store =>
      if env.succeeds index then
        deleteBatches env (index + 1) batches
          { store with bucket := store.bucket.filter fun key => !batch.contains key }
      else
        (.error .failedCall,
          { store with bucket := store.bucket.filter fun key => !(batch.contains key && env.deleted.contains key) })

/-- The callers count their own call to the database as the first one. -/
def deleteFiles (env : Env) (storageKeys : List StorageKey) (store : Store) : Outcome Unit :=
  deleteBatches env 1 (batchesOf storageKeys) store

end StorageService

end Messinger
