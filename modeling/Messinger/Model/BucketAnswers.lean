/-
This file models the deletion of files with the answers of the bucket. The bucket can answer normally and report
that single keys of a request were not deleted, and no caller looks at the answer.
-/
import Messinger.Model.Removals

namespace Messinger

/-- A request that throws may have deleted some of its keys, and one that is answered keeps the reported ones. -/
inductive DeletionAnswer where
  | thrown (deleted : List StorageKey)
  | answered (errors : List StorageKey)

/-- The result keeps the requests that were sent. -/
structure Deletion where
  outcome : Outcome Unit
  sent : List (List StorageKey)

def deleteObjects (gone : StorageKey → Bool) (store : Store) : Store :=
  { store with bucket := store.bucket.filter fun key => !gone key }

namespace BucketAnswers

/-- The first answer is that to the first batch. -/
def deleteBatches (answers : Nat → DeletionAnswer) : List (List StorageKey) → Store → Deletion
  | [], store => { outcome := (.ok (), store), sent := [] }
  | batch :: batches, store =>
      match answers 0 with
      | .thrown deleted =>
          { outcome := (.error .failedCall, deleteObjects (fun key => batch.contains key && deleted.contains key) store)
            sent := [batch] }
      | .answered errors =>
          let rest := deleteBatches (fun index => answers (index + 1)) batches
            (deleteObjects (fun key => batch.contains key && !errors.contains key) store)
          { rest with sent := batch :: rest.sent }

def deleteFiles (answers : Nat → DeletionAnswer) (storageKeys : List StorageKey) (store : Store) : Deletion :=
  deleteBatches answers (StorageService.batchesOf storageKeys) store

def deleteUser (answers : Nat → DeletionAnswer) (commits : Bool) (dto : UserDto) (store : Store) : Outcome Unit :=
  let doomed := AdminService.conversationsToDelete store dto.userId
  match (deleteFiles answers (AdminService.filesOfUser store dto) store).outcome with
  | (.error exception, emptied) => (.error exception, emptied)
  | (.ok (), emptied) =>
      transaction commits emptied fun current =>
        .ok ((), (current.deleteConversations fun id => doomed.contains id).deleteUsers
          fun user => user.id == dto.userId)

def deleteMessagesJob (answers : Nat → DeletionAnswer) (env : Env) (store : Store) : Store :=
  let cutoff := jsDate env.now - maxMessageAge
  if MessageRepository.findMessagesToCleanup cutoff store = [] then store
  else
    match (deleteFiles answers (filesToCleanup env store) store).outcome with
    | (.error _, emptied) => emptied
    | (.ok (), emptied) =>
        if env.succeeds 0 then MessageRepository.deleteMessagesOlderThan cutoff emptied else emptied

end BucketAnswers

end Messinger
