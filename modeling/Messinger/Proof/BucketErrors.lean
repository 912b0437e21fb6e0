import Messinger.Library.Slices
import Messinger.Model.BucketAnswers
import Messinger.Proof.FileDeletions

namespace Messinger
open Library StorageService

/-- No row goes while the bucket still stores its file. -/
def KeepsStoredRows (store next : Store) : Prop :=
  ∀ attachment ∈ store.attachments, attachment ∉ next.attachments → attachment.storageKey ∉ next.bucket

/-- The requests cut up the keys, and a normal return means that their files are gone.
The cleanup job and `deleteUser` rely on it. -/
structure DeletesAll (answers : Nat → DeletionAnswer) (storageKeys : List StorageKey) (store : Store) : Prop where
  ordered : (BucketAnswers.deleteFiles answers storageKeys store).sent.flatten <+: storageKeys
  sized : ∀ batch ∈ (BucketAnswers.deleteFiles answers storageKeys store).sent, batch ≠ [] ∧ batch.length ≤ 1000
  whole : (BucketAnswers.deleteFiles answers storageKeys store).outcome.1 = .ok () →
    (BucketAnswers.deleteFiles answers storageKeys store).sent.flatten = storageKeys
  gone : (BucketAnswers.deleteFiles answers storageKeys store).outcome.1 = .ok () →
    ∀ key ∈ storageKeys, key ∉ (BucketAnswers.deleteFiles answers storageKeys store).outcome.2.bucket
  cleanup : ∀ env, storageKeys = filesToCleanup env store →
    KeepsStoredRows store (BucketAnswers.deleteMessagesJob answers env store)
  user : ∀ commits dto, storageKeys = AdminService.filesOfUser store dto →
    KeepsStoredRows store (BucketAnswers.deleteUser answers commits dto store).2

def RequestThrows (answers : Nat → DeletionAnswer) (storageKeys : List StorageKey) : Prop :=
  ∃ index < (batchesOf storageKeys).length, ∃ deleted, answers index = .thrown deleted

/-- Some request for each stored key is answered without an error for the key. -/
def ReportsNoneLeft (answers : Nat → DeletionAnswer) (storageKeys : List StorageKey) (store : Store) : Prop :=
  ∀ key ∈ storageKeys, key ∈ store.bucket → ∃ index batch errors, (batchesOf storageKeys)[index]? = some batch ∧
    answers index = .answered errors ∧ key ∈ batch ∧ key ∉ errors

namespace BucketAnswers

section Batches
variable {answers : Nat → DeletionAnswer} {batch : List StorageKey} {lists : List (List StorageKey)} {store : Store}
  {key : StorageKey}

/-- These keys of an answered request leave the bucket. -/
def withoutKeys (batch errors : List StorageKey) (store : Store) : Store :=
  deleteObjects (fun key => batch.contains key && !errors.contains key) store

theorem mem_withoutKeys {errors : List StorageKey} :
    key ∈ (withoutKeys batch errors store).bucket ↔ key ∈ store.bucket ∧ (key ∈ batch → key ∈ errors) := by
  change key ∈ store.bucket.filter _ ↔ _
  rw [List.mem_filter]
  refine and_congr_right fun _ => ?_
  by_cases inside : key ∈ batch
  · simp [inside]
  · simp [inside]

theorem deleteBatches_thrown {deleted : List StorageKey} (thrown : answers 0 = .thrown deleted) :
    deleteBatches answers (batch :: lists) store =
      { outcome := (.error .failedCall, deleteObjects (fun key => batch.contains key && deleted.contains key) store)
        sent := [batch] } := by
  rw [deleteBatches, thrown]

theorem deleteBatches_answered {errors : List StorageKey} (answered : answers 0 = .answered errors) :
    deleteBatches answers (batch :: lists) store =
      { outcome := (deleteBatches (fun index => answers (index + 1)) lists (withoutKeys batch errors store)).outcome
        sent := batch ::
          (deleteBatches (fun index => answers (index + 1)) lists (withoutKeys batch errors store)).sent } := by
  rw [deleteBatches, answered]
  rfl

theorem deleteBatches_frame (answers : Nat → DeletionAnswer) (lists : List (List StorageKey)) (store : Store) :
    ∃ bucket, (deleteBatches answers lists store).outcome.2 = { store with bucket } := by
  induction lists generalizing answers store with
  | nil => exact ⟨store.bucket, rfl⟩
  | cons batch rest ih =>
      cases answer : answers 0 with
      | thrown deleted =>
          rw [deleteBatches_thrown answer]
          exact ⟨_, rfl⟩
      | answered errors =>
          rw [deleteBatches_answered answer]
          exact ih _ _

/-- The loop ends normally exactly when no request throws. -/
theorem deleteBatches_ok_iff : (deleteBatches answers lists store).outcome.1 = .ok () ↔
    ∀ index < lists.length, ∃ errors, answers index = .answered errors := by
  induction lists generalizing answers store with
  | nil => exact iff_of_true rfl fun index below => absurd below (Nat.not_lt_zero index)
  | cons batch rest ih =>
      cases answer : answers 0 with
      | thrown deleted =>
          rw [deleteBatches_thrown answer]
          constructor
          · intro ended
            cases ended
          · intro all
            obtain ⟨errors, answered⟩ := all 0 (Nat.zero_lt_succ _)
            cases answer.symm.trans answered
      | answered errors =>
          rw [deleteBatches_answered answer, ih]
          constructor
          · rintro later (_ | index) below
            · exact ⟨errors, answer⟩
            · exact later index (Nat.lt_of_succ_lt_succ below)
          · exact fun all index below => all (index + 1) (Nat.succ_lt_succ below)

/-- The loop sends the batches from the first one on. -/
theorem deleteBatches_sent (answers : Nat → DeletionAnswer) (lists : List (List StorageKey)) (store : Store) :
    (deleteBatches answers lists store).sent <+: lists := by
  induction lists generalizing answers store with
  | nil => exact List.prefix_rfl
  | cons batch rest ih =>
      cases answer : answers 0 with
      | thrown deleted =>
          rw [deleteBatches_thrown answer]
          exact ⟨rest, rfl⟩
      | answered errors =>
          rw [deleteBatches_answered answer]
          exact (List.prefix_cons_inj batch).mpr (ih _ _)

theorem deleteBatches_sent_of_ok (ended : (deleteBatches answers lists store).outcome.1 = .ok ()) :
    (deleteBatches answers lists store).sent = lists := by
  induction lists generalizing answers store with
  | nil => rfl
  | cons batch rest ih =>
      cases answer : answers 0 with
      | thrown deleted =>
          rw [deleteBatches_thrown answer] at ended
          cases ended
      | answered errors =>
          rw [deleteBatches_answered answer] at ended ⊢
          exact congrArg (List.cons batch) (ih ended)

/-- After a normal end a key is left exactly when every request for it reports an error for it. -/
theorem mem_bucket_of_ok (ended : (deleteBatches answers lists store).outcome.1 = .ok ()) :
    key ∈ (deleteBatches answers lists store).outcome.2.bucket ↔ key ∈ store.bucket ∧
      ∀ index batch errors, lists[index]? = some batch → answers index = .answered errors → key ∈ batch →
        key ∈ errors := by
  induction lists generalizing answers store with
  | nil =>
      refine (and_iff_left ?_).symm
      intro index batch errors present
      cases present
  | cons batch rest ih =>
      cases answer : answers 0 with
      | thrown deleted =>
          rw [deleteBatches_thrown answer] at ended
          cases ended
      | answered errors =>
          rw [deleteBatches_answered answer] at ended ⊢
          rw [ih ended, mem_withoutKeys, and_assoc]
          refine and_congr_right fun _ => ?_
          constructor
          · rintro ⟨first, later⟩ (_ | index) other reported present replied
            · cases present
              cases answer.symm.trans replied
              exact first
            · exact later index other reported present replied
          · intro all
            exact ⟨all 0 batch errors rfl answer, fun index => all (index + 1)⟩

/-- A bucket that reports no errors answers so to the request with the number. -/
def unreported (env : Env) (index : Nat) : DeletionAnswer :=
  if env.succeeds index then .answered [] else .thrown env.deleted

/-- A bucket that reports no errors is the bucket of the other operations. -/
theorem deleteBatches_unreported (env : Env) (first : Nat) (lists : List (List StorageKey)) (store : Store) :
    (deleteBatches (fun index => unreported env (index + first)) lists store).outcome =
      StorageService.deleteBatches env first lists store := by
  induction lists generalizing first store with
  | nil => rfl
  | cons batch rest ih =>
      rw [StorageService.deleteBatches]
      cases answer : env.succeeds first with
      | false =>
          have thrown : unreported env (0 + first) = .thrown env.deleted := by
            rw [Nat.zero_add, unreported, answer]
            rfl
          rw [deleteBatches_thrown thrown, if_neg Bool.false_ne_true]
          rfl
      | true =>
          have answered : unreported env (0 + first) = .answered [] := by
            rw [Nat.zero_add, unreported, answer]
            rfl
          have shifted : (fun index => unreported env (index + 1 + first)) =
              fun index => unreported env (index + (first + 1)) := by
            funext index
            rw [Nat.add_assoc, Nat.add_comm 1 first]
          rw [deleteBatches_answered answered, if_pos rfl, shifted, ih]
          simp [withoutKeys, deleteObjects]

end Batches

section Files
variable {answers : Nat → DeletionAnswer} {storageKeys : List StorageKey} {store : Store}

/-- With a bucket that reports no errors this is `deleteFiles`. -/
theorem deleteFiles_unreported (env : Env) (storageKeys : List StorageKey) (store : Store) :
    (deleteFiles (fun index => unreported env (index + 1)) storageKeys store).outcome =
      StorageService.deleteFiles env storageKeys store :=
  deleteBatches_unreported env 1 (batchesOf storageKeys) store

theorem batchesOf_eq_slices (storageKeys : List StorageKey) :
    batchesOf storageKeys = slices maxKeysPerBatch storageKeys := rfl

/-- Whether it throws or returns, the deletion changes only the bucket. -/
theorem deleteFiles_cases (answers : Nat → DeletionAnswer) (storageKeys : List StorageKey) (store : Store) :
    (∃ exception bucket, (deleteFiles answers storageKeys store).outcome = (.error exception, { store with bucket })) ∨
      ∃ bucket, (deleteFiles answers storageKeys store).outcome = (.ok (), { store with bucket }) := by
  obtain ⟨bucket, shape⟩ := deleteBatches_frame answers (batchesOf storageKeys) store
  change (deleteFiles answers storageKeys store).outcome.2 = _ at shape
  cases ended : (deleteFiles answers storageKeys store).outcome.1 with
  | error exception => exact .inl ⟨exception, bucket, Prod.ext ended shape⟩
  | ok => exact .inr ⟨bucket, Prod.ext ended shape⟩

theorem deleteFiles_ok_iff :
    (deleteFiles answers storageKeys store).outcome.1 = .ok () ↔ ¬ RequestThrows answers storageKeys := by
  rw [deleteFiles, deleteBatches_ok_iff, RequestThrows]
  push Not
  refine forall₂_congr fun index _ => ?_
  cases answers index with
  | thrown deleted => exact iff_of_false (fun ⟨_, other⟩ => by cases other) fun never => never deleted rfl
  | answered errors => exact iff_of_true ⟨errors, rfl⟩ fun deleted other => by cases other

/-- After a normal return the files are gone exactly when no stored key is left by all its requests. -/
theorem gone_iff (ended : (deleteFiles answers storageKeys store).outcome.1 = .ok ()) :
    (∀ key ∈ storageKeys, key ∉ (deleteFiles answers storageKeys store).outcome.2.bucket) ↔
      ReportsNoneLeft answers storageKeys store := by
  refine forall₂_congr fun key _ => ?_
  rw [deleteFiles, mem_bucket_of_ok ended]
  push Not
  rfl

/-- The requests of one run cut up a first part of the keys, and after a normal return all of them. -/
theorem sent_prefix (answers : Nat → DeletionAnswer) (storageKeys : List StorageKey) (store : Store) :
    (deleteFiles answers storageKeys store).sent.flatten <+: storageKeys := by
  obtain ⟨rest, whole⟩ := deleteBatches_sent answers (batchesOf storageKeys) store
  refine ⟨rest.flatten, ?_⟩
  rw [deleteFiles, ← List.flatten_append, whole, batchesOf_eq_slices, flatten_slices (by decide)]

theorem sent_whole (ended : (deleteFiles answers storageKeys store).outcome.1 = .ok ()) :
    (deleteFiles answers storageKeys store).sent.flatten = storageKeys := by
  rw [deleteFiles, deleteBatches_sent_of_ok ended, batchesOf_eq_slices, flatten_slices (by decide)]

theorem sent_sized {batch : List StorageKey} (inside : batch ∈ (deleteFiles answers storageKeys store).sent) :
    batch ≠ [] ∧ batch.length ≤ 1000 := by
  have cut := (deleteBatches_sent answers (batchesOf storageKeys) store).subset inside
  exact ⟨ne_nil_of_slices (by decide) cut, length_le_of_slices cut⟩

end Files

section Callers
variable {answers : Nat → DeletionAnswer} {store next : Store} {doomed : Message → Bool} {bucket : List StorageKey}

theorem keepsStoredRows_of_same (rows : next.attachments = store.attachments) : KeepsStoredRows store next := by
  intro attachment stored removed
  rw [rows] at removed
  exact absurd stored removed

/-- The rows of messages can go when their files are gone. -/
theorem keepsStoredRows_of_gone (rows : next.attachments = (store.deleteMessages doomed).attachments)
    (files : next.bucket = bucket)
    (gone : ∀ key ∈ AdminService.storageKeysOf store (store.messages.filter doomed), key ∉ bucket) :
    KeepsStoredRows store next := by
  intro attachment stored removed
  rw [rows] at removed
  rw [files]
  exact gone _ (mem_storageKeysOf_filter.mpr ⟨attachment, stored, rfl, removed⟩)

/-- The job drops no row of a stored file when a normal return means that the files are gone. -/
theorem job_keepsStoredRows (env : Env)
    (gone : (deleteFiles answers (filesToCleanup env store) store).outcome.1 = .ok () →
      ∀ key ∈ filesToCleanup env store, key ∉ (deleteFiles answers (filesToCleanup env store) store).outcome.2.bucket) :
    KeepsStoredRows store (deleteMessagesJob answers env store) := by
  unfold deleteMessagesJob
  simp only
  split
  · exact keepsStoredRows_of_same rfl
  · obtain ⟨exception, bucket, failed⟩ | ⟨bucket, done⟩ := deleteFiles_cases answers (filesToCleanup env store) store
    · rw [failed]
      exact keepsStoredRows_of_same rfl
    · rw [done] at gone ⊢
      cases env.succeeds 0 with
      | false => exact keepsStoredRows_of_same rfl
      | true => exact keepsStoredRows_of_gone rfl rfl (gone rfl)

/-- The same holds of the deletion of a user. -/
theorem user_keepsStoredRows (commits : Bool) (dto : UserDto)
    (gone : (deleteFiles answers (AdminService.filesOfUser store dto) store).outcome.1 = .ok () →
      ∀ key ∈ AdminService.filesOfUser store dto,
        key ∉ (deleteFiles answers (AdminService.filesOfUser store dto) store).outcome.2.bucket) :
    KeepsStoredRows store (deleteUser answers commits dto store).2 := by
  unfold deleteUser
  obtain ⟨exception, bucket, failed⟩ | ⟨bucket, done⟩ :=
    deleteFiles_cases answers (AdminService.filesOfUser store dto) store
  · rw [failed]
    exact keepsStoredRows_of_same rfl
  · rw [done] at gone ⊢
    cases commits with
    | false => exact keepsStoredRows_of_same rfl
    | true => exact keepsStoredRows_of_gone rfl rfl (gone rfl)

end Callers

end BucketAnswers

open BucketAnswers

/-- Deleting files deletes all of them exactly when a request throws, or no stored key is left by all its requests. -/
theorem deletes_all_iff (answers : Nat → DeletionAnswer) (storageKeys : List StorageKey) (store : Store) :
    DeletesAll answers storageKeys store ↔
      RequestThrows answers storageKeys ∨ ReportsNoneLeft answers storageKeys store := by
  constructor
  · intro deletes
    refine or_iff_not_imp_left.mpr fun quiet => ?_
    have ended : (BucketAnswers.deleteFiles answers storageKeys store).outcome.1 = .ok () := deleteFiles_ok_iff.mpr quiet
    exact (gone_iff ended).mp (deletes.gone ended)
  · intro condition
    have gone : (BucketAnswers.deleteFiles answers storageKeys store).outcome.1 = .ok () →
        ∀ key ∈ storageKeys, key ∉ (BucketAnswers.deleteFiles answers storageKeys store).outcome.2.bucket := by
      intro ended
      exact (gone_iff ended).mpr (condition.resolve_left (deleteFiles_ok_iff.mp ended))
    exact
      { ordered := sent_prefix answers storageKeys store
        sized := fun batch inside => sent_sized inside
        whole := sent_whole
        gone
        cleanup := by
          rintro env rfl
          exact job_keepsStoredRows env gone
        user := by
          rintro commits dto rfl
          exact user_keepsStoredRows commits dto gone }

/-- The file of a message from the first day is still stored on the fourth. -/
def staleFile : Store where
  users := [{ id := 1, role := .user, createdAt := 0 }]
  conversations := [{ id := 10, type := .groupType, createdAt := 0, updatedAt := 0 }]
  messages := [{ id := 11, conversationId := 10, senderId := some 1, cipheredContent := [], iv := [], authTag := [],
                 createdAt := 1 }]
  attachments := [{ id := 12, messageId := 11, storageKey := ⟨1, 14⟩, fileName := [], contentType := [], size := 1
                    createdAt := 1 }]
  bucket := [⟨1, 14⟩]
  nextId := 20

/-- The bucket reports an error for the only key, and the job drops the row of the stored file. -/
theorem reported_key_left :
    ¬ DeletesAll (fun _ => .answered [⟨1, 14⟩]) [⟨1, 14⟩] staleFile ∧
      ¬ KeepsStoredRows staleFile
        (BucketAnswers.deleteMessagesJob (fun _ => .answered [⟨1, 14⟩]) { now := 4 * 86400000000 } staleFile) := by
  constructor
  · intro deletes
    exact absurd (deletes.gone (by decide) ⟨1, 14⟩ List.mem_cons_self) (by decide)
  · intro keeps
    exact absurd (keeps _ List.mem_cons_self (by decide)) (by decide)

end Messinger
