import Messinger.Model.Removals
import Messinger.Proof.ConversationDeletions

namespace Messinger
open Library ConversationMemberRepository ConversationRepository ConversationService

namespace StorageService

theorem mem_batchesOf {storageKeys : List StorageKey} {key : StorageKey} :
    (∃ batch ∈ batchesOf storageKeys, key ∈ batch) ↔ key ∈ storageKeys := by
  constructor
  · rintro ⟨batch, inside, present⟩
    obtain ⟨index, -, same⟩ := List.mem_map.mp inside
    rw [← same] at present
    exact List.mem_of_mem_drop (List.mem_of_mem_take present)
  · intro present
    obtain ⟨place, bound, here⟩ := List.mem_iff_getElem.mp present
    -- the key stands in the batch that its position falls into
    let index := place / maxKeysPerBatch
    refine ⟨(storageKeys.drop (index * maxKeysPerBatch)).take maxKeysPerBatch, ?_, ?_⟩
    · apply List.mem_map.mpr
      refine ⟨index, List.mem_range.mpr ?_, rfl⟩
      unfold index maxKeysPerBatch
      omega
    · have rest : index * maxKeysPerBatch + place % maxKeysPerBatch = place := Nat.div_add_mod' place maxKeysPerBatch
      have inBatch : place % maxKeysPerBatch < maxKeysPerBatch := Nat.mod_lt place (by decide)
      have there : ((storageKeys.drop (index * maxKeysPerBatch)).take maxKeysPerBatch)[place % maxKeysPerBatch]? =
          some key := by
        rw [List.getElem?_take, if_pos inBatch, List.getElem?_drop, rest, List.getElem?_eq_getElem bound, here]
      exact List.mem_of_getElem? there

/-- Every batch that is sent arrives. -/
def AllBatches (env : Env) (storageKeys : List StorageKey) : Prop :=
  ∀ index < (batchesOf storageKeys).length, env.succeeds (index + 1) = true

theorem deleteBatches_ok {env : Env} {lists : List (List StorageKey)} {first : Nat} {store : Store}
    (arrive : ∀ index < lists.length, env.succeeds (index + first) = true) :
    deleteBatches env first lists store =
      (.ok (), { store with bucket := store.bucket.filter fun key => !lists.any fun batch => batch.contains key }) := by
  induction lists generalizing first store with
  | nil => simp [deleteBatches]
  | cons batch rest ih =>
      have now : env.succeeds first = true := by simpa using arrive 0 (Nat.zero_lt_succ _)
      have later : ∀ index < rest.length, env.succeeds (index + (first + 1)) = true := by
        intro index bound
        have next := arrive (index + 1) (Nat.succ_lt_succ bound)
        rw [Nat.add_assoc, Nat.add_comm 1 first] at next
        exact next
      rw [deleteBatches, if_pos now, ih later, List.filter_filter]
      simp only [List.any_cons, Bool.not_or, Bool.and_comm]

theorem deleteBatches_error {env : Env} {lists : List (List StorageKey)} {first : Nat} {store : Store}
    (fails : ∃ index < lists.length, env.succeeds (index + first) = false) :
    (deleteBatches env first lists store).1 = .error .failedCall := by
  induction lists generalizing first store with
  | nil =>
      obtain ⟨index, bound, -⟩ := fails
      cases bound
  | cons batch rest ih =>
      unfold deleteBatches
      split
      · next arrives =>
          apply ih
          obtain ⟨index, bound, fail⟩ := fails
          cases index with
          | zero =>
              rw [Nat.zero_add, arrives] at fail
              cases fail
          | succ index =>
              refine ⟨index, Nat.lt_of_succ_lt_succ bound, ?_⟩
              rw [Nat.add_comm first 1, ← Nat.add_assoc]
              exact fail
      · rfl

/-- When all batches arrive, the bucket loses exactly the given keys. -/
theorem deleteFiles_ok {env : Env} {storageKeys : List StorageKey} (store : Store)
    (arrive : AllBatches env storageKeys) :
    deleteFiles env storageKeys store =
      (.ok (), { store with bucket := store.bucket.filter fun key => !storageKeys.contains key }) := by
  unfold deleteFiles
  rw [deleteBatches_ok arrive]
  have same (key : StorageKey) :
      ((batchesOf storageKeys).any fun batch => batch.contains key) = storageKeys.contains key := by
    rw [Bool.eq_iff_iff, List.any_eq_true, List.contains_iff_mem, ← mem_batchesOf]
    simp only [List.contains_iff_mem]
  simp only [same]

theorem deleteFiles_error {env : Env} {storageKeys : List StorageKey} (store : Store)
    (fails : ¬ AllBatches env storageKeys) : (deleteFiles env storageKeys store).1 = .error .failedCall := by
  apply deleteBatches_error
  unfold AllBatches at fails
  push Not at fails
  obtain ⟨index, bound, fail⟩ := fails
  exact ⟨index, bound, Bool.eq_false_iff.mpr fail⟩

theorem deleteFiles_nil (env : Env) (store : Store) :
    deleteFiles env [] store = (.ok (), store) := by
  unfold deleteFiles
  rw [show batchesOf [] = [] by decide]
  rfl

theorem batchesOf_cons (key : StorageKey) (rest : List StorageKey) :
    ∃ batches, batchesOf (key :: rest) = (key :: rest).take maxKeysPerBatch :: batches := by
  have some : ((key :: rest).length + maxKeysPerBatch - 1) / maxKeysPerBatch =
      rest.length / maxKeysPerBatch + 1 := by
    unfold maxKeysPerBatch
    rw [List.length_cons]
    omega
  unfold batchesOf
  rw [some, List.range_succ_eq_map, List.map_cons]
  rw [Nat.zero_mul, List.drop_zero]
  exact ⟨_, rfl⟩

/-- The first batch takes the first key along, whatever happens to the later ones. -/
theorem deleteFiles_first {env : Env} (arrives : env.succeeds 1 = true) (key : StorageKey)
    (rest : List StorageKey) (store : Store) : key ∉ (deleteFiles env (key :: rest) store).2.bucket := by
  obtain ⟨batches, cut⟩ := batchesOf_cons key rest
  have present : key ∈ (key :: rest).take maxKeysPerBatch := List.mem_cons_self
  unfold deleteFiles
  rw [cut, deleteBatches, if_pos arrives]
  intro remains
  obtain ⟨kept, shape, -⟩ := deleteBatches_shape env batches 2
    { store with bucket := store.bucket.filter fun other => !((key :: rest).take maxKeysPerBatch).contains other }
  rw [shape] at remains
  have spared := (List.mem_filter.mp (List.mem_filter.mp remains).1).2
  rw [List.contains_iff_mem.mpr present] at spared
  cases spared

/-- A first batch that fails ends the deletion, and may have taken some of its keys. -/
theorem mem_bucket_of_first_fails {env : Env} (fails : env.succeeds 1 = false) {storageKeys : List StorageKey}
    (some : storageKeys ≠ []) (store : Store) {key : StorageKey} :
    key ∈ (deleteFiles env storageKeys store).2.bucket ↔
      key ∈ store.bucket ∧ (key ∈ storageKeys.take maxKeysPerBatch → key ∉ env.deleted) := by
  obtain ⟨first, rest, rfl⟩ := List.exists_cons_of_ne_nil some
  obtain ⟨batches, cut⟩ := batchesOf_cons first rest
  unfold deleteFiles
  rw [cut, deleteBatches, if_neg (Bool.eq_false_iff.mp fails)]
  simp only [List.mem_filter, Bool.not_eq_true', Bool.eq_false_iff, ne_eq, Bool.and_eq_true, List.contains_iff_mem,
    not_and]

end StorageService

open StorageService

section Rows
variable {store next : Store} {doomed : Message → Bool}

theorem mem_storageKeysOf {messages : List Message} {key : StorageKey} :
    key ∈ AdminService.storageKeysOf store messages ↔
      ∃ message ∈ messages, ∃ attachment ∈ store.attachments,
        attachment.messageId = message.id ∧ attachment.storageKey = key := by
  unfold AdminService.storageKeysOf Store.attachmentsOf
  simp only [List.mem_flatMap, List.mem_map, List.mem_filter, beq_iff_eq, and_assoc]

/-- An attachment stays when no doomed message has its identifier. -/
theorem mem_attachments_deleteMessages {attachment : MessageAttachment} :
    attachment ∈ (store.deleteMessages doomed).attachments ↔ attachment ∈ store.attachments ∧
      ∀ message ∈ store.messages, message.id = attachment.messageId → doomed message = false := by
  change attachment ∈ store.attachments.filter _ ↔ _
  rw [List.mem_filter]
  simp only [Bool.not_eq_true', List.any_eq_false, Bool.and_eq_true, beq_iff_eq, not_and, Bool.not_eq_true]

/-- The storage keys of the doomed messages are those of the attachments that go with them. -/
theorem mem_storageKeysOf_filter {key : StorageKey} :
    key ∈ AdminService.storageKeysOf store (store.messages.filter doomed) ↔
      ∃ attachment ∈ store.attachments, attachment.storageKey = key ∧
        attachment ∉ (store.deleteMessages doomed).attachments := by
  rw [mem_storageKeysOf]
  constructor
  · rintro ⟨message, selected, attachment, stored, id, same⟩
    obtain ⟨present, gone⟩ := List.mem_filter.mp selected
    refine ⟨attachment, stored, same, ?_⟩
    intro remains
    have spared := (mem_attachments_deleteMessages.mp remains).2 message present id.symm
    rw [gone] at spared
    cases spared
  · rintro ⟨attachment, stored, same, removed⟩
    rw [mem_attachments_deleteMessages] at removed
    push Not at removed
    obtain ⟨message, present, id, gone⟩ := removed stored
    refine ⟨message, List.mem_filter.mpr ⟨present, ?_⟩, attachment, stored, id.symm, same⟩
    exact Bool.eq_true_of_not_eq_false gone

instance (env : Env) (storageKeys : List StorageKey) : Decidable (AllBatches env storageKeys) :=
  inferInstanceAs (Decidable (∀ index < _, _))

/-- The operation deletes the files of the messages, and the rows when all of that succeeds. -/
structure FilesFirst (env : Env) (doomed : Message → Bool) (store next : Store) : Prop where
  bucket : next.bucket = (deleteFiles env
    (AdminService.storageKeysOf store (store.messages.filter doomed)) store).2.bucket
  attachments : next.attachments =
    if AllBatches env (AdminService.storageKeysOf store (store.messages.filter doomed)) ∧ env.succeeds 0 = true
    then (store.deleteMessages doomed).attachments else store.attachments

theorem deleteFiles_attachments (env : Env) (storageKeys : List StorageKey) (store : Store) :
    (deleteFiles env storageKeys store).2.attachments = store.attachments := by
  obtain ⟨kept, shape, -⟩ := deleteFiles_shape env storageKeys store
  rw [shape]

/-- A failed batch ends the operation, and after the last batch its transaction deletes the rows. -/
theorem filesFirst_of_deleteFiles {env : Env}
    (stops : ∀ exception emptied, deleteFiles env
      (AdminService.storageKeysOf store (store.messages.filter doomed)) store = (.error exception, emptied) →
      next = emptied)
    (deletes : ∀ emptied, deleteFiles env
      (AdminService.storageKeysOf store (store.messages.filter doomed)) store = (.ok (), emptied) →
      next.bucket = emptied.bucket ∧ next.attachments =
        if env.succeeds 0 = true then (emptied.deleteMessages doomed).attachments else emptied.attachments) :
    FilesFirst env doomed store next := by
  by_cases arrive : AllBatches env (AdminService.storageKeysOf store (store.messages.filter doomed))
  · have emptied := deleteFiles_ok store arrive
    obtain ⟨bucket, rows⟩ := deletes _ emptied
    constructor
    · rw [bucket, emptied]
    · rw [rows]
      by_cases commits : env.succeeds 0 = true
      · rw [if_pos commits, if_pos ⟨arrive, commits⟩]
        rfl
      · rw [if_neg commits, if_neg fun both => commits both.2]
  · have failed := deleteFiles_error store arrive
    have kept := deleteFiles_attachments env
      (AdminService.storageKeysOf store (store.messages.filter doomed)) store
    have same := stops .failedCall _ (Prod.ext failed rfl)
    constructor
    · rw [same]
    · rw [same, kept, if_neg fun both => arrive both.1]

/-- The bucket loses only files of the list, and all of these when every call succeeds. -/
def LosesFiles (env : Env) (storageKeys : List StorageKey) (store next : Store) : Prop :=
  ∃ kept : StorageKey → Bool, next.bucket = store.bucket.filter kept ∧ (∀ key ∉ storageKeys, kept key = true) ∧
    ((∀ index, env.succeeds index = true) → ∀ key ∈ storageKeys, kept key = false)

theorem losesFiles_of_same {env : Env} (same : next.bucket = store.bucket) : LosesFiles env [] store next :=
  ⟨fun _ => true, by rw [same, List.filter_true], fun _ _ => rfl, fun _ _ inside => absurd inside List.not_mem_nil⟩

theorem losesFiles_deleteFiles {env : Env} {storageKeys : List StorageKey}
    (bucket : next.bucket = (deleteFiles env storageKeys store).2.bucket) :
    LosesFiles env storageKeys store next := by
  obtain ⟨kept, shape, spared⟩ := deleteFiles_shape env storageKeys store
  by_cases arrive : AllBatches env storageKeys
  · refine ⟨fun key => !storageKeys.contains key, ?_, ?_, ?_⟩
    · rw [bucket, deleteFiles_ok store arrive]
    · intro key outside
      rw [Bool.not_eq_true', Bool.eq_false_iff]
      exact fun inside => outside (List.contains_iff_mem.mp inside)
    · intro _ key inside
      exact congrArg not (List.contains_iff_mem.mpr inside)
  · refine ⟨kept, by rw [bucket, shape], spared, ?_⟩
    exact fun always => absurd (fun index _ => always (index + 1)) arrive

theorem deleteUser_filesFirst (env : Env) (dto : UserDto) (store : Store) :
    FilesFirst env (fun message => (AdminService.conversationsToDelete store dto.userId).contains message.conversationId)
      store (AdminService.deleteUser env dto store).2 := by
  apply filesFirst_of_deleteFiles
  · intro exception emptied failed
    unfold AdminService.deleteUser
    simp only
    rw [failed]
  · intro emptied done
    unfold AdminService.deleteUser
    simp only
    rw [done]
    cases env.succeeds 0 <;> exact ⟨rfl, rfl⟩

/-- Deleting no message keeps every attachment. -/
theorem deleteMessages_none (none : store.messages.filter doomed = []) :
    (store.deleteMessages doomed).attachments = store.attachments := by
  apply List.filter_eq_self.mpr
  intro attachment stored
  have remains : attachment ∈ (store.deleteMessages doomed).attachments := by
    refine mem_attachments_deleteMessages.mpr ⟨stored, fun message present _ => ?_⟩
    exact Bool.eq_false_iff.mpr (List.filter_eq_nil_iff.mp none message present)
  exact (List.mem_filter.mp remains).2

theorem deleteMessagesJob_filesFirst (env : Env) (store : Store) :
    FilesFirst env (fun message => decide (message.createdAt < jsDate env.now - maxMessageAge)) store
      (deleteMessagesJob env store) := by
  unfold deleteMessagesJob MessageRepository.findMessagesToCleanup MessageRepository.deleteMessagesOlderThan
  simp only
  split
  · next nothing =>
      have whole := deleteMessages_none nothing
      constructor
      · rw [nothing]
        exact (congrArg (fun outcome => outcome.2.bucket) (deleteFiles_nil _ store)).symm
      · rw [whole, ite_self]
  · apply filesFirst_of_deleteFiles
    · intro exception emptied failed
      rw [failed]
    · intro emptied done
      rw [done]
      cases env.succeeds 0 <;> exact ⟨rfl, rfl⟩

end Rows

end Messinger
