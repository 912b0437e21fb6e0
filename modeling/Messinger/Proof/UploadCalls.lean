import Messinger.Model.StorageService

namespace Messinger.StorageService
open Library PendingUploadRepository

/-- The object of a pending upload takes the identifier after that of its row. -/
structure FreshUpload (userId first supply : Uuid) (upload : PendingUpload) : Prop where
  fresh : first ≤ upload.id
  known : upload.id + 2 ≤ supply
  storageKey : upload.storageKey = ⟨userId, upload.id + 1⟩
  owner : upload.userId = userId

/-- Saving a batch of uploads appends rows with increasing identifiers. -/
theorem createUploads_shape (env : Env) (userId : Uuid) (expiresAt index : Nat) (files : List FileDto)
    (store : Store) :
    ∃ rows supply, (createUploads env userId expiresAt index files store).2 =
        { store with pendingUploads := store.pendingUploads ++ rows, nextId := supply } ∧
      store.nextId ≤ supply ∧ (∀ row ∈ rows, FreshUpload userId store.nextId supply row) ∧
      (rows.map PendingUpload.id).Nodup := by
  induction files generalizing index store with
  | nil => exact ⟨[], store.nextId, by simp [createUploads], Nat.le_refl _, by simp, List.nodup_nil⟩
  | cons file rest ih =>
      unfold createUploads
      split
      · simp only
        generalize saved : ({ store with
          pendingUploads := store.pendingUploads ++
            [{ id := store.nextId, userId, storageKey := ⟨userId, store.nextId + 1⟩,
               fileName := file.fileName, contentType := file.contentType, size := file.size,
               expiresAt, createdAt := env.now }]
          nextId := store.nextId + 2 } : Store) = between
        obtain ⟨rows, supply, shape, later, fresh, distinct⟩ := ih (index + 1) between
        subst saved
        refine ⟨{ id := store.nextId, userId, storageKey := ⟨userId, store.nextId + 1⟩,
                  fileName := file.fileName, contentType := file.contentType, size := file.size,
                  expiresAt, createdAt := env.now } :: rows, supply, ?_, ?_, ?_, ?_⟩
        · rw [← List.append_cons] at shape
          split
          · next equal =>
              rw [equal] at shape
              exact shape
          · next equal =>
              rw [equal] at shape
              exact shape
        · exact Nat.le_trans (Nat.le_add_right _ 2) later
        · intro row inside
          obtain rfl | inside := List.mem_cons.mp inside
          · exact ⟨Nat.le_refl _, later, rfl, rfl⟩
          · exact { fresh row inside with
                    fresh := Nat.le_trans (Nat.le_add_right _ 2) (fresh row inside).fresh }
        · rw [List.map_cons, List.nodup_cons]
          refine ⟨?_, distinct⟩
          intro repeated
          obtain ⟨row, inside, same⟩ := List.mem_map.mp repeated
          have bound := (fresh row inside).fresh
          rw [same] at bound
          exact absurd bound (by simp)
      · exact ih (index + 1) store

theorem prepareUploads_store (env : Env) (userId : Uuid) (files : List FileDto) (store : Store) :
    (prepareUploads env userId files store).2 =
      (createUploads env userId (addHours (jsDate env.now) 24) 0 files store).2 := by
  unfold prepareUploads
  split
  · next equal => rw [equal]
  · next equal =>
      rw [equal]
      split <;> rfl

/-- Deleting batches takes objects from the bucket that some batch lists. -/
theorem deleteBatches_shape (env : Env) (lists : List (List StorageKey)) (index : Nat) (store : Store) :
    ∃ kept : StorageKey → Bool, (deleteBatches env index lists store).2 =
        { store with bucket := store.bucket.filter kept } ∧
      ∀ key, (∀ batch ∈ lists, key ∉ batch) → kept key = true := by
  induction lists generalizing index store with
  | nil => exact ⟨fun _ => true, by simp [deleteBatches], fun _ _ => rfl⟩
  | cons batch rest ih =>
      unfold deleteBatches
      split
      · obtain ⟨kept, shape, spared⟩ := ih (index + 1)
          { store with bucket := store.bucket.filter fun key => !batch.contains key }
        refine ⟨fun key => !batch.contains key && kept key, ?_, ?_⟩
        · rw [shape, List.filter_filter]
          simp only [Bool.and_comm]
        · intro key outside
          have apart := outside batch List.mem_cons_self
          have later := spared key fun other inside => outside other (List.mem_cons_of_mem batch inside)
          simp [apart, later]
      · refine ⟨_, rfl, ?_⟩
        intro key outside
        simp [outside batch List.mem_cons_self]

/-- Deleting files takes objects from the bucket that the list of keys names. -/
theorem deleteFiles_shape (env : Env) (storageKeys : List StorageKey) (store : Store) :
    ∃ kept : StorageKey → Bool, (deleteFiles env storageKeys store).2 =
        { store with bucket := store.bucket.filter kept } ∧
      ∀ key ∉ storageKeys, kept key = true := by
  obtain ⟨kept, shape, spared⟩ := deleteBatches_shape env (batchesOf storageKeys) 1 store
  refine ⟨kept, shape, fun key outside => spared key ?_⟩
  intro batch inside present
  obtain ⟨index, -, same⟩ := List.mem_map.mp inside
  rw [← same] at present
  exact outside (List.mem_of_mem_drop (List.mem_of_mem_take present))

end Messinger.StorageService
