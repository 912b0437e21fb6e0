import Messinger.Proof.UploadCalls

namespace Messinger
open StorageService PendingUploadRepository

/-- The insert of the file goes through: the database commits it, the user exists, and the row fits its columns. -/
def inserts (env : Env) (userId : Uuid) (store : Store) (entry : FileDto × Nat) : Bool :=
  env.succeeds entry.2 && store.hasUser userId && fitsColumns entry.1

/-- A request that throws leaves no row of its own. -/
def AllOrNothing (env : Env) (userId : Uuid) (files : List FileDto) (store : Store) : Prop :=
  ∀ exception, (prepareUploads env userId files store).1 = .error exception →
    (prepareUploads env userId files store).2.pendingUploads = store.pendingUploads

/-- This is the row that the insert writes for the file. -/
def uploadRow (env : Env) (userId : Uuid) (expiresAt : Nat) (file : FileDto) (store : Store) : PendingUpload :=
  { id := store.nextId, userId, storageKey := ⟨userId, store.nextId + 1⟩, fileName := file.fileName,
    contentType := file.contentType, size := file.size, expiresAt, createdAt := env.now }

def addUpload (row : PendingUpload) (store : Store) : Store :=
  { store with pendingUploads := store.pendingUploads ++ [row], nextId := store.nextId + 2 }

section Inserts
variable {env : Env} {userId : Uuid} {expiresAt index : Nat} {file : FileDto} {rest : List FileDto} {store : Store}

theorem createUploads_of_inserts (here : inserts env userId store (file, index) = true) :
    createUploads env userId expiresAt index (file :: rest) store =
      ((createUploads env userId expiresAt (index + 1) rest
          (addUpload (uploadRow env userId expiresAt file store) store)).1.map
            (uploadRow env userId expiresAt file store :: ·),
        (createUploads env userId expiresAt (index + 1) rest
          (addUpload (uploadRow env userId expiresAt file store) store)).2) := by
  refine (if_pos here).trans ?_
  simp only [addUpload, uploadRow]
  generalize createUploads env userId expiresAt (index + 1) rest _ = outcome
  obtain ⟨result, next⟩ := outcome
  cases result <;> rfl

theorem createUploads_of_fails (here : ¬ inserts env userId store (file, index) = true) :
    createUploads env userId expiresAt index (file :: rest) store =
      (.error .failedCall, (createUploads env userId expiresAt (index + 1) rest store).2) :=
  if_neg here

/-- A batch without a failing insert returns its rows, and any other batch throws. -/
theorem createUploads_ok_iff (files : List FileDto) (index : Nat) (store : Store) :
    (∃ rows, (createUploads env userId expiresAt index files store).1 = .ok rows) ↔
      ∀ entry ∈ files.zipIdx index, inserts env userId store entry = true := by
  induction files generalizing index store with
  | nil =>
      refine iff_of_true ⟨[], rfl⟩ ?_
      intro entry inside
      cases inside
  | cons file rest ih =>
      rw [List.zipIdx_cons, List.forall_mem_cons]
      by_cases here : inserts env userId store (file, index) = true
      · -- the saved row changes neither the users nor the inserts that follow
        rw [createUploads_of_inserts here, and_iff_right here]
        refine Iff.trans ?_ (ih (index + 1) (addUpload (uploadRow env userId expiresAt file store) store))
        generalize (createUploads env userId expiresAt (index + 1) rest _).1 = result
        cases result with
        | error exception =>
            refine iff_of_false ?_ ?_
            · rintro ⟨rows, returned⟩
              cases returned
            · rintro ⟨rows, returned⟩
              cases returned
        | ok rows => exact iff_of_true ⟨_, rfl⟩ ⟨rows, rfl⟩
      · rw [createUploads_of_fails here]
        refine iff_of_false ?_ fun all => here all.1
        rintro ⟨rows, returned⟩
        cases returned

/-- The table stays as it is exactly when every insert fails. -/
theorem createUploads_unchanged_iff (files : List FileDto) (index : Nat) (store : Store) :
    (createUploads env userId expiresAt index files store).2.pendingUploads = store.pendingUploads ↔
      ∀ entry ∈ files.zipIdx index, inserts env userId store entry = false := by
  induction files generalizing index store with
  | nil =>
      refine iff_of_true rfl ?_
      intro entry inside
      cases inside
  | cons file rest ih =>
      rw [List.zipIdx_cons, List.forall_mem_cons]
      by_cases here : inserts env userId store (file, index) = true
      · rw [createUploads_of_inserts here]
        refine iff_of_false ?_ fun none => Bool.false_ne_true (none.1.symm.trans here)
        intro same
        obtain ⟨rows, supply, shape, -⟩ := createUploads_shape env userId expiresAt (index + 1) rest
          (addUpload (uploadRow env userId expiresAt file store) store)
        -- the saved row stays, so the table has grown
        have grown := congrArg List.length same
        rw [shape] at grown
        simp [addUpload] at grown
      · rw [createUploads_of_fails here]
        exact (ih (index + 1) store).trans (and_iff_right (Bool.eq_false_iff.mpr here)).symm

end Inserts

/-- A request throws when an insert fails or a URL cannot be signed. -/
theorem prepareUploads_throws_iff (env : Env) (userId : Uuid) (files : List FileDto) (store : Store) :
    (∃ exception, (prepareUploads env userId files store).1 = .error exception) ↔
      ¬ ((∀ entry ∈ files.zipIdx, inserts env userId store entry = true) ∧ env.succeeds files.length = true) := by
  have created : (∃ rows, (createUploads env userId (addHours (jsDate env.now) 24) 0 files store).1 = .ok rows) ↔
      ∀ entry ∈ files.zipIdx, inserts env userId store entry = true := createUploads_ok_iff files 0 store
  unfold prepareUploads
  rw [← created]
  generalize createUploads env userId (addHours (jsDate env.now) 24) 0 files store = outcome
  obtain ⟨result, next⟩ := outcome
  cases result with
  | error exception =>
      refine iff_of_true ⟨exception, rfl⟩ ?_
      rintro ⟨⟨rows, returned⟩, -⟩
      cases returned
  | ok rows =>
      simp only
      cases env.succeeds files.length with
      | true =>
          refine iff_of_false ?_ fun fails => fails ⟨⟨rows, rfl⟩, rfl⟩
          rintro ⟨exception, threw⟩
          cases threw
      | false => exact iff_of_true ⟨_, rfl⟩ fun done => Bool.false_ne_true done.2

/-- A request is all or nothing exactly when it goes through, or when all its inserts fail. -/
theorem uploads_all_or_nothing_iff (env : Env) (userId : Uuid) (files : List FileDto) (store : Store) :
    AllOrNothing env userId files store ↔
      ((∀ entry ∈ files.zipIdx, inserts env userId store entry = true) ∧ env.succeeds files.length = true) ∨
        ∀ entry ∈ files.zipIdx, inserts env userId store entry = false := by
  unfold AllOrNothing
  rw [prepareUploads_store, createUploads_unchanged_iff, ← exists_imp, prepareUploads_throws_iff]
  exact or_iff_not_imp_left.symm

/-- User 1 has no uploads yet. -/
def firstUploadStore : Store := { users := [{ id := 1, role := .user, createdAt := 0 }], nextId := 2 }

/-- The name is longer than its column. -/
def longNamedFile : FileDto :=
  { contentType := "image/png".toList, size := 1, fileName := List.replicate 256 'b' }

theorem longNamedFile_fails : inserts { now := 0 } 1 firstUploadStore (longNamedFile, 1) = false := by
  have long : longNamedFile.fileName.length = 256 := List.length_replicate
  rw [inserts, fitsColumns, long]
  rfl

/-- The row of the first file stays when the second one fails. -/
theorem long_name_leaves_row :
    ¬ AllOrNothing { now := 0 } 1
      [{ contentType := "image/png".toList, size := 1, fileName := ['a'] }, longNamedFile] firstUploadStore := by
  intro whole
  have throws : ∃ exception, (prepareUploads { now := 0 } 1
      [{ contentType := "image/png".toList, size := 1, fileName := ['a'] }, longNamedFile] firstUploadStore).1 =
        .error exception := by
    rw [prepareUploads_throws_iff]
    rintro ⟨all, -⟩
    have second := all (longNamedFile, 1) (List.mem_cons_of_mem _ List.mem_cons_self)
    rw [longNamedFile_fails] at second
    cases second
  obtain ⟨exception, threw⟩ := throws
  have unchanged := whole exception threw
  rw [prepareUploads_store, createUploads_unchanged_iff] at unchanged
  cases unchanged _ List.mem_cons_self

end Messinger
