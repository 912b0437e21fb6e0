import Messinger.Proof.PrivateCalls
import Messinger.Proof.UploadCalls
import Messinger.Model.MessageTasks

namespace Messinger
open Library StorageService PendingUploadRepository MessageAttachmentRepository MessageService
  ConversationRepository MessageRepository

/-- No object belongs to two attachments, or to an attachment and a pending upload. -/
structure UploadsOnce (store : Store) : Prop where
  once : (store.attachments.map (·.storageKey)).Nodup
  apart : ∀ attachment ∈ store.attachments, ∀ upload ∈ store.pendingUploads,
    attachment.storageKey ≠ upload.storageKey

/-- Nothing but the uploads of the message enters the attachments, and they leave the pending uploads. -/
structure TakesUploads (uploads : List PendingUpload) (store next : Store) : Prop where
  attachments : next.attachments.map (·.storageKey) =
    store.attachments.map (·.storageKey) ++ uploads.map (·.storageKey)
  pendingUploads : next.pendingUploads =
    store.pendingUploads.filter fun row => uploads.all fun upload => row.id != upload.id
  later : store.nextId ≤ next.nextId

namespace MessageDraft

theorem saved_eq (draft : MessageDraft) (now : Nat) (store : Store) :
    ∃ members, draft.saved now store = { store with members } := by
  unfold saved
  generalize draft.restored = restored
  induction restored generalizing store with
  | nil => exact ⟨store.members, rfl⟩
  | cons member rest ih =>
      rw [List.foldl_cons]
      unfold restoreIfDeleted
      split
      · obtain ⟨members, same⟩ := ih (ConversationMemberRepository.restoreConversation now draft.conversationId
          member.1 store)
        exact ⟨members, same⟩
      · exact ih store

theorem map_storageKey_createAttachments (now : Nat) (messageId : Uuid) (uploads : List PendingUpload)
    (store : Store) :
    (createAttachments now messageId uploads store).attachments.map (·.storageKey) =
      store.attachments.map (·.storageKey) ++ uploads.map (·.storageKey) := by
  have keys (row : PendingUpload × Nat → MessageAttachment)
      (copied : ∀ pair, (row pair).storageKey = pair.1.storageKey) :
      (uploads.zipIdx.map row).map (·.storageKey) = uploads.map (·.storageKey) := by
    calc (uploads.zipIdx.map row).map (·.storageKey)
      _ = uploads.zipIdx.map (·.1.storageKey) := by
          rw [List.map_map]
          exact List.map_congr_left fun pair _ => copied pair
      _ = (uploads.zipIdx.map Prod.fst).map (·.storageKey) := by
          rw [List.map_map]
          rfl
      _ = uploads.map (·.storageKey) := by rw [List.zipIdx_map_fst]
  rw [createAttachments, List.map_append, keys]
  exact fun _ => rfl

/-- The transaction needs its conversation and its sender, and then takes the uploads it has found. -/
theorem write_cases (draft : MessageDraft) (now : Nat) (store : Store) :
    ((store.hasConversation draft.conversationId && store.hasUser draft.senderId) = true ∧
        ∃ next, draft.write now store = .ok ((), next) ∧ TakesUploads draft.found store next) ∨
      ((store.hasConversation draft.conversationId && store.hasUser draft.senderId) = false ∧
        ∃ exception, draft.write now store = .error exception) := by
  obtain ⟨members, same⟩ := draft.saved_eq now store
  unfold write saveMessage
  rw [same]
  have checks : (({ store with members } : Store).hasConversation draft.conversationId &&
      ({ store with members } : Store).hasUser draft.senderId) =
      (store.hasConversation draft.conversationId && store.hasUser draft.senderId) := rfl
  rw [checks]
  cases store.hasConversation draft.conversationId && store.hasUser draft.senderId with
  | false => exact .inr ⟨rfl, _, rfl⟩
  | true =>
      refine .inl ⟨rfl, _, rfl, ?_⟩
      rw [foldl_incrementUnreadCount, attachUploads, foldl_deleteById]
      refine ⟨?_, rfl, ?_⟩
      · exact map_storageKey_createAttachments _ _ _ _
      · exact Nat.le_trans (Nat.le_succ _) (Nat.le_trans (Nat.le_add_right _ _) (Nat.le_add_right _ _))

end MessageDraft

/-- Every upload that a message has found is still pending or has become an attachment, and the objects are
fresh, named by their uploads and used once. -/
structure Accounted (progress : Library.Progress Store UploadTask) : Prop where
  once : (progress.state.attachments.map (·.storageKey)).Nodup
  spent : ∀ key ∈ progress.state.attachments.map (·.storageKey), key.object < progress.state.nextId
  ids : (progress.state.pendingUploads.map PendingUpload.id).Nodup
  named : ∀ upload ∈ progress.state.pendingUploads,
    upload.storageKey.object = upload.id + 1 ∧ upload.id + 2 ≤ progress.state.nextId
  apart : ∀ upload ∈ progress.state.pendingUploads,
    upload.storageKey ∉ progress.state.attachments.map (·.storageKey)
  found : ∀ draft, .message draft ∈ progress.pending → ∀ upload ∈ draft.found,
    upload ∈ progress.state.pendingUploads ∨
      upload.storageKey ∈ progress.state.attachments.map (·.storageKey)

/-- A message that commits has found different uploads, and all of them are still pending. -/
def commitsFresh (progress : Library.Progress Store UploadTask) : UploadTask → Env → Prop
  | .message draft, env =>
      draft.remaining = [] → env.succeeds 0 = true →
      (progress.state.hasConversation draft.conversationId && progress.state.hasUser draft.senderId) = true →
      draft.found.Nodup ∧ ∀ upload ∈ draft.found, upload ∈ progress.state.pendingUploads
  | .createUploads _ _ _, _ => True

instance (progress : Library.Progress Store UploadTask) :
    (task : UploadTask) → (env : Env) → Decidable (commitsFresh progress task env)
  | .message draft, env => inferInstanceAs (Decidable (draft.remaining = [] → env.succeeds 0 = true →
      (progress.state.hasConversation draft.conversationId && progress.state.hasUser draft.senderId) = true →
      draft.found.Nodup ∧ ∀ upload ∈ draft.found, upload ∈ progress.state.pendingUploads))
  | .createUploads _ _ _, _ => isTrue trivial

namespace Accounted
variable {progress next : Library.Progress Store UploadTask}

theorem uploadsOnce (accounted : Accounted progress) : UploadsOnce progress.state := by
  refine ⟨accounted.once, ?_⟩
  intro attachment inside upload pending same
  exact accounted.apart upload pending (same ▸ List.mem_map_of_mem inside)

/-- The tables of uploads and attachments stay, and the new tasks hold no upload. -/
theorem of_same (accounted : Accounted progress) (attachments : next.state.attachments = progress.state.attachments)
    (pendingUploads : next.state.pendingUploads = progress.state.pendingUploads)
    (later : progress.state.nextId ≤ next.state.nextId)
    (tasks : ∀ draft, .message draft ∈ next.pending → ∀ upload ∈ draft.found,
      (∃ old, .message old ∈ progress.pending ∧ upload ∈ old.found) ∨ upload ∈ progress.state.pendingUploads) :
    Accounted next := by
  refine ⟨?_, ?_, ?_, ?_, ?_, ?_⟩
  · rw [attachments]
    exact accounted.once
  · rw [attachments]
    exact fun key inside => Nat.lt_of_lt_of_le (accounted.spent key inside) later
  · rw [pendingUploads]
    exact accounted.ids
  · rw [pendingUploads]
    exact fun upload inside =>
      ⟨(accounted.named upload inside).1, Nat.le_trans (accounted.named upload inside).2 later⟩
  · rw [attachments, pendingUploads]
    exact accounted.apart
  · rw [attachments, pendingUploads]
    intro draft inside upload listed
    obtain ⟨old, waiting, held⟩ | pending := tasks draft inside upload listed
    · exact accounted.found old waiting upload held
    · exact .inl pending

/-- A pending upload is known by its object. -/
theorem eq_of_storageKey (accounted : Accounted progress) {first second : PendingUpload}
    (left : first ∈ progress.state.pendingUploads) (right : second ∈ progress.state.pendingUploads)
    (same : first.storageKey = second.storageKey) : first = second := by
  have objects : first.id + 1 = second.id + 1 :=
    (accounted.named first left).1.symm.trans
      ((congrArg StorageKey.object same).trans (accounted.named second right).1)
  exact List.inj_on_of_nodup_map accounted.ids left right (Nat.succ.inj objects)

/-- Taking different pending uploads keeps every object used once. -/
theorem take (accounted : Accounted progress) {uploads : List PendingUpload}
    (taken : TakesUploads uploads progress.state next.state) (distinct : uploads.Nodup)
    (pending : ∀ upload ∈ uploads, upload ∈ progress.state.pendingUploads)
    (tasks : ∀ task ∈ next.pending, task ∈ progress.pending) : Accounted next := by
  have remains {upload : PendingUpload} (inside : upload ∈ next.state.pendingUploads) :
      upload ∈ progress.state.pendingUploads ∧ ∀ other ∈ uploads, upload.id ≠ other.id := by
    rw [taken.pendingUploads, List.mem_filter, List.all_eq_true] at inside
    exact ⟨inside.1, fun other listed => of_decide_eq_true (by simpa using inside.2 other listed)⟩
  refine ⟨?_, ?_, ?_, ?_, ?_, ?_⟩
  · rw [taken.attachments]
    refine accounted.once.append ?_ ?_
    · refine List.Nodup.map_on ?_ distinct
      exact fun first left second right => accounted.eq_of_storageKey (pending first left) (pending second right)
    · intro key old new
      obtain ⟨upload, listed, rfl⟩ := List.mem_map.mp new
      exact accounted.apart upload (pending upload listed) old
  · rw [taken.attachments]
    intro key inside
    apply Nat.lt_of_lt_of_le _ taken.later
    obtain old | new := List.mem_append.mp inside
    · exact accounted.spent key old
    · obtain ⟨upload, listed, rfl⟩ := List.mem_map.mp new
      obtain ⟨object, bound⟩ := accounted.named upload (pending upload listed)
      rw [object]
      exact bound
  · rw [taken.pendingUploads]
    exact accounted.ids.sublist (List.filter_sublist.map _)
  · intro upload inside
    obtain ⟨object, bound⟩ := accounted.named upload (remains inside).1
    exact ⟨object, Nat.le_trans bound taken.later⟩
  · intro upload inside
    obtain ⟨old, different⟩ := remains inside
    rw [taken.attachments, List.mem_append]
    rintro (attached | attached)
    · exact accounted.apart upload old attached
    · obtain ⟨other, listed, same⟩ := List.mem_map.mp attached
      exact different other listed (congrArg _ (accounted.eq_of_storageKey old (pending other listed) same.symm))
  · intro draft inside upload listed
    rw [taken.attachments, taken.pendingUploads, List.mem_append]
    obtain old | attached := accounted.found draft (tasks _ inside) upload listed
    · by_cases used : ∃ other ∈ uploads, upload.id = other.id
      · obtain ⟨other, chosen, same⟩ := used
        have equal := List.inj_on_of_nodup_map accounted.ids old (pending other chosen) same
        exact .inr (.inr (equal ▸ List.mem_map_of_mem chosen))
      · refine .inl (List.mem_filter.mpr ⟨old, List.all_eq_true.mpr ?_⟩)
        intro other chosen
        rw [bne_iff_ne]
        exact fun same => used ⟨other, chosen, same⟩
    · exact .inr (.inl attached)

/-- New uploads name fresh objects. -/
theorem upload (accounted : Accounted progress) {rows : List PendingUpload} {userId supply : Uuid}
    (later : progress.state.nextId ≤ supply)
    (fresh : ∀ row ∈ rows, FreshUpload userId progress.state.nextId supply row)
    (distinct : (rows.map PendingUpload.id).Nodup)
    (state : next.state = { progress.state with
      pendingUploads := progress.state.pendingUploads ++ rows, nextId := supply })
    (tasks : ∀ draft, .message draft ∈ next.pending → .message draft ∈ progress.pending) : Accounted next := by
  have unspent {row : PendingUpload} (inside : row ∈ rows) : progress.state.nextId ≤ row.storageKey.object := by
    rw [(fresh row inside).storageKey]
    exact Nat.le_succ_of_le (fresh row inside).fresh
  refine ⟨?_, ?_, ?_, ?_, ?_, ?_⟩ <;> rw [state]
  · exact accounted.once
  · exact fun key inside => Nat.lt_of_lt_of_le (accounted.spent key inside) later
  · rw [List.map_append]
    refine accounted.ids.append distinct ?_
    intro id old new
    obtain ⟨upload, inside, rfl⟩ := List.mem_map.mp old
    obtain ⟨row, listed, same⟩ := List.mem_map.mp new
    have below := Nat.lt_of_lt_of_le (Nat.lt_add_of_pos_right Nat.two_pos) (accounted.named upload inside).2
    exact absurd (same ▸ (fresh row listed).fresh) (Nat.not_le_of_lt below)
  · intro upload inside
    obtain old | new := List.mem_append.mp inside
    · exact ⟨(accounted.named upload old).1, Nat.le_trans (accounted.named upload old).2 later⟩
    · exact ⟨by rw [(fresh upload new).storageKey], (fresh upload new).known⟩
  · intro upload inside
    obtain old | new := List.mem_append.mp inside
    · exact accounted.apart upload old
    · exact fun attached => absurd (unspent new) (Nat.not_le_of_lt (accounted.spent _ attached))
  · intro draft inside upload listed
    obtain old | attached := accounted.found draft (tasks draft inside) upload listed
    · exact .inl (List.mem_append_left _ old)
    · exact .inr attached

end Accounted

theorem findUpload_ok {now : Nat} {userId : Uuid} {store : Store} {attachment : MessageAttachmentDto}
    {upload : PendingUpload} (found : findUpload now userId store attachment = .ok upload) :
    upload ∈ store.pendingUploads := by
  unfold findUpload at found
  simp only at found
  split at found
  · next located =>
      split at found
      · cases found
      · split at found
        · cases found
        · cases found
          exact List.mem_of_find?_eq_some located
  · cases found

section Turns
variable {progress : Library.Progress Store UploadTask}

/-- A call that starts has found no upload yet. -/
theorem Accounted.start (platform : Platform) (accounted : Accounted progress) (call : Env × UploadCall) :
    Accounted (waiting progress.pending (UploadTask.start platform progress.state call)) := by
  have begins {store : Store} {task : Option UploadTask}
      (attachments : store.attachments = progress.state.attachments)
      (pendingUploads : store.pendingUploads = progress.state.pendingUploads)
      (later : progress.state.nextId ≤ store.nextId)
      (nothing : ∀ draft, task = some (.message draft) → draft.found = []) :
      Accounted (waiting progress.pending (store, task)) := by
    refine accounted.of_same attachments pendingUploads later ?_
    intro draft inside upload listed
    obtain old | new := mem_waiting.mp inside
    · exact .inl ⟨draft, old, listed⟩
    · rw [nothing draft new] at listed
      exact absurd listed List.not_mem_nil
  obtain ⟨env, call⟩ := call
  unfold UploadTask.start
  cases call with
  | prepareUploads userId files => exact begins rfl rfl (Nat.le_refl _) fun _ => nofun
  | putObject key => exact begins rfl rfl (Nat.le_refl _) fun _ => nofun
  | createPrivateMessage senderId dto =>
      obtain ⟨exception, failed⟩ | ⟨privateKey, conversation, opened, -, succeeded, cases⟩ :=
        ConversationService.getOrCreatePrivateConversation_cases platform env
          { type := .privateType, creatorId := uuidText senderId, members := [dto.receiverId] } rfl progress.state
      · simp only [failed]
        exact begins rfl rfl (Nat.le_refl _) fun _ => nofun
      · simp only [succeeded]
        have same : opened.attachments = progress.state.attachments ∧
            opened.pendingUploads = progress.state.pendingUploads ∧ progress.state.nextId ≤ opened.nextId := by
          obtain ⟨rfl, -⟩ | ⟨-, -, rfl, -⟩ := cases
          · exact ⟨rfl, rfl, Nat.le_refl _⟩
          · exact ⟨rfl, rfl, Nat.le_succ _⟩
        refine begins same.1 same.2.1 same.2.2 ?_
        rintro draft ⟨⟩
        rfl
  | createGroupMessage senderId dto =>
      simp only
      cases createGroupMessageChecks progress.state senderId dto.conversationId with
      | error exception => exact begins rfl rfl (Nat.le_refl _) fun _ => nofun
      | ok members =>
          refine begins rfl rfl (Nat.le_refl _) ?_
          rintro draft ⟨⟩
          rfl

/-- A committing message takes what it has found, and any other turn leaves the attachments alone. -/
inductive Resumes (progress : Library.Progress Store UploadTask) :
    UploadTask → Env → Store × Option UploadTask → Prop where
  | uploads (userId expiresAt : Nat) (files : List FileDto) (env : Env) (rows : List PendingUpload)
      (supply : Uuid) (rest : Option UploadTask) (later : progress.state.nextId ≤ supply)
      (fresh : ∀ row ∈ rows, FreshUpload userId progress.state.nextId supply row)
      (distinct : (rows.map PendingUpload.id).Nodup) (other : ∀ draft, rest ≠ some (.message draft)) :
      Resumes progress (.createUploads userId expiresAt files) env
        ({ progress.state with pendingUploads := progress.state.pendingUploads ++ rows, nextId := supply }, rest)
  | finds (draft : MessageDraft) (env : Env) (attachment : MessageAttachmentDto) (rest : List MessageAttachmentDto)
      (upload : PendingUpload) (remaining : draft.remaining = attachment :: rest)
      (pending : upload ∈ progress.state.pendingUploads) :
      Resumes progress (.message draft) env
        (progress.state, some (.message { draft with remaining := rest, found := draft.found ++ [upload] }))
  | fails (draft : MessageDraft) (env : Env)
      (aborted : draft.remaining = [] → env.succeeds 0 = true →
        (progress.state.hasConversation draft.conversationId && progress.state.hasUser draft.senderId) = false) :
      Resumes progress (.message draft) env (progress.state, none)
  | commits (draft : MessageDraft) (env : Env) (next : Store) (remaining : draft.remaining = [])
      (succeeds : env.succeeds 0 = true)
      (allowed : (progress.state.hasConversation draft.conversationId &&
        progress.state.hasUser draft.senderId) = true)
      (taken : TakesUploads draft.found progress.state next) :
      Resumes progress (.message draft) env (next, none)

theorem resumes (progress : Library.Progress Store UploadTask) (task : UploadTask) (env : Env) :
    Resumes progress task env (UploadTask.resume progress.state task env) := by
  cases task with
  | createUploads userId expiresAt files =>
      cases files with
      | nil =>
          refine cast ?_ (Resumes.uploads userId expiresAt [] env [] progress.state.nextId none (Nat.le_refl _)
            (fun _ inside => absurd inside List.not_mem_nil) List.nodup_nil fun _ => nofun)
          rw [List.append_nil]
          rfl
      | cons file files =>
          obtain ⟨rows, supply, shape, later, fresh, distinct⟩ :=
            createUploads_shape env userId expiresAt 0 [file] progress.state
          unfold UploadTask.resume
          simp only
          rw [shape]
          exact .uploads userId expiresAt _ env rows supply _ later fresh distinct fun _ => nofun
  | message draft =>
      unfold UploadTask.resume
      cases remaining : draft.remaining with
      | cons attachment rest =>
          simp only [remaining]
          cases found : findUpload env.now draft.senderId progress.state attachment with
          | error exception => exact .fails draft env fun empty => by simp [remaining] at empty
          | ok upload => exact .finds draft env attachment rest upload remaining (findUpload_ok found)
      | nil =>
          simp only [remaining]
          obtain ⟨allowed, next, written, taken⟩ | ⟨refused, exception, failed⟩ :=
            draft.write_cases env.now progress.state
          · simp only [transaction, written]
            cases succeeds : env.succeeds 0 with
            | true => exact .commits draft env next remaining succeeds allowed taken
            | false =>
                refine .fails draft env ?_
                intro _ commits
                rw [succeeds] at commits
                cases commits
          · simp only [transaction, failed]
            exact .fails draft env fun _ _ => refused

theorem Accounted.resume (accounted : Accounted progress) {position : Nat} {task : UploadTask} {env : Env}
    (resuming : progress.pending[position]? = some task) (fresh : commitsFresh progress task env) :
    Accounted (waiting (progress.pending.eraseIdx position) (UploadTask.resume progress.state task env)) := by
  have step := resumes progress task env
  generalize UploadTask.resume progress.state task env = outcome at step ⊢
  cases step with
  | uploads userId expiresAt files env rows supply rest later unspent distinct other =>
      refine accounted.upload later unspent distinct rfl ?_
      intro draft inside
      obtain old | new := mem_waiting.mp inside
      · exact List.mem_of_mem_eraseIdx old
      · exact absurd new (other draft)
  | finds draft env attachment rest upload remaining pending =>
      refine accounted.of_same rfl rfl (Nat.le_refl _) ?_
      intro other inside held listed
      obtain old | new := mem_waiting.mp inside
      · exact .inl ⟨other, List.mem_of_mem_eraseIdx old, listed⟩
      · cases new
        obtain before | now := List.mem_append.mp listed
        · exact .inl ⟨draft, List.mem_of_getElem? resuming, before⟩
        · exact .inr (List.mem_singleton.mp now ▸ pending)
  | fails draft env aborted =>
      refine accounted.of_same rfl rfl (Nat.le_refl _) ?_
      intro other inside held listed
      obtain old | new := mem_waiting.mp inside
      · exact .inl ⟨other, List.mem_of_mem_eraseIdx old, listed⟩
      · cases new
  | commits draft env next remaining succeeds allowed taken =>
      obtain ⟨distinct, pending⟩ := fresh remaining succeeds allowed
      refine accounted.take taken distinct pending ?_
      intro task inside
      obtain old | new := mem_waiting.mp inside
      · exact List.mem_of_mem_eraseIdx old
      · cases new

/-- A commit after which every object is used once has found different uploads that are still pending. -/
theorem Accounted.breaks (accounted : Accounted progress) {position : Nat} {task : UploadTask} {env : Env}
    (resuming : progress.pending[position]? = some task)
    (once : UploadsOnce (UploadTask.resume progress.state task env).1) : commitsFresh progress task env := by
  have step := resumes progress task env
  generalize UploadTask.resume progress.state task env = outcome at step once
  cases step with
  | uploads userId expiresAt files env rows supply rest later unspent distinct other => exact trivial
  | finds draft env attachment rest upload remaining pending =>
      intro empty
      rw [remaining] at empty
      cases empty
  | fails draft env aborted =>
      intro remaining succeeds allowed
      rw [aborted remaining succeeds] at allowed
      cases allowed
  | commits draft env next remaining succeeds allowed taken =>
      intro _ _ _
      have keys := once.once
      rw [taken.attachments] at keys
      obtain ⟨-, distinct, apart⟩ := List.nodup_append.mp keys
      refine ⟨distinct.of_map _, ?_⟩
      intro upload listed
      obtain pending | attached := accounted.found draft (List.mem_of_getElem? resuming) upload listed
      · exact pending
      · exact absurd rfl (apart _ attached _ (List.mem_map_of_mem listed))

end Turns

/-- Every object is used once in every state exactly when every message that commits has found different
uploads that are still pending. -/
theorem uploads_once_iff {platform : Platform} {store : Store} (attachments : store.attachments = [])
    (uploads : store.pendingUploads = []) (turns : List (Turn (Env × UploadCall) Env)) :
    (∀ position, UploadsOnce (stateAt (uploadSystem platform).advance ⟨store, []⟩ turns position).state) ↔
      Meets (uploadSystem platform).advance (OnResume commitsFresh) ⟨store, []⟩ turns := by
  refine always_iff_meets (uploadSystem platform).advance Accounted (fun progress => UploadsOnce progress.state)
    ?_ (fun _ accounted => accounted.uploadsOnce) ?_ ?_
  · constructor <;> simp [attachments, uploads]
  · intro progress turn accounted fresh
    refine (uploadSystem platform).advance_keeps Accounted accounted ?_ ?_
    · rintro call rfl
      exact Accounted.start platform accounted call
    · rintro position env task rfl resuming
      exact accounted.resume resuming (fresh task resuming)
  · intro progress turn accounted once
    cases turn with
    | call call => exact trivial
    | resume position env =>
        intro task resuming
        apply accounted.breaks resuming
        have resumed : (uploadSystem platform).advance progress (.resume position env) =
            waiting (progress.pending.eraseIdx position) (UploadTask.resume progress.state task env) := by
          rw [Cooperative.advance, show progress.pending[position]? = some task from resuming]
          rfl
        rw [resumed] at once
        exact once

/-- User 1 is a member of the groups 4 and 5. -/
def uploaderStore : Store :=
  { users := [{ id := 1, role := .user, createdAt := 0 }]
    conversations := [4, 5].map fun id => { id, type := .groupType, createdAt := 0, updatedAt := 0 }
    members := [4, 5].map fun conversationId => { conversationId, userId := 1, role := .owner, createdAt := 0 }
    nextId := 10 }

/-- User 1 uploads a file, and its client puts the object into the bucket. -/
def uploadedFile : List (Turn (Env × UploadCall) Env) :=
  [.call ({ now := 0 }, .prepareUploads 1 [⟨['p', 'n', 'g'], 8, ['a']⟩]), .resume 0 { now := 0 },
    .resume 0 { now := 0 }, .call ({ now := 0 }, .putObject ⟨1, 11⟩)]

/-- Three messages look their uploads up before any of them commits. The third uses the upload of the first, and the
database aborts it. -/
def overlappingMessages : List (Turn (Env × UploadCall) Env) :=
  [.call ({ now := 0 }, .prepareUploads 1 [⟨['p', 'n', 'g'], 8, ['a']⟩, ⟨['p', 'n', 'g'], 8, ['b']⟩]),
    .resume 0 { now := 0 }, .resume 0 { now := 0 }, .resume 0 { now := 0 },
    .call ({ now := 0 }, .putObject ⟨1, 11⟩), .call ({ now := 0 }, .putObject ⟨1, 13⟩),
    .call ({ now := 1 }, .createGroupMessage 1 ⟨4, [104], [{ id := 10 }]⟩),
    .call ({ now := 1 }, .createGroupMessage 1 ⟨5, [105], [{ id := 12 }]⟩),
    .call ({ now := 1 }, .createGroupMessage 1 ⟨5, [106], [{ id := 10 }]⟩),
    .resume 0 { now := 1 }, .resume 0 { now := 1 }, .resume 0 { now := 1 },
    .resume 1 { now := 2 }, .resume 0 { now := 2 }, .resume 0 { now := 2, succeeds := fun _ => false }]

theorem overlappingMessages_upload_once :
    UploadsOnce (stateAt (uploadSystem plainPlatform).advance ⟨uploaderStore, []⟩ overlappingMessages 15).state :=
  (uploads_once_iff rfl rfl overlappingMessages).mpr (by decide) 15

/-- One message lists the upload twice. -/
def repeatedUpload : List (Turn (Env × UploadCall) Env) :=
  uploadedFile ++ [.call ({ now := 1 }, .createGroupMessage 1 ⟨4, [104], [{ id := 10 }, { id := 10 }]⟩),
    .resume 0 { now := 1 }, .resume 0 { now := 1 }, .resume 0 { now := 2 }]

/-- Messages in two groups look the upload up before either of them commits. -/
def racingMessages : List (Turn (Env × UploadCall) Env) :=
  uploadedFile ++ [.call ({ now := 1 }, .createGroupMessage 1 ⟨4, [104], [{ id := 10 }]⟩),
    .call ({ now := 1 }, .createGroupMessage 1 ⟨5, [105], [{ id := 10 }]⟩), .resume 0 { now := 1 },
    .resume 0 { now := 1 }, .resume 0 { now := 2 }, .resume 0 { now := 2 }]

/-- Both runs leave two attachments with the same object. -/
theorem upload_used_twice :
    (¬ ∀ position, UploadsOnce
      (stateAt (uploadSystem plainPlatform).advance ⟨uploaderStore, []⟩ repeatedUpload position).state) ∧
    ¬ ∀ position, UploadsOnce
      (stateAt (uploadSystem plainPlatform).advance ⟨uploaderStore, []⟩ racingMessages position).state := by
  constructor
  · intro always
    exact absurd (always 8).once (by decide)
  · intro always
    exact absurd (always 10).once (by decide)

end Messinger
