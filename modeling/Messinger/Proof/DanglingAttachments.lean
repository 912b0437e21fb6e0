import Messinger.Proof.FileDeletions
import Messinger.Proof.MessageContents
import Messinger.Proof.StrangerRequests

namespace Messinger
open Library ConversationMemberRepository ConversationRepository ConversationService MessageService
  MessageAttachmentRepository StorageService

/-- Every attachment names an object of the bucket. -/
def FilesPresent (store : Store) : Prop :=
  ∀ attachment ∈ store.attachments, attachment.storageKey ∈ store.bucket

/-- There is no file to delete, or the first batch fails without deleting one of its keys, or all batches and then
the transaction succeed. -/
def DeletesTogether (env : Env) (storageKeys : List StorageKey) : Prop :=
  storageKeys = [] ∨
    (env.succeeds 1 = false ∧ ∀ key ∈ storageKeys.take maxKeysPerBatch, key ∉ env.deleted) ∨
    (AllBatches env storageKeys ∧ env.succeeds 0 = true)

/-- The cleanup job, and the deletion of a user by an authorized request, delete files and rows together. -/
def ActsTogether (platform : Platform) (store : Store) (action : Env × Action) : Prop :=
  match action.2 with
  | .request exchange => ∀ dto, exchange.request.route = .deleteUser (some dto) →
      (runChain platform exchange.middlewareEnv exchange.request exchange.request.route.chain { store }).1 = .ok () →
      DeletesTogether exchange.env (AdminService.filesOfUser store dto)
  | .deleteMessagesJob => DeletesTogether action.1 (filesToCleanup action.1 store)
  | _ => True

section Writes
variable {store next : Store}

theorem FilesPresent.shrink (present : FilesPresent store)
    (rows : ∀ attachment ∈ next.attachments, attachment ∈ store.attachments)
    (objects : ∀ key ∈ store.bucket, key ∈ next.bucket) : FilesPresent next :=
  fun attachment inside => objects _ (present attachment (rows attachment inside))

theorem FilesPresent.of_same (present : FilesPresent store) (rows : next.attachments = store.attachments)
    (bucket : next.bucket = store.bucket) : FilesPresent next :=
  present.shrink (fun _ inside => rows ▸ inside) (fun _ inside => bucket ▸ inside)

theorem FilesPresent.leaves (present : FilesPresent store) (leaves : LeavesContent store next) :
    FilesPresent next :=
  present.of_same leaves.same.attachments leaves.same.bucket

theorem FilesPresent.saves {now : Nat} {senderId : Uuid} {attachments : List MessageAttachmentDto}
    {message : Message} {uploads : List PendingUpload} (present : FilesPresent store)
    (saves : SavesMessage now senderId attachments message uploads store next) : FilesPresent next := by
  intro attachment inside
  rw [saves.bucket]
  obtain old | ⟨upload, listed, id, rfl⟩ := saves.attachments attachment inside
  · exact present attachment old
  · exact (findUploads_usable saves.found upload listed).stored

/-- An attachment that outlives the doomed messages shares no file with theirs. -/
theorem FilesApart.spares (apart : FilesApart store) {doomed : Message → Bool} {attachment : MessageAttachment}
    (remains : attachment ∈ (store.deleteMessages doomed).attachments) :
    attachment.storageKey ∉ AdminService.storageKeysOf store (store.messages.filter doomed) := by
  rw [mem_storageKeysOf_filter]
  rintro ⟨other, stored, same, removed⟩
  obtain ⟨present, spared⟩ := mem_attachments_deleteMessages.mp remains
  have messages := apart.shared other stored attachment present same
  refine removed (mem_attachments_deleteMessages.mpr ⟨stored, fun message inside id => ?_⟩)
  exact spared message inside (id.trans messages)

/-- Deleting the files of some messages with their rows leaves the files of the other messages. -/
theorem FilesPresent.deletes (present : FilesPresent store) (apart : FilesApart store) {doomed : Message → Bool}
    {kept : StorageKey → Bool} (rows : next.attachments = (store.deleteMessages doomed).attachments)
    (bucket : next.bucket = store.bucket.filter kept)
    (spared : ∀ key ∉ AdminService.storageKeysOf store (store.messages.filter doomed), kept key = true) :
    FilesPresent next := by
  intro attachment inside
  rw [rows] at inside
  rw [bucket]
  have stored := (mem_attachments_deleteMessages.mp inside).1
  exact List.mem_filter.mpr ⟨present attachment stored, spared _ (apart.spares inside)⟩

/-- An operation that deletes files first keeps the rest together exactly when nothing fails in between. -/
theorem filesFirst_present_iff (present : FilesPresent store) (apart : FilesApart store) {env : Env}
    {doomed : Message → Bool} (first : FilesFirst env doomed store next) :
    FilesPresent next ↔
      DeletesTogether env (AdminService.storageKeysOf store (store.messages.filter doomed)) := by
  obtain ⟨kept, shape, spared⟩ := deleteFiles_shape env
    (AdminService.storageKeysOf store (store.messages.filter doomed)) store
  have bucket : next.bucket = store.bucket.filter kept := by rw [first.bucket, shape]
  have rows := first.attachments
  by_cases together : AllBatches env
      (AdminService.storageKeysOf store (store.messages.filter doomed)) ∧ env.succeeds 0 = true
  · rw [if_pos together] at rows
    exact iff_of_true (present.deletes apart rows bucket spared) (.inr (.inr together))
  · rw [if_neg together] at rows
    -- the rows stay, so the operation must not have deleted any file
    have whole := first.bucket
    have losing {key : StorageKey} (owned : key ∈ AdminService.storageKeysOf store (store.messages.filter doomed))
        (gone : key ∉ next.bucket) : ¬ FilesPresent next := by
      obtain ⟨attachment, stored, same, -⟩ := mem_storageKeysOf_filter.mp owned
      exact fun still => gone (same ▸ still attachment (rows ▸ stored))
    by_cases nothing : AdminService.storageKeysOf store (store.messages.filter doomed) = []
    · rw [nothing, deleteFiles_nil] at whole
      exact iff_of_true (present.of_same rows whole) (.inl nothing)
    cases arrives : env.succeeds 1 with
    | true =>
        obtain ⟨key, rest, listed⟩ := List.exists_cons_of_ne_nil nothing
        have gone := deleteFiles_first arrives key rest store
        rw [← listed, ← whole] at gone
        refine iff_of_false (losing (listed ▸ List.mem_cons_self) gone) ?_
        rintro (none | ⟨fails, -⟩ | both)
        · exact nothing none
        · cases arrives.symm.trans fails
        · exact together both
    | false =>
        have remains {key : StorageKey} := @mem_bucket_of_first_fails env arrives _ nothing store key
        rw [← whole] at remains
        by_cases spares : ∀ key ∈ (AdminService.storageKeysOf store (store.messages.filter doomed)).take
            maxKeysPerBatch, key ∉ env.deleted
        · refine iff_of_true (present.shrink (fun _ inside => rows ▸ inside) ?_) (.inr (.inl ⟨arrives, spares⟩))
          exact fun key there => remains.mpr ⟨there, spares key⟩
        · refine iff_of_false ?_ ?_
          · push Not at spares
            obtain ⟨key, first, lost⟩ := spares
            exact losing (List.mem_of_mem_take first) fun there => (remains.mp there).2 first lost
          · rintro (none | ⟨-, kept⟩ | both)
            · exact nothing none
            · exact spares kept
            · exact together both

end Writes

section Steps
variable {platform : Platform} {store : Store}

theorem FilesPresent.deleteConversation (present : FilesPresent store) (conversationId : Uuid) :
    FilesPresent (deleteConversation conversationId store) :=
  present.shrink (fun _ inside => (List.mem_filter.mp inside).1) (fun _ inside => inside)

/-- The controllers keep the files present, but for a deletion of a user that fails halfway. -/
theorem controller_present_iff (before : Consistent store) (present : FilesPresent store) (env : Env)
    (request : Request) (userId : Uuid) :
    FilesPresent (controller platform env request userId store).2 ↔
      ∀ dto, request.route = .deleteUser (some dto) → DeletesTogether env (AdminService.filesOfUser store dto) := by
  by_cases deletes : request.route.deletes = false
  · refine iff_of_true (present.leaves (controller_leavesContent platform deletes)) ?_
    intro dto route
    rw [route] at deletes
    cases deletes
  · unfold controller
    cases route : request.route with
    | deleteGroup conversationId =>
        refine iff_of_true (answerValid_keeps present fun conversationId => answer_keeps ?_) (by intro dto same; cases same)
        obtain ⟨exception, failed⟩ | ⟨conversation, owner, -, -, -, -, done⟩ :=
          deleteGroup_cases env userId conversationId store
        · rw [failed]
          exact present
        · rw [done]
          exact present.deleteConversation conversationId
    | deletePrivate conversationId =>
        refine iff_of_true (answerValid_keeps present fun conversationId => answer_keeps ?_) (by intro dto same; cases same)
        have step := deletionStep env userId conversationId store
        generalize (deletePrivateConversation env userId conversationId store).2 = next at step ⊢
        cases step with
        | refused | hides => exact present
        | drops => exact present.deleteConversation conversationId
    | deleteMessages dto =>
        refine iff_of_true (answerValid_keeps present fun dto => ?_) (by intro dto same; cases same)
        obtain ⟨-, same⟩ | ⟨-, kept, shape, spared⟩ := deleteMessages_shape env dto store
        · rw [same]
          exact present
        · have rows : (Controllers.deleteMessages env dto store).2.attachments =
              (store.deleteMessages dto.names).attachments := by
            rw [shape]
          have bucket : (Controllers.deleteMessages env dto store).2.bucket = store.bucket.filter kept := by
            rw [shape]
          exact present.deletes before.files rows bucket spared
    | deleteUser dto =>
        cases dto with
        | none => exact iff_of_true present (by intro dto same; cases same)
        | some dto =>
            have first := filesFirst_present_iff present before.files (deleteUser_filesFirst env dto store)
            simp only [answerValid, answer_store]
            rw [first]
            constructor
            · intro together other same
              cases same
              exact together
            · exact fun together => together dto rfl
    | deleteAdmin dto =>
        refine iff_of_true (answerValid_keeps present fun dto => answer_keeps ?_) (by intro dto same; cases same)
        refine transaction_keeps present ?_
        intro value next done
        cases done
        exact present
    | _ =>
        rw [route] at deletes
        exact absurd rfl deletes

/-- Each action keeps the files present exactly when it deletes files and rows together. -/
theorem act_present_iff (before : Consistent store) (present : FilesPresent store) (action : Env × Action) :
    FilesPresent (act platform store action) ↔ ActsTogether platform store action := by
  obtain ⟨env, action⟩ := action
  cases action with
  | request exchange =>
      change FilesPresent (handle platform exchange.middlewareEnv exchange.env exchange.request store).2 ↔ _
      obtain ⟨sessions, between⟩ := runChain_store platform exchange.middlewareEnv exchange.request
        exchange.request.route.chain store
      have chain := runChain_leavesFiles platform exchange.middlewareEnv exchange.request
        exchange.request.route.chain store
      obtain ⟨exception, progress, failed, same⟩ | ⟨progress, passed, same⟩ :=
        handle_cases platform exchange.middlewareEnv exchange.env exchange.request store
      · rw [failed] at chain
        rw [same]
        refine iff_of_true (present.leaves chain.toLeavesContent) ?_
        intro dto _ passes
        rw [failed] at passes
        cases passes
      · rw [passed] at chain between
        rw [same, controller_present_iff (chain.consistent before) (present.leaves chain.toLeavesContent)]
        have files (dto : UserDto) : AdminService.filesOfUser progress.store dto = AdminService.filesOfUser store dto := by
          rw [show progress.store = { store with sessions } from between]
          rfl
        simp only [files]
        refine forall_congr' fun dto => forall_congr' fun route => ?_
        rw [passed]
        exact ⟨fun together _ => together, fun together => together rfl⟩
  | createPrivateMessage senderId dto =>
      refine iff_of_true ?_ trivial
      change FilesPresent (createPrivateMessage platform env senderId dto store).2
      obtain same | ⟨message, uploads, saves⟩ := createPrivateMessage_files platform env senderId dto store
      · exact present.of_same same.attachments same.bucket
      · exact present.saves saves
  | createGroupMessage senderId dto =>
      refine iff_of_true ?_ trivial
      change FilesPresent (createGroupMessage platform env senderId dto store).2
      obtain same | ⟨message, uploads, saves⟩ := createGroupMessage_files platform env senderId dto store
      · exact present.of_same (congrArg Store.attachments same) (congrArg Store.bucket same)
      · exact present.saves saves
  | validateGroupInvitation actorId dto =>
      have leaves := (groupStep env (.validateGroupInvitation actorId dto) store).leavesFiles
      exact iff_of_true (present.leaves leaves.toLeavesContent) trivial
  | acceptGroupInvitation conversationId userId =>
      have leaves := (groupStep env (.acceptGroupInvitation conversationId userId) store).leavesFiles
      exact iff_of_true (present.leaves leaves.toLeavesContent) trivial
  | rejectGroupInvitation conversationId userId =>
      have leaves := (groupStep env (.rejectGroupInvitation conversationId userId) store).leavesFiles
      exact iff_of_true (present.leaves leaves.toLeavesContent) trivial
  | confirmDelivery userId dto =>
      have same := confirmDelivery_sameFiles env userId dto store
      exact iff_of_true (present.of_same same.attachments same.bucket) trivial
  | updateLastSeenAt userId =>
      exact iff_of_true
        (present.leaves (updateLastSeenAt_accountStep env store userId).leavesFiles.toLeavesContent) trivial
  | syncPendingMessages connected userId =>
      have same := syncPendingMessages_sameFiles platform env connected userId store
      exact iff_of_true (present.of_same same.attachments same.bucket) trivial
  | removeInvalidSubscription endpoint =>
      exact iff_of_true
        (present.leaves (unsubscribeWeb_accountStep env store endpoint).leavesFiles.toLeavesContent) trivial
  | putObject storageKey =>
      exact iff_of_true (present.shrink (fun _ inside => inside) fun _ inside => List.mem_append_left _ inside) trivial
  | deleteMessagesJob => exact filesFirst_present_iff present before.files (deleteMessagesJob_filesFirst env store)
  | adminSeed => exact iff_of_true (present.leaves (adminSeed_leavesFiles platform env store).toLeavesContent) trivial

end Steps

/-- Every attachment of every state has its file exactly when each deletion in the run deletes files and rows
together. -/
theorem files_present_iff (platform : Platform) (actions : List (Env × Action)) :
    (∀ position, FilesPresent (stateAt (act platform) {} actions position)) ↔
      Meets (act platform) (ActsTogether platform) {} actions := by
  apply always_iff_meets (act platform) (fun store => Consistent store ∧ FilesPresent store) FilesPresent
  · have initial : Reachable platform {} := ⟨[], rfl⟩
    exact ⟨initial.consistent, fun attachment inside => absurd inside List.not_mem_nil⟩
  · exact fun _ both => both.2
  · exact fun _ action both together =>
      ⟨both.1.act platform action, (act_present_iff both.1 both.2 action).mpr together⟩
  · exact fun _ action both present => (act_present_iff both.1 both.2 action).mp present

instance (store : Store) : Decidable (FilesPresent store) :=
  inferInstanceAs (Decidable (∀ attachment ∈ store.attachments, _))

/-- User 0 signs in with this key and gets the identifier 2 for the session. -/
def senderLoginKey : Text := ['L', 'M', 'N', 'P', 'Q', 'R', 'S', 'T', 'U', 'V']

def senderTokens : Tokens :=
  SessionRepository.signTokens plainPlatform 4000000 { sub := 0, roles := [.user], sid := 2 }

/-- User 0 uploads a file and sends it to user 1, and two days later the transaction of the cleanup job fails. -/
def failedCleanup : List (Env × Action) :=
  [requestAt 1 0 { route := .signUp none (some ['a', 'n', 'n']) },
   requestAt 2 1 { route := .signUp none (some ['b', 'o', 'b']) },
   requestAt 4 0 { route := .signIn (some { loginKey := senderLoginKey }) },
   requestAt 5 0
    { cookies := { accessToken := some (.text senderTokens.accessToken), refreshToken := none }
      route := .upload (some [{ contentType := [], size := 1, fileName := [] }]) },
   (clock 6 0, .putObject ⟨0, 4⟩),
   (clock 7 0, .createPrivateMessage 0 { receiverId := uuidText 1, content := [104], attachments := [{ id := 3 }] }),
   ({ clock 200000 0 with succeeds := fun index => index == 1 }, .deleteMessagesJob)]

/-- The job has deleted the file, and the attachment still names it. -/
theorem failed_cleanup_dangles :
    Reachable plainPlatform (failedCleanup.foldl (act plainPlatform) {}) ∧
      ¬ FilesPresent (failedCleanup.foldl (act plainPlatform) {}) :=
  ⟨⟨failedCleanup, rfl⟩, by decide⟩

end Messinger
