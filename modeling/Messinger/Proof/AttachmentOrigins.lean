import Messinger.Library.History
import Messinger.Proof.DanglingAttachments

namespace Messinger
open Library ConversationMemberRepository ConversationRepository ConversationService MessageService
  MessageAttachmentRepository StorageService

/-- The request prepares this upload for its authenticated user. -/
def Prepares (platform : Platform) (store : Store) (action : Env × Action) (upload : PendingUpload) : Prop :=
  ∃ exchange files progress locals, action.2 = .request exchange ∧
    exchange.request.route = .upload (some files) ∧
    runChain platform exchange.middlewareEnv exchange.request exchange.request.route.chain { store } =
      (.ok (), progress) ∧
    progress.locals = some locals ∧ locals.userId = upload.userId ∧
    upload ∈ (prepareUploads exchange.env upload.userId files progress.store).2.pendingUploads ∧
    upload ∉ store.pendingUploads

/-- An action of the run before the position prepares this upload. -/
def PreparedBefore (platform : Platform) (actions : List (Env × Action)) (position : Nat)
    (upload : PendingUpload) : Prop :=
  Happened (act platform) (Prepares platform) {} actions position upload

/-- The attachment of the message has the file of this upload of the sender, which had not expired. -/
structure ComesFrom (userId : Uuid) (message : Message) (attachment : MessageAttachment)
    (upload : PendingUpload) : Prop where
  owner : upload.userId = userId
  storageKey : attachment.storageKey = upload.storageKey
  fileName : attachment.fileName = upload.fileName
  contentType : attachment.contentType = upload.contentType
  size : attachment.size = upload.size
  unexpired : getTime message.createdAt ≤ getTime upload.expiresAt

/-- The pending uploads were prepared, and so were the files of the messages that still have a sender. -/
structure Sourced (prepared : PendingUpload → Prop) (store : Store) : Prop where
  uploads : ∀ upload ∈ store.pendingUploads, prepared upload
  attachments : ∀ message ∈ store.messages, ∀ attachment ∈ store.attachments,
    attachment.messageId = message.id → ∀ userId, message.senderId = some userId →
      ∃ upload, prepared upload ∧ ComesFrom userId message attachment upload

/-- The write adds no file, and a message stays as it is or loses its sender. -/
structure AddsNoFiles (store next : Store) : Prop where
  messages : ∀ message ∈ next.messages, message ∈ store.messages ∨ message.senderId = none
  attachments : ∀ attachment ∈ next.attachments, attachment ∈ store.attachments
  uploads : ∀ upload ∈ next.pendingUploads, upload ∈ store.pendingUploads

namespace AddsNoFiles
variable {store next : Store}

theorem refl (store : Store) : AddsNoFiles store store :=
  ⟨fun _ inside => .inl inside, fun _ inside => inside, fun _ inside => inside⟩

theorem trans {last : Store} (first : AddsNoFiles store next) (second : AddsNoFiles next last) :
    AddsNoFiles store last where
  messages message inside := by
    rcases second.messages message inside with kept | cleared
    · exact first.messages message kept
    · exact .inr cleared
  attachments attachment inside := first.attachments attachment (second.attachments attachment inside)
  uploads upload inside := first.uploads upload (second.uploads upload inside)

theorem of_same (messages : next.messages = store.messages) (attachments : next.attachments = store.attachments)
    (uploads : next.pendingUploads = store.pendingUploads) : AddsNoFiles store next where
  messages _ inside := .inl (messages ▸ inside)
  attachments _ inside := attachments ▸ inside
  uploads _ inside := uploads ▸ inside

theorem of_leaves (leaves : LeavesFiles store next) : AddsNoFiles store next :=
  of_same leaves.same.messages leaves.same.attachments leaves.uploads

theorem of_sameFiles (same : SameFiles store next) : AddsNoFiles store next :=
  of_same same.messages same.attachments same.pendingUploads

theorem deleteMessages (store : Store) (doomed : Message → Bool) :
    AddsNoFiles store (store.deleteMessages doomed) where
  messages _ inside := .inl (List.mem_filter.mp inside).1
  attachments _ inside := (List.mem_filter.mp inside).1
  uploads _ inside := inside

theorem deleteConversations (store : Store) (doomed : Uuid → Bool) :
    AddsNoFiles store (store.deleteConversations doomed) :=
  (deleteMessages store fun message => doomed message.conversationId).trans (of_same rfl rfl rfl)

theorem deleteUsers (store : Store) (doomed : User → Bool) : AddsNoFiles store (store.deleteUsers doomed) where
  messages message inside := by
    obtain ⟨former, present, rfl⟩ := List.mem_map.mp inside
    split
    · exact .inr rfl
    · exact .inl present
  attachments _ inside := inside
  uploads _ inside := (List.mem_filter.mp inside).1

theorem deleteFiles (env : Env) (storageKeys : List StorageKey) (store : Store) :
    AddsNoFiles store (deleteFiles env storageKeys store).2 := by
  obtain ⟨kept, shape, -⟩ := deleteFiles_shape env storageKeys store
  rw [shape]
  exact of_same rfl rfl rfl

theorem deletePrivateConversation (env : Env) (userId conversationId : Uuid) (store : Store) :
    AddsNoFiles store (deletePrivateConversation env userId conversationId store).2 := by
  have marked : AddsNoFiles store (markConversationAsDeleted env.now conversationId userId store) :=
    of_same rfl rfl rfl
  have step := deletionStep env userId conversationId store
  generalize (ConversationService.deletePrivateConversation env userId conversationId store).2 = next at step ⊢
  cases step with
  | refused => exact .refl store
  | hides => exact marked
  | drops => exact marked.trans (deleteConversations _ _)

theorem deleteUser (env : Env) (dto : UserDto) (store : Store) :
    AddsNoFiles store (AdminService.deleteUser env dto store).2 := by
  have emptied := deleteFiles env (AdminService.filesOfUser store dto) store
  unfold AdminService.deleteUser
  simp only
  split
  · next between failed =>
      rw [AdminService.filesOfUser, failed] at emptied
      exact emptied
  · next between done =>
      rw [AdminService.filesOfUser, done] at emptied
      refine transaction_keeps emptied ?_
      intro value last body
      cases body
      exact (emptied.trans (deleteConversations _ _)).trans (deleteUsers _ _)

theorem deleteMessagesJob (env : Env) (store : Store) : AddsNoFiles store (deleteMessagesJob env store) := by
  have emptied := deleteFiles env (filesToCleanup env store) store
  unfold Messinger.deleteMessagesJob
  simp only
  split
  · exact .refl store
  · split
    · next between failed =>
        rw [filesToCleanup, failed] at emptied
        exact emptied
    · next between done =>
        rw [filesToCleanup, done] at emptied
        split
        · exact emptied.trans (deleteMessages _ _)
        · exact emptied

end AddsNoFiles

section Steps
variable {platform : Platform} {store next : Store}

/-- The controllers add no file, but for the route that prepares uploads. -/
theorem controller_addsNoFiles (env : Env) (request : Request) (userId : Uuid)
    (uploads : request.route.uploads = false) :
    AddsNoFiles store (controller platform env request userId store).2 := by
  by_cases deletes : request.route.deletes = false
  · exact .of_leaves (controller_leavesFiles platform deletes uploads)
  · unfold controller
    cases route : request.route with
    | deleteGroup conversationId =>
        refine answerValid_keeps (.refl store) fun conversationId => answer_keeps ?_
        obtain ⟨exception, failed⟩ | ⟨conversation, owner, -, -, -, -, done⟩ :=
          deleteGroup_cases env userId conversationId store
        · rw [failed]
          exact .refl store
        · rw [done]
          exact AddsNoFiles.deleteConversations store fun id => id == conversationId
    | deletePrivate conversationId =>
        exact answerValid_keeps (.refl store) fun conversationId =>
          answer_keeps (.deletePrivateConversation env userId conversationId store)
    | deleteMessages dto =>
        refine answerValid_keeps (.refl store) fun dto => ?_
        obtain ⟨-, same⟩ | ⟨-, kept, shape, -⟩ := deleteMessages_shape env dto store
        · rw [same]
          exact .refl store
        · rw [shape]
          exact (AddsNoFiles.deleteMessages store dto.names).trans (.of_same rfl rfl rfl)
    | deleteUser dto =>
        exact answerValid_keeps (.refl store) fun dto => answer_keeps (.deleteUser env dto store)
    | deleteAdmin dto =>
        refine answerValid_keeps (.refl store) fun dto => answer_keeps (transaction_keeps (.refl store) ?_)
        intro value last body
        cases body
        exact .deleteUsers store _
    | _ =>
        rw [route] at deletes
        exact absurd rfl deletes

/-- An action adds no file, saves a message with its uploads, or prepares uploads for its user. -/
inductive FileStep (platform : Platform) (store : Store) (action : Env × Action) : Store → Prop where
  | adds {next : Store} (none : AddsNoFiles store next) : FileStep platform store action next
  | saves {next : Store} (now : Nat) (senderId : Uuid) (attachments : List MessageAttachmentDto) (message : Message)
      (uploads : List PendingUpload) (saves : SavesMessage now senderId attachments message uploads store next) :
      FileStep platform store action next
  | prepares (exchange : Exchange) (files : List FileDto) (progress : Messinger.Progress) (locals : Locals)
      (request : action.2 = .request exchange) (route : exchange.request.route = .upload (some files))
      (passed : runChain platform exchange.middlewareEnv exchange.request exchange.request.route.chain { store } =
        (.ok (), progress))
      (present : progress.locals = some locals) (leaves : LeavesFiles store progress.store) :
      FileStep platform store action (prepareUploads exchange.env locals.userId files progress.store).2

theorem fileStep (platform : Platform) (store : Store) (action : Env × Action) :
    FileStep platform store action (act platform store action) := by
  obtain ⟨env, action⟩ := action
  cases action with
  | request exchange =>
      change FileStep platform store _ (handle platform exchange.middlewareEnv exchange.env exchange.request store).2
      have leaves := runChain_leavesFiles platform exchange.middlewareEnv exchange.request
        exchange.request.route.chain store
      obtain ⟨exception, progress, failed, same⟩ | ⟨progress, passed, same⟩ :=
        handle_cases platform exchange.middlewareEnv exchange.env exchange.request store
      · rw [failed] at leaves
        rw [same]
        exact .adds (.of_leaves leaves)
      · rw [passed] at leaves
        rw [same]
        by_cases uploads : exchange.request.route.uploads = false
        · exact .adds ((AddsNoFiles.of_leaves leaves).trans (controller_addsNoFiles _ _ _ uploads))
        · cases route : exchange.request.route with
          | upload dto =>
              have authenticated := passed
              rw [route] at authenticated
              obtain ⟨locals, -, -, present, -⟩ := runChain_ok authenticated
              rw [present]
              unfold controller
              rw [route]
              cases dto with
              | none => exact .adds (.of_leaves leaves)
              | some files =>
                  simp only [answerValid, answer_store]
                  exact .prepares exchange files progress locals rfl route passed present leaves
          | _ =>
              rw [route] at uploads
              exact absurd rfl uploads
  | createPrivateMessage senderId dto =>
      obtain same | ⟨message, uploads, saves⟩ := createPrivateMessage_files platform env senderId dto store
      · exact .adds (.of_sameFiles same)
      · exact .saves _ _ _ message uploads saves
  | createGroupMessage senderId dto =>
      obtain same | ⟨message, uploads, saves⟩ := createGroupMessage_files platform env senderId dto store
      · change FileStep platform store _ (createGroupMessage platform env senderId dto store).2
        rw [same]
        exact .adds (.refl store)
      · exact .saves _ _ _ message uploads saves
  | validateGroupInvitation actorId dto =>
      exact .adds (.of_leaves (groupStep env (.validateGroupInvitation actorId dto) store).leavesFiles)
  | acceptGroupInvitation conversationId userId =>
      exact .adds (.of_leaves (groupStep env (.acceptGroupInvitation conversationId userId) store).leavesFiles)
  | rejectGroupInvitation conversationId userId =>
      exact .adds (.of_leaves (groupStep env (.rejectGroupInvitation conversationId userId) store).leavesFiles)
  | confirmDelivery userId dto => exact .adds (.of_sameFiles (confirmDelivery_sameFiles env userId dto store))
  | updateLastSeenAt userId =>
      exact .adds (.of_leaves (updateLastSeenAt_accountStep env store userId).leavesFiles)
  | syncPendingMessages connected userId =>
      exact .adds (.of_sameFiles (syncPendingMessages_sameFiles platform env connected userId store))
  | removeInvalidSubscription endpoint =>
      exact .adds (.of_leaves (unsubscribeWeb_accountStep env store endpoint).leavesFiles)
  | putObject storageKey => exact .adds (.of_same rfl rfl rfl)
  | deleteMessagesJob => exact .adds (.deleteMessagesJob env store)
  | adminSeed => exact .adds (.of_leaves (adminSeed_leavesFiles platform env store))

variable {prepared : PendingUpload → Prop}

theorem Sourced.shrink (sourced : Sourced prepared store) (adds : AddsNoFiles store next) :
    Sourced prepared next where
  uploads upload inside := sourced.uploads upload (adds.uploads upload inside)
  attachments message inside attachment present linked userId sender := by
    rcases adds.messages message inside with kept | cleared
    · exact sourced.attachments message kept attachment (adds.attachments attachment present) linked userId sender
    · rw [cleared] at sender
      cases sender

theorem Sourced.weaken {known : PendingUpload → Prop} (sourced : Sourced prepared store)
    (weaker : ∀ upload, prepared upload → known upload) : Sourced known store where
  uploads upload inside := weaker upload (sourced.uploads upload inside)
  attachments message inside attachment present linked userId sender := by
    obtain ⟨upload, source, comes⟩ :=
      sourced.attachments message inside attachment present linked userId sender
    exact ⟨upload, weaker upload source, comes⟩

/-- A saved message takes its files from uploads of its sender that have not expired. -/
theorem Sourced.saves {now : Nat} {senderId : Uuid} {attachments : List MessageAttachmentDto}
    {message : Message} {uploads : List PendingUpload} (sourced : Sourced prepared store)
    (before : Consistent store) (saves : SavesMessage now senderId attachments message uploads store next) :
    Sourced prepared next where
  uploads upload inside := sourced.uploads upload (saves.pendingUploads upload inside)
  attachments other inside attachment present linked userId sender := by
    rw [saves.messages, List.mem_append, List.mem_singleton] at inside
    rcases saves.attachments attachment present with old | ⟨upload, listed, id, rfl⟩
    · rcases inside with kept | rfl
      · exact sourced.attachments other kept attachment old linked userId sender
      · -- an attachment of an earlier state belongs to no fresh message
        have spent := (before.files.attachments attachment old).1
        rw [linked] at spent
        exact absurd spent (Nat.not_lt_of_le saves.fresh)
    · rcases inside with kept | rfl
      · have spent := before.messages.spent other kept
        rw [← linked] at spent
        exact absurd spent (Nat.not_lt_of_le saves.fresh)
      · rw [saves.sender] at sender
        cases sender
        have usable := findUploads_usable saves.found upload listed
        refine ⟨upload, sourced.uploads upload usable.pending, usable.owner, rfl, rfl, rfl, rfl, ?_⟩
        rw [saves.time]
        exact usable.current

theorem Sourced.uploaded (sourced : Sourced prepared store) (env : Env) (userId : Uuid) (files : List FileDto)
    (prepares : ∀ upload ∈ (prepareUploads env userId files store).2.pendingUploads,
      upload.userId = userId → upload ∉ store.pendingUploads → prepared upload) :
    Sourced prepared (prepareUploads env userId files store).2 := by
  rw [prepareUploads_store] at prepares ⊢
  obtain ⟨rows, supply, shape, -, fresh, -⟩ :=
    createUploads_shape env userId (addHours (jsDate env.now) 24) 0 files store
  rw [shape] at prepares ⊢
  refine ⟨?_, sourced.attachments⟩
  intro upload inside
  by_cases old : upload ∈ store.pendingUploads
  · exact sourced.uploads upload old
  · rcases List.mem_append.mp inside with kept | new
    · exact absurd kept old
    · exact prepares upload inside (fresh upload new).owner old

/-- Each action keeps the files sourced when the uploads that it prepares count as prepared. -/
theorem Sourced.act (sourced : Sourced prepared store) (before : Consistent store) (action : Env × Action)
    (prepares : ∀ upload, Prepares platform store action upload → prepared upload) :
    Sourced prepared (act platform store action) := by
  have step := fileStep platform store action
  generalize Messinger.act platform store action = next at step ⊢
  cases step with
  | adds none => exact sourced.shrink none
  | saves now senderId attachments message uploads saves => exact sourced.saves before saves
  | prepares exchange files progress locals request route passed present leaves =>
      apply (sourced.shrink (.of_leaves leaves)).uploaded
      intro upload inside owner new
      rw [leaves.uploads] at new
      refine prepares upload ⟨exchange, files, progress, locals, request, route, passed, present, owner.symm, ?_, new⟩
      rw [owner]
      exact inside

/-- Different pending uploads have different identifiers. -/
def UploadsApart (store : Store) : Prop :=
  ∀ first ∈ store.pendingUploads, ∀ second ∈ store.pendingUploads, first.id = second.id → first = second

theorem UploadsApart.shrink (apart : UploadsApart store)
    (less : ∀ upload ∈ next.pendingUploads, upload ∈ store.pendingUploads) : UploadsApart next :=
  fun first inside second present => apart first (less first inside) second (less second present)

theorem UploadsApart.uploaded (apart : UploadsApart store) (files : FilesApart store) (env : Env) (userId : Uuid)
    (dtos : List FileDto) : UploadsApart (prepareUploads env userId dtos store).2 := by
  rw [prepareUploads_store]
  obtain ⟨rows, supply, shape, -, fresh, distinct⟩ :=
    createUploads_shape env userId (addHours (jsDate env.now) 24) 0 dtos store
  rw [shape]
  have earlier {old new : PendingUpload} (kept : old ∈ store.pendingUploads) (added : new ∈ rows) : old.id < new.id := by
    have spent := (files.uploads old kept).2
    have first := (fresh new added).fresh
    exact Nat.lt_of_lt_of_le (Nat.lt_of_lt_of_le (Nat.lt_add_of_pos_right Nat.two_pos) spent) first
  intro first inside second present same
  obtain old | new := List.mem_append.mp inside
  · obtain kept | added := List.mem_append.mp present
    · exact apart first old second kept same
    · exact absurd same (Nat.ne_of_lt (earlier old added))
  · obtain kept | added := List.mem_append.mp present
    · exact absurd same (Nat.ne_of_gt (earlier kept new))
    · exact List.inj_on_of_nodup_map distinct new added same

theorem UploadsApart.act (apart : UploadsApart store) (before : Consistent store) (action : Env × Action) :
    UploadsApart (act platform store action) := by
  have step := fileStep platform store action
  generalize Messinger.act platform store action = next at step ⊢
  cases step with
  | adds none => exact apart.shrink none.uploads
  | saves now senderId attachments message uploads saves => exact apart.shrink saves.pendingUploads
  | prepares exchange files progress locals request route passed present leaves =>
      exact (apart.shrink (AddsNoFiles.of_leaves leaves).uploads).uploaded (leaves.consistent before).files _ _ _

end Steps

theorem Reachable.uploadsApart {platform : Platform} {store : Store} (reachable : Reachable platform store) :
    UploadsApart store := by
  obtain ⟨actions, rfl⟩ := reachable
  have both := run_invariant (act platform) (fun store => UploadsApart store ∧ Consistent store)
    (fun store action both => ⟨both.1.act both.2 action, both.2.act platform action⟩) actions {}
  have initial : Reachable platform {} := ⟨[], rfl⟩
  exact (both ⟨fun first inside => absurd inside List.not_mem_nil, initial.consistent⟩).1

/-- The files of every state come from uploads that the run has prepared before it. -/
theorem sourced_at (platform : Platform) (actions : List (Env × Action)) (position : Nat) :
    Sourced (PreparedBefore platform actions position) (stateAt (act platform) {} actions position) ∧
      Consistent (stateAt (act platform) {} actions position) := by
  apply stateAt_recorded (act platform) (Prepares platform) fun prepared store => Sourced prepared store ∧ Consistent store
  · exact fun prepared known store weaker both => ⟨both.1.weaken weaker, both.2⟩
  · have initial : Reachable platform {} := ⟨[], rfl⟩
    refine ⟨⟨?_, ?_⟩, initial.consistent⟩
    · exact fun upload inside => absurd inside List.not_mem_nil
    · exact fun message inside => absurd inside List.not_mem_nil
  · exact fun prepared store action both prepares =>
      ⟨both.1.act both.2 action prepares, both.2.act platform action⟩

section Copies
variable {attachments others : List MessageAttachmentDto}

/-- The lookup reads nothing of the list but its identifiers. -/
theorem findUploads_ids (now : Nat) (userId : Uuid) (store : Store)
    (same : attachments.map MessageAttachmentDto.id = others.map MessageAttachmentDto.id) :
    findUploads now userId store attachments = findUploads now userId store others := by
  induction attachments generalizing others with
  | nil =>
      cases others with
      | nil => rfl
      | cons other rest => cases same
  | cons attachment rest ih =>
      cases others with
      | nil => cases same
      | cons other remaining =>
          rw [List.map_cons, List.map_cons, List.cons.injEq] at same
          unfold findUploads
          rw [same.1, ih same.2]

theorem persistMessage_ids (now : Nat) (senderId conversationId : Uuid) (members : List ConversationMember)
    (ciphered : CipheredMessage) (content : CodeUnits)
    (same : attachments.map MessageAttachmentDto.id = others.map MessageAttachmentDto.id) :
    persistMessage now senderId conversationId members ciphered content attachments =
      persistMessage now senderId conversationId members ciphered content others := by
  funext store
  unfold persistMessage processMessageAttachments
  simp only [findUploads_ids _ _ _ same]

end Copies

/-- Every attachment of a message comes from an upload that its sender has prepared before and that had not
expired, and two lists with the same identifiers attach the same rows. -/
theorem attachments_come_from_uploads (platform : Platform) :
    (∀ actions position, let store := stateAt (act platform) {} actions position
      ∀ message ∈ store.messages, ∀ attachment ∈ store.attachments, attachment.messageId = message.id →
        ∀ userId, message.senderId = some userId →
          ∃ upload, PreparedBefore platform actions position upload ∧
            ComesFrom userId message attachment upload) ∧
      (∀ env senderId dto others store,
        others.map MessageAttachmentDto.id = dto.attachments.map MessageAttachmentDto.id →
          createPrivateMessage platform env senderId { dto with attachments := others } store =
            createPrivateMessage platform env senderId dto store) ∧
      ∀ env senderId dto others store,
        others.map MessageAttachmentDto.id = dto.attachments.map MessageAttachmentDto.id →
          createGroupMessage platform env senderId { dto with attachments := others } store =
            createGroupMessage platform env senderId dto store := by
  refine ⟨?_, ?_, ?_⟩
  · intro actions position store
    exact (sourced_at platform actions position).1.attachments
  · intro env senderId dto others store same
    unfold createPrivateMessage createPrivateMessageBody
    simp only [persistMessage_ids _ _ _ _ _ _ same]
  · intro env senderId dto others store same
    unfold createGroupMessage
    simp only [persistMessage_ids _ _ _ _ _ _ same]

/-- The client gives its upload another file name, and an object that it does not own. -/
def renamedCopy : MessageAttachmentDto :=
  { id := 3, storageKey := ['x'], fileName := ['y'], contentType := ['z'], size := 9 }

/-- User 0 uploads a file of one byte and sends it to user 1 with the changed copy. -/
def renamedUpload : List (Env × Action) :=
  failedCleanup.take 5 ++
    [(clock 7 0, .createPrivateMessage 0 { receiverId := uuidText 1, content := [104], attachments := [renamedCopy] })]

def renamedMessage : Message :=
  newMessage 7000000 0 5 (cipherMessage plainPlatform (clock 7 0) [104]) 6

/-- The row has the key and the size of the upload, and neither name nor type. -/
def renamedAttachment : MessageAttachment :=
  { id := 8, messageId := 6, storageKey := ⟨0, 4⟩, fileName := [], contentType := [], size := 1, createdAt := 7000000 }

theorem renamed_upload_comes_from_upload :
    (∃ upload, PreparedBefore plainPlatform renamedUpload 6 upload ∧
      ComesFrom 0 renamedMessage renamedAttachment upload) ∧
      createPrivateMessage plainPlatform (clock 7 0) 0
          { receiverId := uuidText 1, content := [104], attachments := [renamedCopy] } {} =
        createPrivateMessage plainPlatform (clock 7 0) 0
          { receiverId := uuidText 1, content := [104], attachments := [{ id := 3 }] } {} :=
  ⟨(attachments_come_from_uploads plainPlatform).1 renamedUpload 6 renamedMessage (by decide) renamedAttachment
      (by decide) rfl 0 rfl,
    (attachments_come_from_uploads plainPlatform).2.1 (clock 7 0) 0
      { receiverId := uuidText 1, content := [104], attachments := [{ id := 3 }] } [renamedCopy] {} rfl⟩

end Messinger
