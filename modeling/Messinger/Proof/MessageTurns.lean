import Messinger.Proof.MessageCalls
import Messinger.Model.MessageTasks

namespace Messinger
open Library StorageService PendingUploadRepository MessageAttachmentRepository MessageService
  ConversationRepository MessageRepository

theorem findUploads_cons (now : Nat) (userId : Uuid) (store : Store) (attachment : MessageAttachmentDto)
    (rest : List MessageAttachmentDto) :
    findUploads now userId store (attachment :: rest) =
      (findUpload now userId store attachment).bind fun upload =>
        (findUploads now userId store rest).map (upload :: ·) := by
  simp only [findUploads, findUpload]
  cases findByIdAndUser store attachment.id userId with
  | none => rfl
  | some upload =>
      simp only
      split
      · rfl
      · split
        · rfl
        · rfl

/-- Restoring rows touches neither the pending uploads nor the bucket. -/
theorem MessageDraft.saved_files (draft : MessageDraft) (now : Nat) (store : Store) :
    (draft.saved now store).pendingUploads = store.pendingUploads ∧
      (draft.saved now store).bucket = store.bucket := by
  unfold MessageDraft.saved
  generalize draft.restored = restored
  induction restored generalizing store with
  | nil => exact ⟨rfl, rfl⟩
  | cons member rest ih =>
      have kept : (restoreIfDeleted now member.2 draft.conversationId member.1 store).pendingUploads =
            store.pendingUploads ∧
          (restoreIfDeleted now member.2 draft.conversationId member.1 store).bucket = store.bucket := by
        unfold restoreIfDeleted
        split <;> exact ⟨rfl, rfl⟩
      obtain ⟨uploads, bucket⟩ := ih (restoreIfDeleted now member.2 draft.conversationId member.1 store)
      exact ⟨uploads.trans kept.1, bucket.trans kept.2⟩

/-- The sequential transaction looks the uploads up and writes what the draft writes. -/
theorem persistMessage_toOption (now : Nat) (draft : MessageDraft) (content : CodeUnits) (store : Store) :
    (persistMessage now draft.senderId draft.conversationId draft.members draft.ciphered content draft.remaining
        (draft.saved now store)).toOption.map Prod.snd =
      (findUploads now draft.senderId store draft.remaining).toOption.bind fun uploads =>
        (({ draft with remaining := [], found := uploads } : MessageDraft).write now store).toOption.map
          Prod.snd := by
  have same (found : List PendingUpload) :
      ({ draft with remaining := [], found := found } : MessageDraft).saved now store = draft.saved now store := rfl
  obtain ⟨pending, bucket⟩ := draft.saved_files now store
  unfold MessageDraft.write
  simp only [same]
  unfold persistMessage processMessageAttachments saveMessage
  cases (draft.saved now store).hasConversation draft.conversationId &&
      (draft.saved now store).hasUser draft.senderId with
  | false =>
      cases findUploads now draft.senderId store draft.remaining with
      | error exception => rfl
      | ok uploads => rfl
  | true =>
      simp only [if_true]
      have lookup (current : Store) (uploads : current.pendingUploads = (draft.saved now store).pendingUploads)
          (objects : current.bucket = (draft.saved now store).bucket) :
          findUploads now draft.senderId current draft.remaining =
            findUploads now draft.senderId store draft.remaining :=
        findUploads_congr store current (uploads.trans pending) (objects.trans bucket) draft.remaining
      simp only [bind, Except.bind]
      rw [lookup]
      · cases findUploads now draft.senderId store draft.remaining with
        | error exception => rfl
        | ok uploads => rfl
      · rfl
      · rfl

section Alone
variable {platform : Platform}

variable (platform) in
/-- The turns of a message that runs alone look its uploads up one by one. -/
theorem findUploads_alone (env : Env) (store : Store) (draft : MessageDraft) :
    (∃ exception, findUploads env.now draft.senderId store draft.remaining = .error exception ∧
        (List.replicate draft.remaining.length (.resume 0 env)).foldl (uploadSystem platform).advance
          ⟨store, [.message draft]⟩ = ⟨store, []⟩) ∨
      ∃ uploads, findUploads env.now draft.senderId store draft.remaining = .ok uploads ∧
        (List.replicate draft.remaining.length (.resume 0 env)).foldl (uploadSystem platform).advance
          ⟨store, [.message draft]⟩ =
            ⟨store, [.message { draft with remaining := [], found := draft.found ++ uploads }]⟩ := by
  obtain ⟨senderId, conversationId, restored, members, ciphered, remaining, found⟩ := draft
  simp only
  induction remaining generalizing found with
  | nil => exact .inr ⟨[], rfl, by rw [List.append_nil]; rfl⟩
  | cons attachment rest ih =>
      have step : (uploadSystem platform).resume store
          (.message ⟨senderId, conversationId, restored, members, ciphered, attachment :: rest, found⟩) env =
          UploadTask.resume store
            (.message ⟨senderId, conversationId, restored, members, ciphered, attachment :: rest, found⟩) env := rfl
      rw [findUploads_cons, List.length_cons, List.replicate_succ, List.foldl_cons,
        Cooperative.advance_resume_alone, step]
      unfold UploadTask.resume
      simp only
      cases findUpload env.now senderId store attachment with
      | error exception => exact .inl ⟨exception, rfl, Cooperative.foldl_idle (uploadSystem platform) env store rest.length⟩
      | ok upload =>
          simp only [waiting_some]
          obtain ⟨exception, failed, ran⟩ | ⟨uploads, looked, ran⟩ := ih (found ++ [upload])
          · refine .inl ⟨exception, ?_, ran⟩
            rw [failed]
            rfl
          · refine .inr ⟨upload :: uploads, ?_, ?_⟩
            · rw [looked]
              rfl
            · rw [ran, List.append_assoc]
              rfl

/-- The turns of a message that runs alone write what the sequential transaction writes. -/
theorem message_alone (env : Env) (store : Store) (draft : MessageDraft) (begins : draft.found = [])
    (content : CodeUnits) :
    (List.replicate (draft.remaining.length + 1) (.resume 0 env)).foldl (uploadSystem platform).advance
        ⟨store, [.message draft]⟩ =
      ⟨if env.succeeds 0 then
          ((persistMessage env.now draft.senderId draft.conversationId draft.members draft.ciphered content
            draft.remaining (draft.saved env.now store)).toOption.map Prod.snd).getD store
        else store, []⟩ := by
  rw [persistMessage_toOption env.now draft content store, List.replicate_succ', List.foldl_append]
  obtain ⟨exception, failed, ran⟩ | ⟨uploads, looked, ran⟩ :=
    findUploads_alone platform env store draft
  · rw [failed, ran]
    cases env.succeeds 0 <;> rfl
  · rw [looked, ran, begins, List.nil_append]
    exact congrArg (fun state => Library.Progress.mk state []) (transaction_snd _ _ _)

/-- A group message that runs alone does what `createGroupMessage` does. -/
theorem createGroupMessage_alone (env : Env) (senderId : Uuid) (dto : GroupMessageDto) (store : Store) :
    (Turn.call (env, .createGroupMessage senderId dto) ::
        List.replicate (dto.attachments.length + 1) (.resume 0 env)).foldl (uploadSystem platform).advance
          ⟨store, []⟩ =
      ⟨(createGroupMessage platform env senderId dto store).2, []⟩ := by
  have begins : (uploadSystem platform).start store (env, .createGroupMessage senderId dto) =
      UploadTask.start platform store (env, .createGroupMessage senderId dto) := rfl
  rw [List.foldl_cons, Cooperative.advance_call_alone, begins]
  unfold UploadTask.start createGroupMessage guarded
  simp only
  cases createGroupMessageChecks store senderId dto.conversationId with
  | error exception => exact Cooperative.foldl_idle (uploadSystem platform) env store _
  | ok members =>
      simp only [waiting_some]
      rw [transaction_snd, toOption_map_bind _ (fun pair => ((pair.1, members), pair.2)) fun _ => rfl]
      exact message_alone env store _ rfl dto.content

/-- A private message that runs alone does what `createPrivateMessage` does. Its two transactions are the first
and the second call of the database. -/
theorem createPrivateMessage_alone (env later : Env) (now : later.now = env.now)
    (commits : later.succeeds 0 = env.succeeds 1) (senderId : Uuid) (dto : PrivateMessageDto) (store : Store) :
    (Turn.call (env, .createPrivateMessage senderId dto) ::
        List.replicate (dto.attachments.length + 1) (.resume 0 later)).foldl (uploadSystem platform).advance
          ⟨store, []⟩ =
      ⟨(createPrivateMessage platform env senderId dto store).2, []⟩ := by
  have begins : (uploadSystem platform).start = UploadTask.start platform := rfl
  rw [List.foldl_cons, Cooperative.advance_call_alone, begins]
  unfold UploadTask.start createPrivateMessage
  simp only
  generalize ConversationService.getOrCreatePrivateConversation platform env
    { type := .privateType, creatorId := uuidText senderId, members := [dto.receiverId] } store = outcome
  obtain ⟨result, opened⟩ := outcome
  cases result with
  | error exception => exact Cooperative.foldl_idle (uploadSystem platform) later opened _
  | ok conversation =>
      simp only [waiting_some]
      rw [transaction_snd, ← commits, ← now,
        toOption_map_bind _ (fun pair => ((getConversationMembers opened conversation.id, _), pair.2)) fun _ => rfl]
      exact message_alone later opened _ rfl dto.content

/-- The database answers this turn as it answers the call at the given index. -/
def Env.answering (env : Env) (index : Nat) : Env := { env with succeeds := fun _ => env.succeeds index }

/-- The rows after the first one are inserted into the store that the first one leaves. -/
theorem createUploads_cons (env : Env) (userId : Uuid) (expiresAt index : Nat) (file : FileDto)
    (rest : List FileDto) (store : Store) :
    (createUploads env userId expiresAt index (file :: rest) store).2 =
      (createUploads env userId expiresAt (index + 1) rest
        (createUploads (env.answering index) userId expiresAt 0 [file] store).2).2 := by
  by_cases allowed : (env.succeeds index && store.hasUser userId && fitsColumns file) = true
  · have here : ((env.answering index).succeeds 0 && store.hasUser userId && fitsColumns file) = true := allowed
    have clock : (env.answering index).now = env.now := rfl
    simp only [createUploads, allowed, here, clock, if_true]
    generalize createUploads env userId expiresAt (index + 1) rest _ = outcome
    obtain ⟨result, next⟩ := outcome
    cases result <;> rfl
  · have here : ¬ ((env.answering index).succeeds 0 && store.hasUser userId && fitsColumns file) = true := allowed
    simp only [createUploads, if_neg allowed, if_neg here]

/-- The turns of an upload that runs alone insert its rows one by one. -/
theorem createUploads_alone (env : Env) (userId : Uuid) (expiresAt : Nat) (files : List FileDto) (index : Nat)
    (store : Store) :
    ((List.range' index files.length).map fun place => Turn.resume 0 (env.answering place)).foldl
        (uploadSystem platform).advance ⟨store, [.createUploads userId expiresAt files]⟩ =
      ⟨(createUploads env userId expiresAt index files store).2, [.createUploads userId expiresAt []]⟩ := by
  have resumes : (uploadSystem platform).resume = UploadTask.resume := rfl
  induction files generalizing index store with
  | nil => rfl
  | cons file rest ih =>
      rw [List.length_cons, List.range'_succ, List.map_cons, List.foldl_cons, Cooperative.advance_resume_alone,
        resumes, createUploads_cons]
      exact ih (index + 1) (createUploads (env.answering index) userId expiresAt 0 [file] store).2

/-- An upload that runs alone does what `prepareUploads` does. -/
theorem prepareUploads_alone (env : Env) (userId : Uuid) (files : List FileDto) (store : Store) :
    (Turn.call (env, .prepareUploads userId files) ::
        (List.range' 0 (files.length + 1)).map fun place => Turn.resume 0 (env.answering place)).foldl
          (uploadSystem platform).advance ⟨store, []⟩ =
      ⟨(prepareUploads env userId files store).2, []⟩ := by
  have prepared : (prepareUploads env userId files store).2 =
      (createUploads env userId (addHours (jsDate env.now) 24) 0 files store).2 := by
    unfold prepareUploads
    generalize createUploads env userId (addHours (jsDate env.now) 24) 0 files store = outcome
    obtain ⟨result, next⟩ := outcome
    cases result with
    | error exception => rfl
    | ok rows => cases env.succeeds files.length <;> rfl
  have begins : (Library.waiting [] ((uploadSystem platform).start store (env, .prepareUploads userId files))) =
      ⟨store, [.createUploads userId (addHours (jsDate env.now) 24) files]⟩ := rfl
  rw [List.foldl_cons, Cooperative.advance_call_alone, begins, List.range'_concat, List.map_append,
    List.foldl_append, createUploads_alone env userId _ files 0 store, prepared]
  rfl

end Alone

end Messinger
