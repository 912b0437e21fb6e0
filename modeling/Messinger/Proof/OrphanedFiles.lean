import Messinger.Proof.FileDeletions

namespace Messinger
open Library ConversationMemberRepository ConversationRepository ConversationService StorageService

/-- The operation hands over every file whose last attachment it removes. -/
def FilesFollow (env : Env) (store : Store) (removal : Removal) : Prop :=
  ∀ attachment ∈ store.attachments,
    (∀ other ∈ (runRemoval env store removal).attachments, other.storageKey ≠ attachment.storageKey) →
    attachment.storageKey ∈ filesPassed env store removal

/-- Every file in the conversation is attached to a message outside it as well. -/
def SharesFiles (store : Store) (conversationId : Uuid) : Prop :=
  ∀ attachment ∈ store.attachments, store.owns conversationId attachment.messageId = true →
    ∃ other ∈ store.attachments, store.owns conversationId other.messageId = false ∧
      other.storageKey = attachment.storageKey

/-- Deleting a group, or a private conversation that nobody else is in, finds no file of its own there. -/
def FindsNoFile (env : Env) (store : Store) : Removal → Prop
  | .deleteGroup userId conversationId =>
      (deleteGroupChecks store userId conversationId).isOk = true → env.succeeds 0 = true →
        SharesFiles store conversationId
  | .deletePrivateConversation userId conversationId =>
      (deletePrivateConversationChecks store userId conversationId).isOk = true → env.succeeds 0 = true →
        (∀ member ∈ getMembers store conversationId, member.userId = userId) → SharesFiles store conversationId
  | .deleteUser _ => True
  | .deleteMessages _ => True
  | .deleteMessagesJob => True

section Operations
variable {env : Env} {store : Store}

/-- An operation that keeps all attachments removes no last one. -/
theorem filesFollow_of_kept {removal : Removal}
    (kept : (runRemoval env store removal).attachments = store.attachments) : FilesFollow env store removal := by
  intro attachment stored last
  rw [kept] at last
  exact absurd rfl (last attachment stored)

/-- An operation that hands over the files of the messages it deletes hands over enough. -/
theorem filesFollow_of_passed {removal : Removal} {doomed : Message → Bool}
    (rows : (runRemoval env store removal).attachments = (store.deleteMessages doomed).attachments)
    (passed : filesPassed env store removal =
      AdminService.storageKeysOf store (store.messages.filter doomed)) : FilesFollow env store removal := by
  intro attachment stored last
  rw [rows] at last
  rw [passed, mem_storageKeysOf_filter]
  exact ⟨attachment, stored, rfl, fun remains => last attachment remains rfl⟩

theorem filesFollow_of_filesFirst {removal : Removal} {doomed : Message → Bool}
    (first : FilesFirst env doomed store (runRemoval env store removal))
    (passed : filesPassed env store removal =
      AdminService.storageKeysOf store (store.messages.filter doomed)) : FilesFollow env store removal := by
  have rows := first.attachments
  split at rows
  · exact filesFollow_of_passed rows passed
  · exact filesFollow_of_kept rows

/-- The attachments outside the conversation outlive it. -/
theorem mem_attachments_deleteConversation {conversationId : Uuid} {attachment : MessageAttachment} :
    attachment ∈ (deleteConversation conversationId store).attachments ↔
      attachment ∈ store.attachments ∧ store.owns conversationId attachment.messageId = false := by
  have rows : (deleteConversation conversationId store).attachments =
    (store.deleteMessages fun message => message.conversationId == conversationId).attachments := rfl
  rw [rows, mem_attachments_deleteMessages, Bool.eq_false_iff, ne_eq, owns_iff]
  apply and_congr_right
  intro _
  simp only [beq_eq_false_iff_ne, not_exists, not_and]
  exact forall_congr' fun message => forall_congr' fun _ =>
    ⟨fun apart place id => apart id place, fun apart id place => apart place id⟩

/-- A cascade loses no file exactly when the conversation has none of its own. -/
theorem filesFollow_cascade_iff {removal : Removal} {conversationId : Uuid}
    (rows : (runRemoval env store removal).attachments = (deleteConversation conversationId store).attachments)
    (passed : filesPassed env store removal = []) :
    FilesFollow env store removal ↔ SharesFiles store conversationId := by
  unfold FilesFollow SharesFiles
  rw [rows, passed]
  constructor
  · intro follow attachment stored _
    by_contra alone
    push Not at alone
    refine absurd (follow attachment stored ?_) List.not_mem_nil
    intro other remains
    obtain ⟨present, outside⟩ := mem_attachments_deleteConversation.mp remains
    exact alone other present outside
  · intro shares attachment stored last
    cases owned : store.owns conversationId attachment.messageId with
    | false => exact absurd rfl (last attachment (mem_attachments_deleteConversation.mpr ⟨stored, owned⟩))
    | true =>
        obtain ⟨other, present, outside, same⟩ := shares attachment stored owned
        exact absurd same (last other (mem_attachments_deleteConversation.mpr ⟨present, outside⟩))

/-- A call with checks and a transaction writes what its body writes, or nothing. -/
theorem filesFollow_guarded_iff {removal : Removal} {checked condition : Prop} [Decidable checked] (written : Store)
    (next : runRemoval env store removal = if checked ∧ env.succeeds 0 = true then written else store)
    (done : checked → runRemoval env store removal = written → (FilesFollow env store removal ↔ condition)) :
    FilesFollow env store removal ↔ (checked → env.succeeds 0 = true → condition) := by
  by_cases runs : checked ∧ env.succeeds 0 = true
  · obtain ⟨passed, commits⟩ := runs
    rw [if_pos ⟨passed, commits⟩] at next
    rw [done passed next, forall_prop_of_true passed, forall_prop_of_true commits]
  · rw [if_neg runs] at next
    exact iff_of_true (filesFollow_of_kept (by rw [next])) fun passed commits => absurd ⟨passed, commits⟩ runs

theorem deleteGroup_files_iff (userId conversationId : Uuid) :
    FilesFollow env store (.deleteGroup userId conversationId) ↔
      FindsNoFile env store (.deleteGroup userId conversationId) := by
  apply filesFollow_guarded_iff (deleteConversation conversationId store)
  · change (deleteGroup env userId conversationId store).2 = _
    unfold deleteGroup
    cases deleteGroupChecks store userId conversationId with
    | error exception => rfl
    | ok members => cases env.succeeds 0 <;> rfl
  · intro _ next
    exact filesFollow_cascade_iff (congrArg Store.attachments next) rfl

/-- The conversation goes when the caller was its last active member. -/
theorem getRemaining_marked_iff {now : Nat} {userId conversationId : Uuid} :
    getRemainingConversations (markConversationAsDeleted now conversationId userId store) conversationId = 0 ↔
      ∀ member ∈ getMembers store conversationId, member.userId = userId := by
  unfold getRemainingConversations
  rw [List.length_eq_zero_iff, List.eq_nil_iff_forall_not_mem]
  constructor
  · intro nobody member active
    by_contra other
    refine nobody member ?_
    obtain ⟨inside, held⟩ := List.mem_filter.mp active
    refine List.mem_filter.mpr ⟨mem_updateWhere.mpr ⟨member, inside, ?_⟩, held⟩
    have apart : member.key ≠ (conversationId, userId) := fun same => other (congrArg Prod.snd same)
    simp only [decide_eq_true_eq, if_neg apart]
  · intro alone member remains
    obtain ⟨inside, held⟩ := List.mem_filter.mp remains
    obtain ⟨old, present, same⟩ := mem_updateWhere.mp inside
    simp only [decide_eq_true_eq] at same
    split at same
    · rw [same] at held
      simp at held
    · next apart =>
        rw [same] at held
        refine apart (Prod.ext ?_ (alone old (List.mem_filter.mpr ⟨present, held⟩)))
        exact beq_iff_eq.mp (Bool.and_eq_true _ _ ▸ held).1

theorem deletePrivate_files_iff (userId conversationId : Uuid) :
    FilesFollow env store (.deletePrivateConversation userId conversationId) ↔
      FindsNoFile env store (.deletePrivateConversation userId conversationId) := by
  apply filesFollow_guarded_iff (deletePrivateConversationBody env.now userId conversationId store)
  · change (deletePrivateConversation env userId conversationId store).2 = _
    unfold deletePrivateConversation
    cases deletePrivateConversationChecks store userId conversationId with
    | error exception => rfl
    | ok nothing => cases env.succeeds 0 <;> rfl
  · intro _ next
    unfold deletePrivateConversationBody at next
    simp only [getRemaining_marked_iff] at next
    by_cases alone : ∀ member ∈ getMembers store conversationId, member.userId = userId
    · rw [if_pos alone] at next
      rw [forall_prop_of_true alone]
      refine filesFollow_cascade_iff ?_ rfl
      rw [next]
      rfl
    · rw [if_neg alone] at next
      refine iff_of_true (filesFollow_of_kept ?_) fun present => absurd present alone
      rw [next]
      rfl

theorem deleteMessages_filesFollow (dto : DeleteMessagesDto) : FilesFollow env store (.deleteMessages dto) := by
  obtain ⟨-, same⟩ | ⟨commits, kept, shape, -⟩ := deleteMessages_shape env dto store
  · exact filesFollow_of_kept (congrArg Store.attachments same)
  · have rows : (runRemoval env store (.deleteMessages dto)).attachments =
        (store.deleteMessages dto.names).attachments := by
      change (Controllers.deleteMessages env dto store).2.attachments = _
      rw [shape]
    by_cases nothing : dto.messagesIds = []
    · have none : store.messages.filter dto.names = [] := by
        apply List.filter_eq_nil_iff.mpr
        intro message _ named
        unfold DeleteMessagesDto.names at named
        rw [nothing, List.contains_nil, Bool.and_false] at named
        cases named
      exact filesFollow_of_kept (rows.trans (deleteMessages_none none))
    · refine filesFollow_of_passed rows ?_
      change Controllers.filesOfMessages env dto store = _
      unfold Controllers.filesOfMessages MessageService.deleteMessages MessageRepository.deleteMessages
      rw [commits]
      simp only [if_neg nothing]
      rfl

/-- Every operation hands over the files whose last attachment it removes, exactly when no cascade alone deletes
a conversation with a file of its own. -/
theorem files_follow_iff (env : Env) (store : Store) (removal : Removal) :
    FilesFollow env store removal ↔ FindsNoFile env store removal := by
  cases removal with
  | deleteGroup userId conversationId => exact deleteGroup_files_iff userId conversationId
  | deletePrivateConversation userId conversationId => exact deletePrivate_files_iff userId conversationId
  | deleteUser dto => exact iff_of_true (filesFollow_of_filesFirst (deleteUser_filesFirst env dto store) rfl) trivial
  | deleteMessages dto => exact iff_of_true (deleteMessages_filesFollow dto) trivial
  | deleteMessagesJob =>
      exact iff_of_true (filesFollow_of_filesFirst (deleteMessagesJob_filesFirst env store) rfl) trivial

theorem deletePrivate_bucket (userId conversationId : Uuid) :
    (deletePrivateConversation env userId conversationId store).2.bucket = store.bucket := by
  have step := deletionStep env userId conversationId store
  generalize (deletePrivateConversation env userId conversationId store).2 = next at step ⊢
  cases step with
  | refused | hides | drops => rfl

/-- The files that an operation hands over are those that leave the bucket when every call succeeds. -/
theorem runRemoval_losesFiles (env : Env) (store : Store) (removal : Removal) :
    LosesFiles env (filesPassed env store removal) store (runRemoval env store removal) := by
  cases removal with
  | deleteGroup userId conversationId =>
      apply losesFiles_of_same
      obtain ⟨exception, failed⟩ | ⟨conversation, owner, -, -, -, -, done⟩ :=
        deleteGroup_cases env userId conversationId store
      · exact congrArg (fun outcome => outcome.2.bucket) failed
      · exact congrArg (fun outcome => outcome.2.bucket) done
  | deletePrivateConversation userId conversationId => exact losesFiles_of_same (deletePrivate_bucket _ _)
  | deleteUser dto => exact losesFiles_deleteFiles (deleteUser_filesFirst env dto store).bucket
  | deleteMessages dto =>
      change LosesFiles env (Controllers.filesOfMessages env dto store) store
        (Controllers.deleteMessages env dto store).2
      unfold Controllers.filesOfMessages Controllers.deleteMessages MessageService.deleteMessages transaction
        MessageRepository.deleteMessages
      by_cases nothing : dto.messagesIds = []
      · simp only [if_pos nothing]
        cases env.succeeds 0 <;> exact losesFiles_of_same rfl
      · simp only [if_neg nothing]
        cases env.succeeds 0 with
        | false => exact losesFiles_of_same rfl
        | true =>
            simp only [if_true, answer_store]
            change LosesFiles env _ (store.deleteMessages dto.names) _
            exact losesFiles_deleteFiles rfl
  | deleteMessagesJob => exact losesFiles_deleteFiles (deleteMessagesJob_filesFirst env store).bucket

end Operations

/-- This is the row of a file in a message. -/
def fileRow (id messageId : Uuid) (storageKey : StorageKey) : MessageAttachment :=
  { id, messageId, storageKey, fileName := [], contentType := [], size := 1, createdAt := 2 }

/-- User 1 owns group 10 and is the last one in the private conversation 20, with one file in each. -/
def storedFiles : Store where
  users := [{ id := 1, role := .user, createdAt := 0 }, { id := 2, role := .user, createdAt := 0 }]
  conversations := [{ id := 10, type := .groupType, createdAt := 0, updatedAt := 0 },
    { id := 20, privateKey := some ['1', ':', '2'], type := .privateType, createdAt := 0, updatedAt := 0 }]
  members := [{ conversationId := 10, userId := 1, role := .owner, createdAt := 0 },
    { conversationId := 20, userId := 1, role := .member, createdAt := 0 },
    { conversationId := 20, userId := 2, role := .member, softDeletedAt := some 5, createdAt := 0 }]
  messages := [{ id := 11, conversationId := 10, senderId := some 1, cipheredContent := [], iv := [], authTag := [],
                 createdAt := 1 },
    { id := 21, conversationId := 20, senderId := some 1, cipheredContent := [], iv := [], authTag := [],
      createdAt := 2 }]
  attachments := [fileRow 12 11 ⟨1, 14⟩, fileRow 22 21 ⟨1, 24⟩]
  bucket := [⟨1, 14⟩, ⟨1, 24⟩]
  nextId := 30

/-- The files of a deleted group and of an abandoned private conversation are never handed over. -/
theorem deleted_conversations_lose_files :
    ¬ FilesFollow { now := 9 } storedFiles (.deleteGroup 1 10) ∧
      ¬ FilesFollow { now := 9 } storedFiles (.deletePrivateConversation 1 20) := by
  constructor
  · intro follow
    exact absurd (follow (fileRow 12 11 ⟨1, 14⟩) (by decide) (by decide)) (by decide)
  · intro follow
    exact absurd (follow (fileRow 22 21 ⟨1, 24⟩) (by decide) (by decide)) (by decide)

end Messinger
