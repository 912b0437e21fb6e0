import Messinger.Proof.ConversationContents

namespace Messinger
open Library ConversationMemberRepository ConversationRepository ConversationService MessageService
  StorageService

/-- The request names the message together with its conversation. -/
def DeleteMessagesDto.names (dto : DeleteMessagesDto) (message : Message) : Bool :=
  message.conversationId == dto.conversationId && dto.messagesIds.contains message.id

section Deletions
variable {store : Store} {env : Env} {conversationId userId : Uuid}

/-- The request deletes what it names when the transaction commits, whoever sends it. -/
theorem deleteMessages_shape (env : Env) (dto : DeleteMessagesDto) (store : Store) :
    ((env.succeeds 0 = false ∨ dto.messagesIds = []) ∧ (Controllers.deleteMessages env dto store).2 = store) ∨
      env.succeeds 0 = true ∧ ∃ kept : StorageKey → Bool, (Controllers.deleteMessages env dto store).2 =
          { store.deleteMessages dto.names with bucket := store.bucket.filter kept } ∧
        ∀ key ∉ AdminService.storageKeysOf store (store.messages.filter dto.names), kept key = true := by
  unfold Controllers.deleteMessages MessageService.deleteMessages transaction MessageRepository.deleteMessages
  by_cases nothing : dto.messagesIds = []
  · refine .inl ⟨.inr nothing, ?_⟩
    simp only [if_pos nothing]
    cases env.succeeds 0 <;> rfl
  · simp only [if_neg nothing]
    cases commits : env.succeeds 0 with
    | false => exact .inl ⟨.inl rfl, rfl⟩
    | true =>
        refine .inr ⟨rfl, ?_⟩
        simp only [if_true, answer_store]
        obtain ⟨kept, shape, spared⟩ := deleteFiles_shape env
          (AdminService.storageKeysOf store (store.messages.filter dto.names))
          (store.deleteMessages dto.names)
        exact ⟨kept, shape, spared⟩

/-- A request that deletes no message of the conversation leaves its content. -/
theorem contentOf_deleteMessagesRequest (before : Consistent store) (dto : DeleteMessagesDto)
    (harmless : env.succeeds 0 = true →
      ∀ message ∈ store.messages, dto.names message = true → message.conversationId ≠ conversationId) :
    contentOf (Controllers.deleteMessages env dto store).2 conversationId = contentOf store conversationId := by
  obtain ⟨-, same⟩ | ⟨commits, kept, shape, spared⟩ := deleteMessages_shape env dto store
  · rw [same]
  · rw [shape]
    have apart := harmless commits
    have left := contentOf_deleteMessages before.messages.distinct dto.names apart
    refine Eq.trans (contentOf_withBucket kept ?_) left
    intro attachment inside
    apply spared
    intro listed
    -- an object of a deleted message is not shared with a message of this conversation
    have owned : attachment ∈ attachmentsIn store conversationId := by
      have same : attachmentsIn (store.deleteMessages dto.names) conversationId =
          attachmentsIn store conversationId := congrArg ConversationContent.attachments left
      rw [← same]
      exact inside
    obtain ⟨present, ofConversation⟩ := List.mem_filter.mp owned
    obtain ⟨message, stored, place, id⟩ := owns_iff.mp ofConversation
    obtain ⟨deleted, selected, key⟩ := List.mem_flatMap.mp listed
    obtain ⟨other, ofDeleted, same⟩ := List.mem_map.mp key
    obtain ⟨otherPresent, otherId⟩ := List.mem_filter.mp ofDeleted
    obtain ⟨deletedStored, named⟩ := List.mem_filter.mp selected
    have shared := before.files.shared other otherPresent attachment present same
    have equal := List.inj_on_of_nodup_map before.messages.distinct deletedStored stored
      ((beq_iff_eq.mp otherId).symm.trans (shared.trans id.symm))
    exact apart deleted deletedStored named (equal ▸ place)

/-- Deleting another conversation leaves the content of this one. -/
theorem contentOf_deleteConversation (before : Consistent store) {other : Uuid} (apart : other ≠ conversationId) :
    contentOf (deleteConversation other store) conversationId = contentOf store conversationId := by
  have left := contentOf_deleteMessages before.messages.distinct (fun message => message.conversationId == other)
    (fun message _ selected same => apart ((beq_iff_eq.mp selected).symm.trans same))
  have same : SameContent (store.deleteMessages fun message => message.conversationId == other)
      (deleteConversation other store) := ⟨rfl, rfl, rfl, rfl⟩
  rw [same.contentOf, left]

/-- Only an owner deletes a group, and owners are active members. -/
theorem contentOf_deleteGroup (before : Consistent store) (other : Uuid)
    (stranger : existsMember store conversationId userId = false) :
    contentOf (deleteGroup env userId other store).2 conversationId = contentOf store conversationId := by
  obtain ⟨exception, failed⟩ | ⟨conversation, owner, found, type, foundOwner, role, done⟩ :=
    deleteGroup_cases env userId other store
  · rw [failed]
  · rw [done]
    apply contentOf_deleteConversation before
    rintro rfl
    obtain ⟨inside, id⟩ := findById_some found
    have deleted := existsMember_eq_false stranger foundOwner
    have active := before.governed.groups conversation inside type userId owner.entry
      (by rw [id]; exact rosterOf_eq_some foundOwner) (by simp [ConversationMember.entry, role])
    unfold ConversationMember.entry at active
    simp only [Option.isNone_iff_eq_none] at active
    rw [active] at deleted
    cases deleted

/-- Only an active member deletes a private conversation. -/
theorem contentOf_deletePrivate (before : Consistent store) (other : Uuid)
    (stranger : existsMember store conversationId userId = false) :
    contentOf (deletePrivateConversation env userId other store).2 conversationId =
      contentOf store conversationId := by
  have step := deletionStep env userId other store
  generalize (deletePrivateConversation env userId other store).2 = next at step ⊢
  cases step with
  | refused => rfl
  | hides => exact SameContent.contentOf ⟨rfl, rfl, rfl, rfl⟩ conversationId
  | drops conversation member found type foundMember active =>
      have apart : other ≠ conversationId := by
        rintro rfl
        have deleted := existsMember_eq_false stranger foundMember
        rw [active] at deleted
        cases deleted
      have same : SameContent (deleteConversation other store)
          (deleteConversation other (markConversationAsDeleted env.now other userId store)) :=
        ⟨rfl, rfl, rfl, rfl⟩
      rw [same.contentOf]
      exact contentOf_deleteConversation before apart

/-- A request that commits deletes the stored messages that it names. -/
theorem contentOf_deleteMessagesRequest_ne (dto : DeleteMessagesDto) (commits : env.succeeds 0 = true)
    {message : Message} (stored : message ∈ store.messages) (place : message.conversationId = conversationId)
    (named : dto.names message = true) :
    contentOf (Controllers.deleteMessages env dto store).2 conversationId ≠ contentOf store conversationId := by
  intro same
  have listed : message ∈ (contentOf store conversationId).messages :=
    List.mem_filter.mpr ⟨stored, beq_iff_eq.mpr place⟩
  rw [← same] at listed
  have remains : message ∈ (Controllers.deleteMessages env dto store).2.messages :=
    (List.mem_filter.mp listed).1
  obtain ⟨fails | nothing, -⟩ | ⟨-, kept, shape, -⟩ := deleteMessages_shape env dto store
  · rw [commits] at fails
    cases fails
  · unfold DeleteMessagesDto.names at named
    rw [nothing, List.contains_nil, Bool.and_false] at named
    cases named
  · rw [shape] at remains
    have spared := (List.mem_filter.mp remains).2
    rw [named] at spared
    cases spared

end Deletions

end Messinger
