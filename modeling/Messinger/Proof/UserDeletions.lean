import Messinger.Proof.FileDeletions

namespace Messinger
open Library StorageService

namespace AdminService

/-- Every batch of files arrives, and the transaction commits. -/
def DeletionCommits (env : Env) (dto : UserDto) (store : Store) : Prop :=
  AllBatches env (filesOfUser store dto) ∧ env.succeeds 0 = true

instance (env : Env) (dto : UserDto) (store : Store) : Decidable (DeletionCommits env dto store) :=
  inferInstanceAs (Decidable (_ ∧ _))

/-- These are the rows that a committed deletion leaves. -/
def withoutUser (userId : Uuid) (store : Store) : Store :=
  (store.deleteConversations fun id => (conversationsToDelete store userId).contains id).deleteUsers
    fun user => user.id == userId

/-- A deletion that fails has lost some files at most, and one that commits has lost exactly the files that it handed
over. -/
theorem deleteUser_cases (env : Env) (dto : UserDto) (store : Store) :
    (¬ DeletionCommits env dto store ∧ ∃ exception kept,
        deleteUser env dto store = (.error exception, { store with bucket := store.bucket.filter kept })) ∨
      (DeletionCommits env dto store ∧ deleteUser env dto store =
        (.ok (), { withoutUser dto.userId store with
          bucket := store.bucket.filter fun key => !(filesOfUser store dto).contains key })) := by
  unfold deleteUser
  simp only
  obtain ⟨kept, shape, -⟩ := deleteFiles_shape env (filesOfUser store dto) store
  by_cases arrive : AllBatches env (filesOfUser store dto)
  · have done := deleteFiles_ok store arrive
    unfold filesOfUser at done
    rw [done]
    cases commits : env.succeeds 0 with
    | true => exact .inr ⟨⟨arrive, commits⟩, rfl⟩
    | false =>
        refine .inl ⟨?_, .failedCall, _, rfl⟩
        intro both
        rw [both.2] at commits
        cases commits
  · have failed := deleteFiles_error store arrive
    unfold filesOfUser at failed shape
    generalize outcome : deleteFiles env (storageKeysOf store
      (store.messages.filter fun message => (conversationsToDelete store dto.userId).contains message.conversationId))
      store = result at shape failed ⊢
    obtain ⟨result, emptied⟩ := result
    simp only at shape failed
    rw [failed, shape]
    exact .inl ⟨fun both => arrive both.1, .failedCall, kept, rfl⟩

section Rows
variable {store : Store} {userId : Uuid}

/-- A conversation goes with the user when the user has a row in it and nobody else has. -/
theorem mem_conversationsToDelete {conversationId : Uuid} :
    conversationId ∈ conversationsToDelete store userId ↔
      (∃ conversation ∈ store.conversations, conversation.id = conversationId) ∧
      (∃ member ∈ store.members, member.conversationId = conversationId ∧ member.userId = userId) ∧
      ∀ member ∈ store.members, member.conversationId = conversationId → member.userId = userId := by
  unfold conversationsToDelete
  rw [List.mem_map]
  constructor
  · rintro ⟨conversation, inside, rfl⟩
    obtain ⟨present, alone⟩ := List.mem_filter.mp inside
    simp only [Bool.and_eq_true, Bool.not_eq_true', List.any_eq_true, List.any_eq_false, beq_iff_eq, bne_iff_ne,
      not_and, not_not] at alone
    obtain ⟨⟨member, listed, same, place⟩, others⟩ := alone
    exact ⟨⟨conversation, present, rfl⟩, ⟨member, listed, place, same⟩, others⟩
  · rintro ⟨⟨conversation, present, rfl⟩, ⟨member, listed, place, same⟩, others⟩
    refine ⟨conversation, List.mem_filter.mpr ⟨present, ?_⟩, rfl⟩
    simp only [Bool.and_eq_true, Bool.not_eq_true', List.any_eq_true, List.any_eq_false, beq_iff_eq, bne_iff_ne,
      not_and, not_not]
    exact ⟨⟨member, listed, same, place⟩, others⟩

/-- The user disappears with its own rows only. -/
theorem gone_iff {other : Uuid} :
    (store.users.any fun user => user.id == other && user.id == userId) = true ↔
      store.hasUser userId = true ∧ other = userId := by
  unfold Store.hasUser
  simp only [List.any_eq_true, Bool.and_eq_true, beq_iff_eq]
  constructor
  · rintro ⟨user, inside, rfl, same⟩
    exact ⟨⟨user, inside, same⟩, same⟩
  · rintro ⟨⟨user, inside, same⟩, rfl⟩
    exact ⟨user, inside, same, same⟩

theorem mem_members_withoutUser {member : ConversationMember} :
    member ∈ (withoutUser userId store).members ↔
      member ∈ store.members ∧ member.conversationId ∉ conversationsToDelete store userId ∧
        (store.hasUser userId = true → member.userId ≠ userId) := by
  change member ∈ List.filter _ (List.filter _ _) ↔ _
  rw [List.mem_filter, List.mem_filter, and_assoc]
  refine and_congr_right fun _ => and_congr ?_ ?_
  · rw [Bool.not_eq_true', ← Bool.not_eq_true, List.contains_iff_mem]
  · rw [Bool.not_eq_true', ← Bool.not_eq_true]
    exact (not_congr gone_iff).trans not_and

/-- The message goes with its conversation. -/
def goesAlong (store : Store) (userId messageId : Uuid) : Bool :=
  store.messages.any fun message =>
    message.id == messageId && (conversationsToDelete store userId).contains message.conversationId

/-- This is what the deletion leaves of a conversation. -/
def unlinked (store : Store) (userId : Uuid) (conversation : Conversation) : Conversation :=
  if conversation.lastMessageId.any (goesAlong store userId) then { conversation with lastMessageId := none }
  else conversation

theorem unlinked_id (conversation : Conversation) : (unlinked store userId conversation).id = conversation.id := by
  unfold unlinked
  split <;> rfl

theorem unlinked_type (conversation : Conversation) :
    (unlinked store userId conversation).type = conversation.type := by
  unfold unlinked
  split <;> rfl

theorem mem_conversations_withoutUser {conversation : Conversation} :
    conversation ∈ (withoutUser userId store).conversations ↔
      ∃ old ∈ store.conversations, old.id ∉ conversationsToDelete store userId ∧
        unlinked store userId old = conversation := by
  change conversation ∈ List.filter _ (List.map (unlinked store userId) store.conversations) ↔ _
  rw [List.mem_filter, List.mem_map, Bool.not_eq_true', ← Bool.not_eq_true, List.contains_iff_mem]
  constructor
  · rintro ⟨⟨old, present, rfl⟩, kept⟩
    rw [unlinked_id] at kept
    exact ⟨old, present, kept, rfl⟩
  · rintro ⟨old, present, kept, rfl⟩
    rw [unlinked_id]
    exact ⟨⟨old, present, rfl⟩, kept⟩

end Rows

end AdminService

end Messinger
