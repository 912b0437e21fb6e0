import Messinger.Proof.UnreadCounts
import Messinger.Proof.UserDeletions

namespace Messinger
open Library ConversationMemberRepository ConversationRepository ConversationService AdminService

/-- These are the active members with role OWNER in one conversation. -/
def activeOwnersOf (store : Store) (conversationId : Uuid) : List ConversationMember :=
  (ownersOf store conversationId).filter fun member => member.softDeletedAt.isNone

/-- Somebody is active in the conversation. -/
def Populated (store : Store) (conversationId : Uuid) : Prop :=
  ∃ member ∈ store.members, member.conversationId = conversationId ∧ member.softDeletedAt = none

/-- Every group with an active member has exactly one active member with role OWNER. -/
def GroupsLed (store : Store) : Prop :=
  ∀ conversation ∈ store.conversations, conversation.type = .groupType → Populated store conversation.id →
    ∃ owner, activeOwnersOf store conversation.id = [owner]

/-- The user owns a group in which another user is active. -/
def LeadsOthers (store : Store) (userId : Uuid) : Prop :=
  ∃ conversation ∈ store.conversations, conversation.type = .groupType ∧ Presides store conversation.id userId ∧
    ∃ member ∈ store.members, member.conversationId = conversation.id ∧ member.softDeletedAt = none ∧
      member.userId ≠ userId

section Deletion
variable {store : Store} {userId : Uuid}

theorem Chartered.presided (chartered : Chartered store) {conversation : Conversation}
    (present : conversation ∈ store.conversations) (type : conversation.type = .groupType) :
    ∃ row, ownersOf store conversation.id = [row] ∧ row.softDeletedAt = none := by
  obtain ⟨owner, held⟩ := chartered.governed.groups conversation present type
  exact ownersOf_eq_singleton chartered.governed.memberKeys held

/-- Every group is led as long as nobody is deleted. -/
theorem Chartered.groupsLed (chartered : Chartered store) : GroupsLed store := by
  intro conversation present type _
  obtain ⟨row, single, active⟩ := chartered.presided present type
  refine ⟨row, ?_⟩
  rw [activeOwnersOf, single]
  simp [active]

/-- The owners that remain are those of other users. -/
theorem activeOwnersOf_withoutUser {conversationId : Uuid} (kept : conversationId ∉ conversationsToDelete store userId)
    {row : ConversationMember} (single : ownersOf store conversationId = [row]) (active : row.softDeletedAt = none) :
    activeOwnersOf (withoutUser userId store) conversationId =
      if store.hasUser userId = true ∧ row.userId = userId then [] else [row] := by
  have left : ownersOf (withoutUser userId store) conversationId =
      (ownersOf store conversationId).filter fun member =>
        !(store.users.any fun user => user.id == member.userId && user.id == userId) &&
          !(conversationsToDelete store userId).contains member.conversationId := by
    unfold ownersOf
    change List.filter _ (List.filter _ (List.filter _ store.members)) = _
    simp only [List.filter_filter]
    apply List.filter_congr
    intro member _
    rw [Bool.and_comm, Bool.and_assoc]
    exact (Bool.and_assoc _ _ _).symm
  have place : row.conversationId = conversationId := by
    have inside : row ∈ ownersOf store conversationId := by simp [single]
    have selected := (List.mem_filter.mp inside).2
    simp only [Bool.and_eq_true, beq_iff_eq] at selected
    exact selected.1
  have stays : (conversationsToDelete store userId).contains row.conversationId = false := by
    rw [place]
    simpa using kept
  rw [activeOwnersOf, left, single]
  by_cases goes : store.hasUser userId = true ∧ row.userId = userId
  · have gone := gone_iff.mpr goes
    rw [if_pos goes]
    simp only [List.filter_cons, gone, Bool.not_true, Bool.false_and, Bool.false_eq_true, if_false, List.filter_nil]
  · have remains := Bool.eq_false_iff.mpr (mt gone_iff.mp goes)
    rw [if_neg goes]
    simp only [List.filter_cons, remains, stays, active, Option.isNone_none, Bool.not_false, Bool.and_self, if_true,
      List.filter_nil]

/-- A committed deletion leaves a group without an owner exactly when its owner goes and others stay. -/
theorem Chartered.groupsLed_withoutUser_iff (chartered : Chartered store) :
    GroupsLed (withoutUser userId store) ↔ ¬ (store.hasUser userId = true ∧ LeadsOthers store userId) := by
  constructor
  · rintro led ⟨stored, conversation, present, type, ⟨owner, single, same, active⟩, member, listed, place, there, other⟩
    have kept : conversation.id ∉ conversationsToDelete store userId :=
      fun goes => other ((mem_conversationsToDelete.mp goes).2.2 member listed place)
    have remains := mem_conversations_withoutUser.mpr ⟨conversation, present, kept, rfl⟩
    have left := led _ remains ((unlinked_type conversation).trans type)
    rw [unlinked_id, activeOwnersOf_withoutUser kept single active, if_pos ⟨stored, same⟩] at left
    obtain ⟨row, nobody⟩ := left ⟨member, mem_members_withoutUser.mpr ⟨listed, place ▸ kept, fun _ => other⟩, place, there⟩
    cases nobody
  · intro spared conversation remains type populated
    obtain ⟨old, present, kept, rfl⟩ := mem_conversations_withoutUser.mp remains
    rw [unlinked_type] at type
    rw [unlinked_id] at populated ⊢
    obtain ⟨row, single, active⟩ := chartered.presided present type
    refine ⟨row, ?_⟩
    rw [activeOwnersOf_withoutUser kept single active, if_neg]
    rintro ⟨stored, same⟩
    obtain ⟨member, listed, place, there⟩ := populated
    obtain ⟨before, -, other⟩ := mem_members_withoutUser.mp listed
    exact spared ⟨stored, old, present, type, ⟨row, single, same, active⟩, member, before, place, there, other stored⟩

end Deletion

/-- In every state that calls of users and deletions of messages lead to, the deletion of a user leaves every group led
exactly when it fails, or when the user owns no group in which somebody else is active. -/
theorem groups_led_after_deletion_iff (platform : Platform) (users : List User) (pendingUploads : List PendingUpload)
    (bucket : List StorageKey) (nextId : Uuid) (calls : List (Env × RetentionCall)) (env : Env) (dto : UserDto) :
    let store := calls.foldl (runRetentionCall platform) (emptyStore users pendingUploads bucket nextId)
    GroupsLed (AdminService.deleteUser env dto store).2 ↔
      ¬ (DeletionCommits env dto store ∧ store.hasUser dto.userId = true ∧ LeadsOthers store dto.userId) := by
  intro store
  have known : CountsKnown store :=
    run_invariant (runRetentionCall platform) CountsKnown (fun _ action known => known.run platform action) calls _
      (.empty users pendingUploads bucket nextId)
  obtain ⟨fails, exception, kept, same⟩ | ⟨commits, done⟩ := deleteUser_cases env dto store
  · rw [same]
    exact iff_of_true known.chartered.groupsLed fun both => fails both.1
  · rw [done]
    refine known.chartered.groupsLed_withoutUser_iff.trans (not_congr ?_)
    exact (and_iff_right commits).symm

/-- User 1 creates group 10, and user 2 joins it. -/
def ledGroup : Store :=
  ((succession.take 3).map fun call => (call.1, RetentionCall.user (.conversation call.2))).foldl
    (runRetentionCall plainPlatform)
    (emptyStore ([1, 2].map fun id => { id, role := .user, createdAt := 0 }) [] [] 10)

/-- The deletion of user 1 succeeds, and user 2 stays behind in a group that nobody owns. -/
theorem deleted_owner_abandons_group :
    (AdminService.deleteUser { now := 6000000 } { userId := 1 } ledGroup).1 = .ok () ∧
      ¬ GroupsLed (AdminService.deleteUser { now := 6000000 } { userId := 1 } ledGroup).2 := by
  refine ⟨rfl, ?_⟩
  intro led
  obtain ⟨conversation, present, id, type⟩ : ∃ conversation ∈
      (AdminService.deleteUser { now := 6000000 } { userId := 1 } ledGroup).2.conversations,
      conversation.id = 10 ∧ conversation.type = .groupType := by decide
  have populated : Populated (AdminService.deleteUser { now := 6000000 } { userId := 1 } ledGroup).2 10 := by
    unfold Populated
    decide
  have nobody : activeOwnersOf (AdminService.deleteUser { now := 6000000 } { userId := 1 } ledGroup).2 10 = [] := by
    decide
  obtain ⟨owner, single⟩ := led conversation present type (id ▸ populated)
  rw [id, nobody] at single
  cases single

end Messinger
