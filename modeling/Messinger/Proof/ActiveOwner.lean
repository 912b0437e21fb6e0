import Messinger.Proof.GovernedCalls
import Messinger.Proof.GroupSteps

namespace Messinger
open Library ConversationMemberRepository ConversationRepository GroupInvitationRepository
  ConversationService MessageService
open Relation (ReflTransGen)

variable {rule : Roster Uuid → Prop}

/-- Every step of a group keeps the store governed. -/
theorem GroupStep.governed {env : Env} {store next : Store} {call : GroupCall} (step : GroupStep env store call next)
    (governed : Governed rule store) : Governed rule next := by
  cases step with
  | refused call => exact governed
  | creates ownerId dto owner keys => exact governed.grouped env.now ownerId dto keys
  | invites => exact governed.of_frame rfl rfl (Nat.le_succ _)
  | acceptsLate | rejectsLate | rejects => exact governed.of_frame rfl rfl (Nat.le_refl _)
  | restores conversationId userId => exact governed.restore env.now conversationId userId
  | joins conversationId userId invitation sent id missing present user keys =>
      exact governed.joined env.now conversationId userId missing present keys
  | leaves userId conversationId member answered found ordinary =>
      exact governed.removedFrom env.now conversationId userId userId _ found ordinary
  | removes userId dto actor target answered foundActor role found ordinary =>
      exact governed.removedFrom env.now dto.conversationId userId _ _ found ordinary
  | transfers prevOwner dto owner newOwner foundOwner role active foundNew present =>
      exact governed.transferred env.now prevOwner _ _ foundOwner role active foundNew present

/-- Every call keeps the store governed. -/
theorem Governed.run {store : Store} (governed : Governed rule store) (platform : Platform)
    (action : Env × ConversationCall) : Governed rule (runCall platform store action) := by
  obtain ⟨env, call⟩ := action
  have step := callStep platform env call store
  generalize runCall platform store (env, call) = next at step ⊢
  cases step with
  | group step => exact step.governed governed
  | createPrivateMessage senderId dto => exact governed.createPrivateMessage platform env senderId dto
  | refused call => exact governed
  | deleteGroup userId conversationId => exact governed.deleteConversations fun id => id == conversationId
  | deletePrivateConversation userId conversationId => exact governed.deletePrivate env userId conversationId

theorem governed_emptyStore (office : OfficeRule rule) (users : List User) (pendingUploads : List PendingUpload)
    (bucket : List StorageKey) (nextId : Uuid) :
    Governed rule (emptyStore users pendingUploads bucket nextId) := by
  refine ⟨office, ?_, ?_, ?_, ?_, ?_⟩ <;> simp [emptyStore]

/-- After any run of calls, each group has exactly one row with role OWNER, which is active, and no
private conversation has one. -/
theorem groups_have_one_active_owner (platform : Platform) (users : List User)
    (pendingUploads : List PendingUpload) (bucket : List StorageKey) (nextId : Uuid)
    (calls : List (Env × ConversationCall)) :
    ∀ conversation ∈
        (calls.foldl (runCall platform) (emptyStore users pendingUploads bucket nextId)).conversations,
      (conversation.type = .groupType → ∃ owner,
        ownersOf (calls.foldl (runCall platform) (emptyStore users pendingUploads bucket nextId))
          conversation.id = [owner] ∧ owner.softDeletedAt = none) ∧
      (conversation.type = .privateType →
        ownersOf (calls.foldl (runCall platform) (emptyStore users pendingUploads bucket nextId))
          conversation.id = []) := by
  have governed := run_invariant (runCall platform) (Governed fun roster => ∃ owner, SoleHolder roster owner)
    (fun _ action held => held.run platform action) calls _
    (governed_emptyStore soleHolder_office users pendingUploads bucket nextId)
  intro conversation inside
  constructor
  · intro type
    obtain ⟨owner, held⟩ := governed.groups conversation inside type
    exact ownersOf_eq_singleton governed.memberKeys held
  · intro type
    exact ownersOf_eq_nil governed.memberKeys (governed.privates conversation inside type)

/-- User 1 creates group 10, user 2 joins it and takes it over, and user 1 leaves. -/
def succession : List (Env × ConversationCall) :=
  [({ now := 1000000 }, .createGroup 1 { name := "group" }),
   ({ now := 2000000 }, .validateGroupInvitation 1 { conversationId := 10, targetUserId := uuidText 2 }),
   ({ now := 3000000 }, .acceptGroupInvitation 10 2),
   ({ now := 4000000 }, .transferGroupOwnership 1 { conversationId := 10, newOwnerId := uuidText 2 }),
   ({ now := 5000000 }, .leaveGroup 1 10)]

/-- The group survives the run, and it has one active owner. -/
theorem succession_has_one_active_owner :
    ∃ conversation ∈ (succession.foldl (runCall plainPlatform)
        (emptyStore ([1, 2].map fun id => { id, role := .user, createdAt := 0 }) [] [] 10)).conversations,
      conversation.id = 10 ∧ ∃ owner, ownersOf (succession.foldl (runCall plainPlatform)
        (emptyStore ([1, 2].map fun id => { id, role := .user, createdAt := 0 }) [] [] 10))
          conversation.id = [owner] ∧ owner.softDeletedAt = none := by
  have survives : ∃ conversation ∈ (succession.foldl (runCall plainPlatform)
      (emptyStore ([1, 2].map fun id => { id, role := .user, createdAt := 0 }) [] [] 10)).conversations,
        conversation.id = 10 ∧ conversation.type = .groupType := by
    decide
  obtain ⟨conversation, inside, id, type⟩ := survives
  have governed := groups_have_one_active_owner plainPlatform _ [] [] 10 succession conversation inside
  exact ⟨conversation, inside, id, governed.1 type⟩

end Messinger
