import Messinger.Proof.Calls

namespace Messinger.ConversationService
open Library ConversationMemberRepository ConversationRepository ConversationEventRepository
  GroupInvitationRepository

/-- This is the state that leaving and removing write. -/
def removedFrom (now : Nat) (conversationId actorId targetUserId : Uuid)
    (eventType : ConversationEventType) (store : Store) : Store :=
  (markConversationAsDeleted now conversationId targetUserId store).logEvent
    { id := store.nextId, conversationId, actorId, targetUserId := some targetUserId,
      type := eventType, createdAt := now }

theorem removeMemberFromGroup_ok {now : Nat} {conversationId actorId targetUserId : Uuid}
    {eventType : ConversationEventType} {store next : Store} {nothing : Unit}
    (done : removeMemberFromGroup now conversationId actorId targetUserId eventType store =
      .ok (nothing, next)) :
    next = removedFrom now conversationId actorId targetUserId eventType store := by
  obtain ⟨logged, created, rest⟩ := ok_of_bind done
  cases rest
  exact (createEvent_ok created).2

theorem leaveGroupChecks_ok {store : Store} {userId conversationId : Uuid}
    {members : List ConversationMember}
    (passed : leaveGroupChecks store userId conversationId = .ok members) :
    members = getConversationMembers store conversationId ∧
      ∃ member, findMember store conversationId userId = some member ∧ member.role ≠ .owner := by
  unfold leaveGroupChecks at passed
  split at passed
  · rename_i member found
    split at passed
    · cases passed
    · rename_i ordinary
      exact ⟨(Except.ok.inj passed).symm, member, found, ordinary⟩
  · cases passed

/-- Leaving marks the row of a user that is not the owner. -/
theorem leaveGroup_cases (env : Env) (userId conversationId : Uuid) (store : Store) :
    (∃ exception, leaveGroup env userId conversationId store = (.error exception, store)) ∨
      ∃ member, findMember store conversationId userId = some member ∧ member.role ≠ .owner ∧
        leaveGroup env userId conversationId store =
          (.ok (getConversationMembers store conversationId),
            removedFrom env.now conversationId userId userId .memberLeft store) := by
  obtain failed | ⟨members, result, next, passed, done, equal⟩ := guarded_transaction_cases
    (rfl : _ = leaveGroup env userId conversationId store)
  · exact .inl failed
  · obtain ⟨rfl, member, found, ordinary⟩ := leaveGroupChecks_ok passed
    obtain ⟨⟨_, written⟩, removed, rest⟩ := ok_of_bind done
    cases rest
    rw [removeMemberFromGroup_ok removed] at equal
    exact .inr ⟨member, found, ordinary, equal⟩

theorem removeGroupMemberChecks_ok {store : Store} {userId : Uuid} {dto : RemoveMemberDto}
    {members : List ConversationMember}
    (passed : removeGroupMemberChecks store userId dto = .ok members) :
    members = getConversationMembers store dto.conversationId ∧
      ∃ actor target, findMember store dto.conversationId userId = some actor ∧
        actor.role = .owner ∧
        findMember store dto.conversationId (parseUuid dto.targetUserId) = some target ∧
        target.role ≠ .owner := by
  unfold removeGroupMemberChecks at passed
  simp only at passed
  split at passed
  · split at passed
    · cases passed
    · split at passed
      · rename_i actor foundActor
        split at passed
        · cases passed
        · rename_i owner
          split at passed
          · rename_i target foundTarget
            split at passed
            · cases passed
            · rename_i ordinary
              split at passed
              · cases passed
              · exact ⟨(Except.ok.inj passed).symm, actor, target, foundActor, not_not.mp owner,
                  foundTarget, ordinary⟩
          · cases passed
      · cases passed
  · cases passed

/-- Removing marks the row of a user that is not the owner. -/
theorem removeGroupMember_cases (env : Env) (userId : Uuid) (dto : RemoveMemberDto) (store : Store) :
    (∃ exception, removeGroupMember env userId dto store = (.error exception, store)) ∨
      ∃ actor target, findMember store dto.conversationId userId = some actor ∧
        actor.role = .owner ∧
        findMember store dto.conversationId (parseUuid dto.targetUserId) = some target ∧
        target.role ≠ .owner ∧
        removeGroupMember env userId dto store =
          (.ok (getConversationMembers store dto.conversationId),
            removedFrom env.now dto.conversationId userId (parseUuid dto.targetUserId)
              .memberRemoved store) := by
  obtain failed | ⟨members, result, next, passed, done, equal⟩ := guarded_transaction_cases
    (rfl : _ = removeGroupMember env userId dto store)
  · exact .inl failed
  · obtain ⟨rfl, actor, target, foundActor, owner, foundTarget, ordinary⟩ :=
      removeGroupMemberChecks_ok passed
    obtain ⟨⟨_, written⟩, removed, rest⟩ := ok_of_bind done
    cases rest
    rw [removeMemberFromGroup_ok removed] at equal
    exact .inr ⟨actor, target, foundActor, owner, foundTarget, ordinary, equal⟩

theorem transferGroupOwnershipChecks_ok {store : Store} {prevOwner : Uuid}
    {dto : TransferOwnershipDto} {members : List ConversationMember}
    (passed : transferGroupOwnershipChecks store prevOwner dto = .ok members) :
    members = getConversationMembers store dto.conversationId ∧
      ∃ owner newOwner, findMember store dto.conversationId prevOwner = some owner ∧
        owner.role = .owner ∧ owner.softDeletedAt = none ∧
        findMember store dto.conversationId (parseUuid dto.newOwnerId) = some newOwner ∧
        newOwner.softDeletedAt = none := by
  unfold transferGroupOwnershipChecks at passed
  simp only at passed
  split at passed
  · cases passed
  · split at passed
    · rename_i owner foundOwner
      split at passed
      · cases passed
      · rename_i role
        split at passed
        · cases passed
        · rename_i active
          split at passed
          · rename_i newOwner foundNew
            split at passed
            · cases passed
            · rename_i present
              exact ⟨(Except.ok.inj passed).symm, owner, newOwner, foundOwner, not_not.mp role,
                Option.not_isSome_iff_eq_none.mp active, foundNew,
                Option.not_isSome_iff_eq_none.mp present⟩
          · cases passed
    · cases passed

/-- This is the state that a transfer writes. -/
def transferred (now : Nat) (prevOwner newOwner conversationId : Uuid) (store : Store) : Store :=
  (updateRole conversationId newOwner .owner
      (updateRole conversationId prevOwner .member store)).logEvent
    { id := store.nextId, conversationId, actorId := prevOwner, targetUserId := some newOwner,
      type := .ownershipTransferred, createdAt := now }

theorem transferGroupOwnershipBody_ok {now : Nat} {prevOwner : Uuid} {dto : TransferOwnershipDto}
    {store next : Store} {nothing : Unit}
    (done : transferGroupOwnershipBody now prevOwner dto store = .ok (nothing, next)) :
    next = transferred now prevOwner (parseUuid dto.newOwnerId) dto.conversationId store := by
  obtain ⟨logged, created, rest⟩ := ok_of_bind done
  cases rest
  exact (createEvent_ok created).2

/-- A transfer demotes the active owner and promotes an active member. -/
theorem transferGroupOwnership_cases (env : Env) (prevOwner : Uuid) (dto : TransferOwnershipDto)
    (store : Store) :
    (∃ exception, transferGroupOwnership env prevOwner dto store = (.error exception, store)) ∨
      ∃ owner newOwner, findMember store dto.conversationId prevOwner = some owner ∧
        owner.role = .owner ∧ owner.softDeletedAt = none ∧
        findMember store dto.conversationId (parseUuid dto.newOwnerId) = some newOwner ∧
        newOwner.softDeletedAt = none ∧
        transferGroupOwnership env prevOwner dto store =
          (.ok (getConversationMembers store dto.conversationId),
            transferred env.now prevOwner (parseUuid dto.newOwnerId) dto.conversationId store) := by
  obtain failed | ⟨members, result, next, passed, done, equal⟩ := guarded_transaction_cases
    (rfl : _ = transferGroupOwnership env prevOwner dto store)
  · exact .inl failed
  · obtain ⟨rfl, owner, newOwner, foundOwner, role, active, foundNew, present⟩ :=
      transferGroupOwnershipChecks_ok passed
    obtain ⟨⟨_, written⟩, moved, rest⟩ := ok_of_bind done
    cases rest
    rw [transferGroupOwnershipBody_ok moved] at equal
    exact .inr ⟨owner, newOwner, foundOwner, role, active, foundNew, present, equal⟩

/-- This is the conversation that creating a group inserts. -/
def newGroup (now : Nat) (dto : CreateGroupDto) (id : Uuid) : Conversation :=
  { id, name := some dto.name, type := .groupType, createdAt := now, updatedAt := now }

/-- This is the state that creating a group writes. -/
def grouped (now : Nat) (ownerId : Uuid) (dto : CreateGroupDto) (store : Store) : Store :=
  let created := { store with
    conversations := store.conversations ++ [newGroup now dto store.nextId]
    members := store.members ++
      [newRow now { conversationId := store.nextId, userId := ownerId, role := .owner }]
    nextId := store.nextId + 1 }
  created.logEvent { id := store.nextId + 1, conversationId := store.nextId, actorId := ownerId,
                     type := .groupCreated, createdAt := now }

/-- Creating a group inserts the group and its owner, who exists, under a free key. -/
theorem createGroup_cases (env : Env) (ownerId : Uuid) (dto : CreateGroupDto) (store : Store) :
    (∃ exception, createGroup env ownerId dto store = (.error exception, store)) ∨
      store.hasUser ownerId = true ∧
        ((grouped env.now ownerId dto store).members.map ConversationMember.key).Nodup ∧
        createGroup env ownerId dto store =
          (.ok (newGroup env.now dto store.nextId), grouped env.now ownerId dto store) := by
  obtain failed | ⟨value, next, done, -, equal⟩ := transaction_cases (env.succeeds 0) store
    (createGroupBody env.now ownerId dto)
  · exact .inl failed
  · obtain ⟨⟨conversation, saved⟩, inserted, rest⟩ := ok_of_bind done
    obtain ⟨joined, created, last⟩ := ok_of_bind rest
    obtain ⟨logged, event, final⟩ := ok_of_bind last
    cases inserted
    cases final
    obtain ⟨members, references, distinct⟩ := bulkCreate_ok created
    subst members
    rw [(createEvent_ok event).2] at equal
    exact .inr ⟨(references _ (List.mem_singleton_self _)).2, distinct, equal⟩

theorem deleteGroupChecks_ok {store : Store} {userId conversationId : Uuid}
    {members : List ConversationMember}
    (passed : deleteGroupChecks store userId conversationId = .ok members) :
    members = getConversationMembers store conversationId ∧
      ∃ conversation owner, findById store conversationId = some conversation ∧
        conversation.type = .groupType ∧
        findMember store conversationId userId = some owner ∧ owner.role = .owner := by
  unfold deleteGroupChecks at passed
  simp only at passed
  split at passed
  · rename_i conversation found
    split at passed
    · cases passed
    · rename_i type
      split at passed
      · rename_i owner foundOwner
        split at passed
        · cases passed
        · rename_i role
          cases passed
          exact ⟨rfl, conversation, owner, found, not_not.mp type, foundOwner, not_not.mp role⟩
      · cases passed
  · cases passed

/-- An owner deletes the group with everything that refers to it. -/
theorem deleteGroup_cases (env : Env) (userId conversationId : Uuid) (store : Store) :
    (∃ exception, deleteGroup env userId conversationId store = (.error exception, store)) ∨
      ∃ conversation owner, findById store conversationId = some conversation ∧
        conversation.type = .groupType ∧
        findMember store conversationId userId = some owner ∧ owner.role = .owner ∧
        deleteGroup env userId conversationId store =
          (.ok (getConversationMembers store conversationId),
            deleteConversation conversationId store) := by
  obtain failed | ⟨members, result, next, passed, done, equal⟩ := guarded_transaction_cases
    (rfl : _ = deleteGroup env userId conversationId store)
  · exact .inl failed
  · obtain ⟨rfl, conversation, owner, found, type, foundOwner, role⟩ := deleteGroupChecks_ok passed
    cases done
    exact .inr ⟨conversation, owner, found, type, foundOwner, role, equal⟩

section Commits
variable {env : Env} {store : Store} {userId conversationId : Uuid}

theorem removeMemberFromGroup_eq {now : Nat} {actorId targetUserId : Uuid} {eventType : ConversationEventType}
    (present : store.hasConversation conversationId = true) :
    removeMemberFromGroup now conversationId actorId targetUserId eventType store =
      .ok ((), removedFrom now conversationId actorId targetUserId eventType store) := by
  have marked : (markConversationAsDeleted now conversationId targetUserId store).hasConversation conversationId =
      true := present
  unfold removeMemberFromGroup createEvent
  simp only [marked]
  rfl

/-- A checked call that the database commits ends the membership. -/
theorem leaveGroup_commits {members : List ConversationMember}
    (passed : leaveGroupChecks store userId conversationId = .ok members) (commits : env.succeeds 0 = true)
    (present : store.hasConversation conversationId = true) :
    (leaveGroup env userId conversationId store).2 =
      removedFrom env.now conversationId userId userId .memberLeft store := by
  unfold leaveGroup
  simp only [passed, guarded, transaction, removeMemberFromGroup_eq present, commits]
  rfl

theorem removeGroupMember_commits {dto : RemoveMemberDto} {members : List ConversationMember}
    (passed : removeGroupMemberChecks store userId dto = .ok members) (commits : env.succeeds 0 = true)
    (present : store.hasConversation dto.conversationId = true) :
    (removeGroupMember env userId dto store).2 =
      removedFrom env.now dto.conversationId userId (parseUuid dto.targetUserId) .memberRemoved store := by
  unfold removeGroupMember
  simp only [passed, guarded, transaction, removeMemberFromGroup_eq present, commits]
  rfl

end Commits

end Messinger.ConversationService
