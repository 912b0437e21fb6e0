import Messinger.Model.ConversationCalls
import Messinger.Proof.GroupCalls
import Messinger.Proof.InvitationCalls

namespace Messinger
open Library ConversationMemberRepository ConversationRepository ConversationService GroupInvitationRepository

/-- A call on a group leaves the store, or it makes the one write that its checks allow. -/
inductive GroupStep (env : Env) (store : Store) : GroupCall → Store → Prop where
  | refused (call : GroupCall) : GroupStep env store call store
  | creates (ownerId : Uuid) (dto : CreateGroupDto) (owner : store.hasUser ownerId = true)
      (keys : ((grouped env.now ownerId dto store).members.map ConversationMember.key).Nodup) :
      GroupStep env store (.createGroup ownerId dto) (grouped env.now ownerId dto store)
  | invites (actorId : Uuid) (dto : InviteGroupMemberDto) (conversation : Conversation)
      (answered : (validateGroupInvitation env actorId dto store).1 = .ok conversation)
      (found : findById store dto.conversationId = some conversation) (type : conversation.type = .groupType) :
      GroupStep env store (.validateGroupInvitation actorId dto)
        { store with
          invitations := store.invitations ++
            [newInvitation env.now dto.conversationId actorId (parseUuid dto.targetUserId) store.nextId]
          nextId := store.nextId + 1 }
  | acceptsLate (conversationId userId : Uuid) :
      GroupStep env store (.acceptGroupInvitation conversationId userId)
        (markInvitationAsExpired conversationId userId store)
  | restores (conversationId userId : Uuid) (member : ConversationMember)
      (answered : (acceptGroupInvitation env conversationId userId store).1 =
        .ok (getConversationMembers store conversationId))
      (found : findMember store conversationId userId = some member) (deleted : member.softDeletedAt.isSome = true) :
      GroupStep env store (.acceptGroupInvitation conversationId userId)
        (restoreConversation env.now conversationId userId store)
  | joins (conversationId userId : Uuid) (invitation : GroupInvitation) (sent : invitation ∈ store.invitations)
      (id : invitation.conversationId = conversationId) (missing : findMember store conversationId userId = none)
      (present : store.hasConversation conversationId = true) (user : store.hasUser userId = true)
      (keys : ((joined env.now conversationId userId store).members.map ConversationMember.key).Nodup) :
      GroupStep env store (.acceptGroupInvitation conversationId userId) (joined env.now conversationId userId store)
  | rejectsLate (conversationId userId : Uuid) :
      GroupStep env store (.rejectGroupInvitation conversationId userId)
        (markInvitationAsExpired conversationId userId store)
  | rejects (conversationId userId : Uuid) :
      GroupStep env store (.rejectGroupInvitation conversationId userId) (rejectInvitation conversationId userId store)
  | leaves (userId conversationId : Uuid) (member : ConversationMember)
      (answered : (leaveGroup env userId conversationId store).1 = .ok (getConversationMembers store conversationId))
      (found : findMember store conversationId userId = some member) (ordinary : member.role ≠ .owner) :
      GroupStep env store (.leaveGroup userId conversationId)
        (removedFrom env.now conversationId userId userId .memberLeft store)
  | removes (userId : Uuid) (dto : RemoveMemberDto) (actor target : ConversationMember)
      (answered : (removeGroupMember env userId dto store).1 = .ok (getConversationMembers store dto.conversationId))
      (foundActor : findMember store dto.conversationId userId = some actor) (role : actor.role = .owner)
      (found : findMember store dto.conversationId (parseUuid dto.targetUserId) = some target)
      (ordinary : target.role ≠ .owner) :
      GroupStep env store (.removeGroupMember userId dto)
        (removedFrom env.now dto.conversationId userId (parseUuid dto.targetUserId) .memberRemoved store)
  | transfers (prevOwner : Uuid) (dto : TransferOwnershipDto) (owner newOwner : ConversationMember)
      (foundOwner : findMember store dto.conversationId prevOwner = some owner) (role : owner.role = .owner)
      (active : owner.softDeletedAt = none)
      (foundNew : findMember store dto.conversationId (parseUuid dto.newOwnerId) = some newOwner)
      (present : newOwner.softDeletedAt = none) :
      GroupStep env store (.transferGroupOwnership prevOwner dto)
        (transferred env.now prevOwner (parseUuid dto.newOwnerId) dto.conversationId store)

theorem acceptGroupInvitation_groupStep (env : Env) (conversationId userId : Uuid) (store : Store) :
    GroupStep env store (.acceptGroupInvitation conversationId userId)
      (acceptGroupInvitation env conversationId userId store).2 := by
  rcases acceptGroupInvitation_cases env conversationId userId store with ⟨exception, failed⟩ |
    ⟨invitation, sent, pair, ⟨-, done⟩ | ⟨-, next, done, ⟨member, found, deleted, final⟩ |
      ⟨missing, present, user, keys, final⟩⟩⟩
  · rw [failed]
    exact .refused _
  · rw [done]
    exact .acceptsLate conversationId userId
  · have answered := congrArg Prod.fst done
    rw [done, final]
    exact .restores conversationId userId member answered found deleted
  · rw [done, final]
    unfold ofPair at pair
    exact .joins conversationId userId invitation sent (beq_iff_eq.mp (Bool.and_eq_true_iff.mp pair).1) missing
      present user keys

/-- Each call on a group makes its step. -/
theorem groupStep (env : Env) (call : GroupCall) (store : Store) :
    GroupStep env store call (runGroupCall store (env, call)) := by
  cases call with
  | createGroup ownerId dto =>
      change GroupStep env store _ (createGroup env ownerId dto store).2
      rcases createGroup_cases env ownerId dto store with ⟨exception, failed⟩ | ⟨owner, keys, done⟩
      · rw [failed]
        exact .refused _
      · rw [done]
        exact .creates ownerId dto owner keys
  | validateGroupInvitation actorId dto =>
      change GroupStep env store _ (validateGroupInvitation env actorId dto store).2
      rcases validateGroupInvitation_cases env actorId dto store with ⟨exception, failed⟩ |
        ⟨conversation, found, type, -, done⟩
      · rw [failed]
        exact .refused _
      · have answered := congrArg Prod.fst done
        rw [done]
        exact .invites actorId dto conversation answered found type
  | acceptGroupInvitation conversationId userId => exact acceptGroupInvitation_groupStep env conversationId userId store
  | rejectGroupInvitation conversationId userId =>
      change GroupStep env store _ (rejectGroupInvitation env conversationId userId store).2
      rcases rejectGroupInvitation_cases env conversationId userId store with ⟨exception, failed⟩ |
        ⟨invitation, -, -, ⟨-, done⟩ | ⟨-, done⟩⟩
      · rw [failed]
        exact .refused _
      · rw [done]
        exact .rejectsLate conversationId userId
      · rw [done]
        exact .rejects conversationId userId
  | leaveGroup userId conversationId =>
      change GroupStep env store _ (leaveGroup env userId conversationId store).2
      rcases leaveGroup_cases env userId conversationId store with ⟨exception, failed⟩ |
        ⟨member, found, ordinary, done⟩
      · rw [failed]
        exact .refused _
      · have answered := congrArg Prod.fst done
        rw [done]
        exact .leaves userId conversationId member answered found ordinary
  | removeGroupMember userId dto =>
      change GroupStep env store _ (removeGroupMember env userId dto store).2
      rcases removeGroupMember_cases env userId dto store with ⟨exception, failed⟩ |
        ⟨actor, target, foundActor, role, found, ordinary, done⟩
      · rw [failed]
        exact .refused _
      · have answered := congrArg Prod.fst done
        rw [done]
        exact .removes userId dto actor target answered foundActor role found ordinary
  | transferGroupOwnership prevOwner dto =>
      change GroupStep env store _ (transferGroupOwnership env prevOwner dto store).2
      rcases transferGroupOwnership_cases env prevOwner dto store with ⟨exception, failed⟩ |
        ⟨owner, newOwner, foundOwner, role, active, foundNew, present, done⟩
      · rw [failed]
        exact .refused _
      · rw [done]
        exact .transfers prevOwner dto owner newOwner foundOwner role active foundNew present

/-- Every call of a group is a call of a conversation. -/
def GroupCall.call : GroupCall → ConversationCall
  | .createGroup ownerId dto => .createGroup ownerId dto
  | .validateGroupInvitation actorId dto => .validateGroupInvitation actorId dto
  | .acceptGroupInvitation conversationId userId => .acceptGroupInvitation conversationId userId
  | .rejectGroupInvitation conversationId userId => .rejectGroupInvitation conversationId userId
  | .leaveGroup userId conversationId => .leaveGroup userId conversationId
  | .removeGroupMember userId dto => .removeGroupMember userId dto
  | .transferGroupOwnership prevOwner dto => .transferGroupOwnership prevOwner dto

/-- A call on conversations makes a step of a group, or it opens or deletes a conversation. -/
inductive CallStep (platform : Platform) (env : Env) (store : Store) : ConversationCall → Store → Prop where
  | group {call : GroupCall} {next : Store} (step : GroupStep env store call next) :
      CallStep platform env store call.call next
  | createPrivateMessage (senderId : Uuid) (dto : PrivateMessageDto) :
      CallStep platform env store (.createPrivateMessage senderId dto)
        (MessageService.createPrivateMessage platform env senderId dto store).2
  | refused (call : ConversationCall) : CallStep platform env store call store
  | deleteGroup (userId conversationId : Uuid) (owner : ConversationMember)
      (found : findMember store conversationId userId = some owner) (role : owner.role = .owner) :
      CallStep platform env store (.deleteGroup userId conversationId) (deleteConversation conversationId store)
  | deletePrivateConversation (userId conversationId : Uuid) :
      CallStep platform env store (.deletePrivateConversation userId conversationId)
        (ConversationService.deletePrivateConversation env userId conversationId store).2

theorem callStep (platform : Platform) (env : Env) (call : ConversationCall) (store : Store) :
    CallStep platform env store call (runCall platform store (env, call)) := by
  cases call with
  | createGroup ownerId dto => exact .group (groupStep env (.createGroup ownerId dto) store)
  | createPrivateMessage senderId dto => exact .createPrivateMessage senderId dto
  | validateGroupInvitation actorId dto => exact .group (groupStep env (.validateGroupInvitation actorId dto) store)
  | acceptGroupInvitation conversationId userId =>
      exact .group (groupStep env (.acceptGroupInvitation conversationId userId) store)
  | rejectGroupInvitation conversationId userId =>
      exact .group (groupStep env (.rejectGroupInvitation conversationId userId) store)
  | leaveGroup userId conversationId => exact .group (groupStep env (.leaveGroup userId conversationId) store)
  | transferGroupOwnership prevOwner dto => exact .group (groupStep env (.transferGroupOwnership prevOwner dto) store)
  | removeGroupMember userId dto => exact .group (groupStep env (.removeGroupMember userId dto) store)
  | deleteGroup userId conversationId =>
      change CallStep platform env store _ (ConversationService.deleteGroup env userId conversationId store).2
      rcases deleteGroup_cases env userId conversationId store with ⟨exception, failed⟩ |
        ⟨conversation, owner, -, -, found, role, done⟩
      · rw [failed]
        exact .refused _
      · rw [done]
        exact .deleteGroup userId conversationId owner found role
  | deletePrivateConversation userId conversationId => exact .deletePrivateConversation userId conversationId

end Messinger
