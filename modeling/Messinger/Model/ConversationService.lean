/-
This file models the conversation service. Each call is its checks, which read rows before the
transaction, and the body of the transaction.
-/
import Messinger.Model.Repositories

namespace Messinger.ConversationService
open Messinger
open ConversationMemberRepository ConversationRepository ConversationEventRepository
  GroupInvitationRepository

structure CreateConversationParams where
  type : ConversationType
  creatorId : Text
  members : List Text

structure CreateGroupDto where
  name : String

structure InviteGroupMemberDto where
  conversationId : Uuid
  targetUserId : Text

structure TransferOwnershipDto where
  conversationId : Uuid
  newOwnerId : Text

structure RemoveMemberDto where
  conversationId : Uuid
  targetUserId : Text

/-- The transaction body that leaving and removing share. -/
def removeMemberFromGroup (now : Nat) (conversationId actorId targetUserId : Uuid)
    (eventType : ConversationEventType) (store : Store) : Except Exception (Unit × Store) := do
  let marked := markConversationAsDeleted now conversationId targetUserId store
  let next ← createEvent now conversationId actorId (some targetUserId) eventType marked
  return ((), next)

/-- The filter keeps the first occurrence of each string. -/
def normalizeMembers (creatorId : Text) (members : List Text) : List Text :=
  let array := creatorId :: members
  (array.zipIdx.filter fun (id, index) => array.idxOf id == index).map Prod.fst

/-- `sort` compares strings by their code units. -/
def textLe (first second : Text) : Bool := codeUnits first ≤ codeUnits second

def sortTexts (texts : List Text) : List Text :=
  texts.insertionSort fun first second => textLe first second = true

def generatePrivateKey (platform : Platform) (userIds : List Text) : Text :=
  platform.sha256 ([':'].intercalate (sortTexts userIds))

def getMemberRole (type : ConversationType) (userId creatorId : Text) : ConversationRole :=
  if type = .groupType ∧ userId = creatorId then .owner else .member

/-- The transaction inserts the conversation and one row for each member. -/
def createConversation (now : Nat) (params : CreateConversationParams)
    (privateKey : Option Text) (uniqueMembers : List Text) (store : Store) :
    Except Exception (Conversation × Store) := do
  let (savedConversation, saved) ← saveConversation now params.type privateKey none store
  let conversationMembers := uniqueMembers.map fun userId =>
    { conversationId := savedConversation.id, userId := parseUuid userId,
      role := getMemberRole params.type userId params.creatorId }
  let next ← bulkCreate now conversationMembers saved
  return (savedConversation, next)

def getOrCreatePrivateConversation (platform : Platform) (env : Env)
    (params : CreateConversationParams) (store : Store) : Outcome Conversation :=
  let uniqueMembers := normalizeMembers params.creatorId params.members
  match params.type with
  | .privateType =>
      if 2 < uniqueMembers.length then
        (.error (.forbidden "CREATE_CONVERSATION:PRIVATE_CONVERSATION_REQUIRES_TWO_USERS"), store)
      else
        let privateKey := generatePrivateKey platform uniqueMembers
        match findByPrivateKey store privateKey with
        | some existing => (.ok existing, store)
        | none =>
            transaction (env.succeeds 0) store
              (createConversation env.now params (some privateKey) uniqueMembers)
  | .groupType =>
      transaction (env.succeeds 0) store (createConversation env.now params none uniqueMembers)

def createGroupBody (now : Nat) (ownerId : Uuid) (dto : CreateGroupDto) (store : Store) :
    Except Exception (Conversation × Store) := do
  let (savedConversation, saved) ← saveConversation now .groupType none (some dto.name) store
  let joined ← bulkCreate now
    [{ conversationId := savedConversation.id, userId := ownerId, role := .owner }] saved
  let next ← createEvent now savedConversation.id ownerId none .groupCreated joined
  return (savedConversation, next)

def createGroup (env : Env) (ownerId : Uuid) (dto : CreateGroupDto) (store : Store) :
    Outcome Conversation :=
  transaction (env.succeeds 0) store (createGroupBody env.now ownerId dto)

def validateGroupInvitationChecks (store : Store) (actorId : Uuid) (dto : InviteGroupMemberDto) :
    Except Exception Conversation := do
  let some conversation := findById store dto.conversationId
    | throw (.notFound "GROUP_INVITATION:CONVERSATION_NOT_FOUND")
  if conversation.type ≠ .groupType then
    throw (.forbidden "GROUP_INVITATION:INVALID_CONVERSATION_TYPE")
  let some actor := findMember store dto.conversationId actorId
    | throw (.forbidden "GROUP_INVITATION:USER_IS_NOT_MEMBER")
  if actor.role ≠ .owner then
    throw (.forbidden "GROUP_INVITATION:ONLY_OWNER_CAN_INVITE")
  if uuidText actorId = dto.targetUserId then
    throw (.forbidden "GROUP_INVITATION:CANNOT_INVITE_YOURSELF")
  if existsMember store dto.conversationId (parseUuid dto.targetUserId) then
    throw (.forbidden "GROUP_INVITATION:USER_ALREADY_MEMBER")
  return conversation

def validateGroupInvitation (env : Env) (actorId : Uuid) (dto : InviteGroupMemberDto)
    (store : Store) : Outcome Conversation :=
  guarded store (validateGroupInvitationChecks store actorId dto) fun conversation =>
    transaction (env.succeeds 0) store fun current => do
      let next ← createInvitation env.now dto.conversationId actorId (parseUuid dto.targetUserId)
        (addHours (jsDate env.now) 24) current
      return (conversation, next)

/-- These are the rows that accepting reads before its transaction. -/
structure AcceptRows where
  member : Option ConversationMember
  members : List ConversationMember
  invitation : GroupInvitation

def acceptGroupInvitationChecks (scan : Nat) (store : Store) (conversationId userId : Uuid) :
    Except Exception AcceptRows := do
  let some _ := findById store conversationId
    | throw (.notFound "GROUP:NOT_FOUND")
  let some invitation := GroupInvitationRepository.findOne scan store conversationId userId
    | throw (.notFound "GROUP_INVITATION:NOT_FOUND")
  return { member := findMember store conversationId userId
           members := getConversationMembers store conversationId
           invitation }

/-- The restore branch touches neither the invitations nor the events. -/
def acceptGroupInvitationBody (now : Nat) (member : Option ConversationMember)
    (conversationId userId : Uuid) (store : Store) : Except Exception (Unit × Store) :=
  if (member.bind (·.softDeletedAt)).isSome then
    .ok ((), restoreConversation now conversationId userId store)
  else do
    let accepted := acceptInvitation conversationId userId store
    let logged ← createEvent now conversationId userId none .memberJoined accepted
    let next ← bulkCreate now [{ conversationId, userId, role := .member }] logged
    return ((), next)

/-- An expired invitation is marked outside any transaction before the exception. -/
def expireInvitation (env : Env) (conversationId userId : Uuid) {A : Type} (store : Store) :
    Outcome A :=
  if env.succeeds 0 then
    (.error (.forbidden "GROUP_INVITATION:EXPIRED"),
      markInvitationAsExpired conversationId userId store)
  else (.error .failedCall, store)

def acceptGroupInvitation (env : Env) (conversationId userId : Uuid) (store : Store) :
    Outcome (List ConversationMember) :=
  guarded store (acceptGroupInvitationChecks env.scan store conversationId userId) fun rows =>
    if isAfter env.now rows.invitation.expiresAt then expireInvitation env conversationId userId store
    else
      transaction (env.succeeds 0) store fun current => do
        let (_, next) ← acceptGroupInvitationBody env.now rows.member conversationId userId current
        return (rows.members, next)

def rejectGroupInvitation (env : Env) (conversationId userId : Uuid) (store : Store) :
    Outcome Unit :=
  match GroupInvitationRepository.findOne env.scan store conversationId userId with
  | none => (.error (.notFound "GROUP_INVITATION:NOT_FOUND"), store)
  | some invitation =>
      if isAfter env.now invitation.expiresAt then expireInvitation env conversationId userId store
      else
        transaction (env.succeeds 0) store fun current =>
          .ok ((), rejectInvitation conversationId userId current)

def leaveGroupChecks (store : Store) (userId conversationId : Uuid) :
    Except Exception (List ConversationMember) := do
  let some member := findMember store conversationId userId
    | throw (.forbidden "GROUP:USER_NOT_MEMBER")
  if member.role = .owner then
    throw (.forbidden "GROUP:TRANSFER_OWNERSHIP_FIRST")
  return getConversationMembers store conversationId

/-- The result is the member list that the MEMBER_LEFT event carries. -/
def leaveGroup (env : Env) (userId conversationId : Uuid) (store : Store) :
    Outcome (List ConversationMember) :=
  guarded store (leaveGroupChecks store userId conversationId) fun members =>
    transaction (env.succeeds 0) store fun current => do
      let (_, next) ← removeMemberFromGroup env.now conversationId userId userId .memberLeft current
      return (members, next)

def transferGroupOwnershipChecks (store : Store) (prevOwner : Uuid) (dto : TransferOwnershipDto) :
    Except Exception (List ConversationMember) := do
  if uuidText prevOwner = dto.newOwnerId then
    throw (.forbidden "GROUP:INVALID_OWNER")
  let some owner := findMember store dto.conversationId prevOwner
    | throw (.forbidden "GROUP:USER_NOT_MEMBER")
  if owner.role ≠ .owner then
    throw (.forbidden "GROUP:ONLY_OWNER")
  if owner.softDeletedAt.isSome then
    throw (.forbidden "GROUP:OWNER_REMOVED")
  let some newOwner := findMember store dto.conversationId (parseUuid dto.newOwnerId)
    | throw (.forbidden "GROUP:TARGET_NOT_MEMBER")
  if newOwner.softDeletedAt.isSome then
    throw (.forbidden "GROUP:TARGET_REMOVED")
  return getConversationMembers store dto.conversationId

def transferGroupOwnershipBody (now : Nat) (prevOwner : Uuid) (dto : TransferOwnershipDto)
    (store : Store) : Except Exception (Unit × Store) := do
  let newOwnerId := parseUuid dto.newOwnerId
  let demoted := updateRole dto.conversationId prevOwner .member store
  let promoted := updateRole dto.conversationId newOwnerId .owner demoted
  let next ← createEvent now dto.conversationId prevOwner (some newOwnerId)
    .ownershipTransferred promoted
  return ((), next)

/-- The result is the member list that the OWNERSHIP_TRANSFERRED event carries. -/
def transferGroupOwnership (env : Env) (prevOwner : Uuid) (dto : TransferOwnershipDto)
    (store : Store) : Outcome (List ConversationMember) :=
  guarded store (transferGroupOwnershipChecks store prevOwner dto) fun members =>
    transaction (env.succeeds 0) store fun current => do
      let (_, next) ← transferGroupOwnershipBody env.now prevOwner dto current
      return (members, next)

def removeGroupMemberChecks (store : Store) (userId : Uuid) (dto : RemoveMemberDto) :
    Except Exception (List ConversationMember) := do
  let some conversation := findById store dto.conversationId
    | throw (.notFound "CONVERSATION_NOT_FOUND")
  if conversation.type ≠ .groupType then
    throw (.forbidden "REMOVE_MEMBER:NOT_A_GROUP")
  let some actor := findMember store dto.conversationId userId
    | throw (.forbidden "REMOVE_MEMBER:NOT_GROUP_MEMBER")
  if actor.role ≠ .owner then
    throw (.forbidden "REMOVE_MEMBER:ONLY_OWNER")
  let some targetUser := findMember store dto.conversationId (parseUuid dto.targetUserId)
    | throw (.notFound "REMOVE_MEMBER:TARGET_NOT_FOUND")
  if targetUser.role = .owner then
    throw (.forbidden "REMOVE_MEMBER:CANNOT_REMOVE_OWNER")
  if uuidText userId = dto.targetUserId then
    throw (.forbidden "REMOVE_MEMBER:USE_LEAVE_GROUP")
  return getConversationMembers store dto.conversationId

/-- The result is the member list that the MEMBER_REMOVED event carries. -/
def removeGroupMember (env : Env) (userId : Uuid) (dto : RemoveMemberDto) (store : Store) :
    Outcome (List ConversationMember) :=
  guarded store (removeGroupMemberChecks store userId dto) fun members =>
    transaction (env.succeeds 0) store fun current => do
      let (_, next) ← removeMemberFromGroup env.now dto.conversationId userId
        (parseUuid dto.targetUserId) .memberRemoved current
      return (members, next)

def deleteGroupChecks (store : Store) (userId conversationId : Uuid) :
    Except Exception (List ConversationMember) := do
  let some conversation := findById store conversationId
    | throw (.notFound "GROUP:NOT_FOUND")
  if conversation.type ≠ .groupType then
    throw (.forbidden "GROUP:INVALID_TYPE")
  let some owner := findMember store conversationId userId
    | throw (.forbidden "GROUP:USER_NOT_MEMBER")
  if owner.role ≠ .owner then
    throw (.forbidden "GROUP:ONLY_OWNER")
  return getConversationMembers store conversationId

/-- The result is the member list that the GROUP_DELETED event carries. -/
def deleteGroup (env : Env) (userId conversationId : Uuid) (store : Store) :
    Outcome (List ConversationMember) :=
  guarded store (deleteGroupChecks store userId conversationId) fun members =>
    transaction (env.succeeds 0) store fun current =>
      .ok (members, deleteConversation conversationId current)

def deletePrivateConversationChecks (store : Store) (userId conversationId : Uuid) :
    Except Exception Unit := do
  let some conversation := findById store conversationId
    | throw (.notFound "CONVERSATION:NOT_FOUND")
  if conversation.type ≠ .privateType then
    throw (.forbidden "CONVERSATION:INVALID_TYPE")
  let some member := findMember store conversationId userId
    | throw (.forbidden "CONVERSATION:USER_NOT_MEMBER")
  if member.softDeletedAt.isSome then
    throw (.forbidden "CONVERSATION:ALREADY_DELETED")

/-- The last member to leave deletes the conversation. -/
def deletePrivateConversationBody (now : Nat) (userId conversationId : Uuid) (store : Store) :
    Store :=
  let marked := markConversationAsDeleted now conversationId userId store
  if getRemainingConversations marked conversationId = 0 then
    deleteConversation conversationId marked
  else marked

def deletePrivateConversation (env : Env) (userId conversationId : Uuid) (store : Store) :
    Outcome Unit :=
  guarded store (deletePrivateConversationChecks store userId conversationId) fun _ =>
    transaction (env.succeeds 0) store fun current =>
      .ok ((), deletePrivateConversationBody env.now userId conversationId current)

def resetUnreadMessagesCount (env : Env) (userId conversationId : Uuid) (store : Store) :
    Outcome Unit :=
  transaction (env.succeeds 0) store fun current =>
    .ok ((), resetUnreadCount conversationId userId current)

end Messinger.ConversationService
