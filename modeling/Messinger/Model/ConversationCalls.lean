import Messinger.Model.MessageService

namespace Messinger
open ConversationService MessageService

/-- These calls create, change and delete conversations. -/
inductive ConversationCall where
  | createGroup (ownerId : Uuid) (dto : CreateGroupDto)
  | createPrivateMessage (senderId : Uuid) (dto : PrivateMessageDto)
  | validateGroupInvitation (actorId : Uuid) (dto : InviteGroupMemberDto)
  | acceptGroupInvitation (conversationId userId : Uuid)
  | rejectGroupInvitation (conversationId userId : Uuid)
  | leaveGroup (userId conversationId : Uuid)
  | transferGroupOwnership (prevOwner : Uuid) (dto : TransferOwnershipDto)
  | removeGroupMember (userId : Uuid) (dto : RemoveMemberDto)
  | deleteGroup (userId conversationId : Uuid)
  | deletePrivateConversation (userId conversationId : Uuid)

/-- A call runs to completion, and a failed call may leave what it wrote before. -/
def runCall (platform : Platform) (store : Store) (action : Env × ConversationCall) :
    Store :=
  let env := action.1
  match action.2 with
  | .createGroup ownerId dto => (createGroup env ownerId dto store).2
  | .createPrivateMessage senderId dto => (createPrivateMessage platform env senderId dto store).2
  | .validateGroupInvitation actorId dto => (validateGroupInvitation env actorId dto store).2
  | .acceptGroupInvitation conversationId userId =>
      (acceptGroupInvitation env conversationId userId store).2
  | .rejectGroupInvitation conversationId userId =>
      (rejectGroupInvitation env conversationId userId store).2
  | .leaveGroup userId conversationId => (leaveGroup env userId conversationId store).2
  | .transferGroupOwnership prevOwner dto => (transferGroupOwnership env prevOwner dto store).2
  | .removeGroupMember userId dto => (removeGroupMember env userId dto store).2
  | .deleteGroup userId conversationId => (deleteGroup env userId conversationId store).2
  | .deletePrivateConversation userId conversationId =>
      (deletePrivateConversation env userId conversationId store).2

/-- These calls form the life of a group and its invitations. -/
inductive GroupCall where
  | createGroup (ownerId : Uuid) (dto : CreateGroupDto)
  | validateGroupInvitation (actorId : Uuid) (dto : InviteGroupMemberDto)
  | acceptGroupInvitation (conversationId userId : Uuid)
  | rejectGroupInvitation (conversationId userId : Uuid)
  | leaveGroup (userId conversationId : Uuid)
  | removeGroupMember (userId : Uuid) (dto : RemoveMemberDto)
  | transferGroupOwnership (prevOwner : Uuid) (dto : TransferOwnershipDto)

def runGroupCall (store : Store) (action : Env × GroupCall) : Store :=
  let env := action.1
  match action.2 with
  | .createGroup ownerId dto => (createGroup env ownerId dto store).2
  | .validateGroupInvitation actorId dto => (validateGroupInvitation env actorId dto store).2
  | .acceptGroupInvitation conversationId userId =>
      (acceptGroupInvitation env conversationId userId store).2
  | .rejectGroupInvitation conversationId userId =>
      (rejectGroupInvitation env conversationId userId store).2
  | .leaveGroup userId conversationId => (leaveGroup env userId conversationId store).2
  | .removeGroupMember userId dto => (removeGroupMember env userId dto store).2
  | .transferGroupOwnership prevOwner dto => (transferGroupOwnership env prevOwner dto store).2

/-- These calls fill and empty private conversations. -/
inductive PrivateCall where
  | createPrivateMessage (senderId : Uuid) (dto : PrivateMessageDto)
  | deletePrivateConversation (userId conversationId : Uuid)

def runPrivateCall (platform : Platform) (store : Store) (action : Env × PrivateCall) : Store :=
  let env := action.1
  match action.2 with
  | .createPrivateMessage senderId dto => (createPrivateMessage platform env senderId dto store).2
  | .deletePrivateConversation userId conversationId =>
      (deletePrivateConversation env userId conversationId store).2

/-- Every string that `z.uuid()` accepts has 36 hexadecimal digits and dashes, in either letter case. -/
def isUuid (text : Text) : Bool :=
  text.length == 36 && text.zipIdx.all fun (letter, index) =>
    if index = 8 ∨ index = 13 ∨ index = 18 ∨ index = 23 then letter == '-'
    else letter.isDigit || ('a' ≤ letter && letter ≤ 'f') || ('A' ≤ letter && letter ≤ 'F')

/-- These calls decide which users share a private conversation, and the receiver has passed the DTO. -/
inductive PairCall where
  | createPrivateMessage (senderId : Uuid) (dto : PrivateMessageDto) (accepted : isUuid dto.receiverId = true)
  | deletePrivateConversation (userId conversationId : Uuid)
  | leaveGroup (userId conversationId : Uuid)

def PairCall.call : PairCall → ConversationCall
  | .createPrivateMessage senderId dto _ => .createPrivateMessage senderId dto
  | .deletePrivateConversation userId conversationId => .deletePrivateConversation userId conversationId
  | .leaveGroup userId conversationId => .leaveGroup userId conversationId

def runPairCall (platform : Platform) (store : Store) (action : Env × PairCall) : Store :=
  runCall platform store (action.1, action.2.call)

/-- The database starts with users and their uploads and without conversations. -/
def emptyStore (users : List User) (pendingUploads : List PendingUpload) (bucket : List StorageKey)
    (nextId : Uuid) : Store :=
  { users, pendingUploads, bucket, nextId }

end Messinger
