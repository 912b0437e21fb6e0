/-
This file models the calls on private conversations, one committed step at a time. A call reads and checks
rows before its transaction, and a transaction under READ COMMITTED counts the rows that are committed then.
-/
import Messinger.Library.Tasks
import Messinger.Model.AdminService
import Messinger.Model.ConversationCalls

namespace Messinger
open Library ConversationMemberRepository ConversationRepository

namespace ConversationService

/-- This is `getOrCreatePrivateConversation` up to its lookup, and a call without an answer goes on. -/
def findPrivateConversation (platform : Platform) (params : CreateConversationParams) (store : Store) :
    Option (Except Exception Conversation) :=
  let uniqueMembers := normalizeMembers params.creatorId params.members
  if 2 < uniqueMembers.length then
    some (.error (.forbidden "CREATE_CONVERSATION:PRIVATE_CONVERSATION_REQUIRES_TWO_USERS"))
  else (findByPrivateKey store (generatePrivateKey platform uniqueMembers)).map .ok

/-- This is the transaction that creates the conversation, and it fails when the key is taken by then. -/
def createPrivateConversation (platform : Platform) (env : Env) (params : CreateConversationParams)
    (store : Store) : Outcome Conversation :=
  let uniqueMembers := normalizeMembers params.creatorId params.members
  transaction (env.succeeds 0) store
    (createConversation env.now params (some (generatePrivateKey platform uniqueMembers)) uniqueMembers)

/-- The count decided before the commit whether the conversation goes with its last member. -/
def finishDeletion (now : Nat) (userId conversationId : Uuid) (remaining : Nat) (store : Store) : Store :=
  let marked := markConversationAsDeleted now conversationId userId store
  if remaining = 0 then deleteConversation conversationId marked else marked

end ConversationService

open ConversationService

/-- The content is ciphered before the first await. -/
structure PrivateDraft where
  senderId : Uuid
  dto : PrivateMessageDto
  ciphered : MessageService.CipheredMessage

def PrivateDraft.params (message : PrivateDraft) : CreateConversationParams :=
  { type := .privateType, creatorId := uuidText message.senderId, members := [message.dto.receiverId] }

inductive PrivateTask where
  | createConversation (message : PrivateDraft)
  | findMembers (message : PrivateDraft) (conversation : Conversation)
  | saveMessage (message : PrivateDraft) (conversation : Conversation)
      (sender receiver : Option ConversationMember) (members : List ConversationMember)
  | countRemaining (userId conversationId : Uuid)
  | commitDeletion (userId conversationId : Uuid) (now remaining : Nat)
  | commitLeave (userId conversationId : Uuid)
  | deleteFiles (dto : UserDto) (doomed : List Uuid)
  | commitUser (dto : UserDto) (doomed : List Uuid)

/-- These calls make private conversations, fill them and take members away from them. -/
inductive OccupancyCall where
  | createPrivateMessage (senderId : Uuid) (dto : PrivateMessageDto)
  | deletePrivateConversation (userId conversationId : Uuid)
  | leaveGroup (userId conversationId : Uuid)
  | deleteUser (dto : UserDto)

namespace PrivateTask

def start (platform : Platform) (store : Store) (call : Env × OccupancyCall) : Store × Option PrivateTask :=
  match call.2 with
  | .createPrivateMessage senderId dto =>
      let message : PrivateDraft :=
        { senderId, dto, ciphered := MessageService.cipherMessage platform call.1 dto.content }
      match findPrivateConversation platform message.params store with
      | some (.error _) => (store, none)
      | some (.ok conversation) => (store, some (.findMembers message conversation))
      | none => (store, some (.createConversation message))
  | .deletePrivateConversation userId conversationId =>
      match deletePrivateConversationChecks store userId conversationId with
      | .error _ => (store, none)
      | .ok _ => (store, some (.countRemaining userId conversationId))
  | .leaveGroup userId conversationId =>
      match leaveGroupChecks store userId conversationId with
      | .error _ => (store, none)
      | .ok _ => (store, some (.commitLeave userId conversationId))
  | .deleteUser dto => (store, some (.deleteFiles dto (AdminService.conversationsToDelete store dto.userId)))

/-- The count sees the caller's own mark and no uncommitted one. -/
def resume (platform : Platform) (store : Store) (task : PrivateTask) (env : Env) : Store × Option PrivateTask :=
  match task with
  | .createConversation message =>
      match createPrivateConversation platform env message.params store with
      | (.error _, next) => (next, none)
      | (.ok conversation, next) => (next, some (.findMembers message conversation))
  | .findMembers message conversation =>
      (store, some (.saveMessage message conversation
        (findMember store conversation.id message.senderId)
        (findMember store conversation.id (parseUuid message.dto.receiverId))
        (getConversationMembers store conversation.id)))
  | .saveMessage message conversation sender receiver members =>
      ((transaction (env.succeeds 1) store
        (MessageService.createPrivateMessageBody env.now message.senderId message.dto message.ciphered conversation
          sender receiver members)).2, none)
  | .countRemaining userId conversationId =>
      (store, some (.commitDeletion userId conversationId env.now
        (getRemainingConversations (markConversationAsDeleted env.now conversationId userId store) conversationId)))
  | .commitDeletion userId conversationId now remaining =>
      ((transaction (env.succeeds 0) store fun current =>
        .ok ((), finishDeletion now userId conversationId remaining current)).2, none)
  | .commitLeave userId conversationId =>
      ((transaction (env.succeeds 0) store
        (removeMemberFromGroup env.now conversationId userId userId .memberLeft)).2, none)
  | .deleteFiles dto doomed =>
      match StorageService.deleteFiles env (AdminService.storageKeysOf store
            (store.messages.filter fun message => doomed.contains message.conversationId)) store with
      | (.error _, emptied) => (emptied, none)
      | (.ok _, emptied) => (emptied, some (.commitUser dto doomed))
  | .commitUser dto doomed =>
      ((transaction (env.succeeds 0) store fun current =>
        .ok ((), (current.deleteConversations fun id => doomed.contains id).deleteUsers
          fun user => user.id == dto.userId)).2, none)

end PrivateTask

/-- The calls of all users run one committed step at a time. -/
def privateSystem (platform : Platform) : Cooperative Store (Env × OccupancyCall) PrivateTask Env where
  start := PrivateTask.start platform
  resume := PrivateTask.resume platform

/-- One of two users opens their conversation, and spells the other one in a way that the DTO accepts. -/
structure PairOpening (first second : Uuid) where
  senderId : Uuid
  receiverId : Text
  accepted : isUuid receiverId = true
  pair : (senderId = first ∧ parseUuid receiverId = second) ∨ (senderId = second ∧ parseUuid receiverId = first)

def PairOpening.params {first second : Uuid} (opening : PairOpening first second) : CreateConversationParams :=
  { type := .privateType, creatorId := uuidText opening.senderId, members := [opening.receiverId] }

/-- The state keeps the answer of every call that has returned. -/
structure OpeningState (first second : Uuid) where
  store : Store
  answers : List (PairOpening first second × Except Exception Conversation) := []

/-- The calls of `getOrCreatePrivateConversation` by the two users look up and create in two steps. -/
def openingSystem (platform : Platform) (first second : Uuid) :
    Cooperative (OpeningState first second) (PairOpening first second) (PairOpening first second) Env where
  start state opening :=
    match findPrivateConversation platform opening.params state.store with
    | some answer => ({ state with answers := state.answers ++ [(opening, answer)] }, none)
    | none => (state, some opening)
  resume state opening env :=
    let outcome := createPrivateConversation platform env opening.params state.store
    ({ store := outcome.2, answers := state.answers ++ [(opening, outcome.1)] }, none)

/-- The sender writes to the receiver, and each of them deletes conversations. -/
inductive ReopeningCall (senderId receiverId : Uuid) where
  | createPrivateMessage (dto : PrivateMessageDto) (receiver : parseUuid dto.receiverId = receiverId)
  | deletePrivateConversation (userId conversationId : Uuid) (party : userId = senderId ∨ userId = receiverId)

def ReopeningCall.call {senderId receiverId : Uuid} : ReopeningCall senderId receiverId → OccupancyCall
  | .createPrivateMessage dto _ => .createPrivateMessage senderId dto
  | .deletePrivateConversation userId conversationId _ => .deletePrivateConversation userId conversationId

/-- The state keeps the conversations and messages that have committed since the last deletion started. -/
structure ReopeningState where
  store : Store
  reopened : List (Uuid × Uuid) := []

/-- The start of a deletion ends what the messages of its conversation promise. -/
def ReopeningCall.ends {senderId receiverId : Uuid} (call : ReopeningCall senderId receiverId)
    (entry : Uuid × Uuid) : Bool :=
  match call with
  | .createPrivateMessage _ _ => false
  | .deletePrivateConversation _ conversationId _ => entry.1 == conversationId

/-- A message transaction that commits reopens its conversation. -/
def PrivateTask.reopens (store : Store) (task : PrivateTask) (env : Env) : List (Uuid × Uuid) :=
  match task with
  | .saveMessage message conversation sender receiver members =>
      match (transaction (env.succeeds 1) store
          (MessageService.createPrivateMessageBody env.now message.senderId message.dto message.ciphered conversation
            sender receiver members)).1 with
      | .error _ => []
      | .ok saved => [(conversation.id, saved.id)]
  | _ => []

def reopeningSystem (platform : Platform) (senderId receiverId : Uuid) :
    Cooperative ReopeningState (Env × ReopeningCall senderId receiverId) PrivateTask Env where
  start state call :=
    let outcome := PrivateTask.start platform state.store (call.1, call.2.call)
    ({ store := outcome.1, reopened := state.reopened.filter fun entry => !call.2.ends entry }, outcome.2)
  resume state task env :=
    let outcome := PrivateTask.resume platform state.store task env
    ({ store := outcome.1, reopened := state.reopened ++ task.reopens state.store env }, outcome.2)

end Messinger
