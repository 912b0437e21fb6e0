/-
This file models the frames that the server writes to its sockets, with the listeners of the group events.
-/
import Messinger.Model.MessageService
import Messinger.Model.WebSocketServer

namespace Messinger
open Library MessageService

structure ErrorInfo where
  message : String
  code : String
  deriving DecidableEq, Repr

/-- Only the exceptions of the service say what went wrong. -/
def getErrorInfo : Exception → ErrorInfo
  | .badRequest message => ⟨message, "BAD_REQUEST"⟩
  | .unauthorized message => ⟨message, "UNAUTHORIZED"⟩
  | .forbidden message => ⟨message, "FORBIDDEN"⟩
  | .notFound message => ⟨message, "NOT_FOUND"⟩
  | .conflict message => ⟨message, "CONFLICT"⟩
  | .validation message => ⟨message, "VALIDATION_ERROR"⟩
  | .typeError => ⟨"An unexpected error occurred.", "UNHANDLED_WS_ERROR"⟩
  | .failedCall => ⟨"An unexpected error occurred.", "UNHANDLED_WS_ERROR"⟩

/-- The client of a private message gets the members of its conversation as they were before the message. -/
structure MemberSummary where
  userId : Uuid
  username : Option Text
  lastSeenAt : Option Nat
  unreadCount : Nat
  deriving DecidableEq

/-- A message frame carries a new message, or a stored one for a client that comes back.
The answer to a private message that reaches nobody is empty. -/
inductive MessageData where
  | privateMessage (saved : SavedMessage) (members : List MemberSummary)
  | groupMessage (saved : SavedMessage)
  | synced (messageId conversationId : Uuid) (senderId : Option Uuid) (createdAt : Nat) (content : CodeUnits)
  | empty
  deriving DecidableEq

def MessageData.messageId : MessageData → Option Uuid
  | .privateMessage saved _ => some saved.id
  | .groupMessage saved => some saved.id
  | .synced messageId _ _ _ _ => some messageId
  | .empty => none

/-- These are the values of `WS_SERVER_EVENTS` with their data. -/
inductive WsServerMessage where
  | requestAuthToken
  | messageSent (data : MessageData)
  | newMessage (data : MessageData)
  | messageStatusUpdated (messageId userId : Uuid) (status : MessageStatus)
  | groupInvitation (conversationId : Uuid) (groupName : Option String) (invitedBy : Uuid)
  | pendingGroupInvitation (invitationId conversationId : Uuid)
  | groupMemberJoined (conversationId userId : Uuid)
  | groupMemberLeft (conversationId userId : Uuid)
  | groupMemberRemoved (conversationId actorId : Uuid) (removedUserId : Text)
  | groupOwnerChanged (conversationId previousOwnerId : Uuid) (newOwnerId : Text)
  | groupDeleted (conversationId : Uuid)
  | presenceOnline (userId : Uuid)
  | presenceOffline (userId : Uuid) (lastSeenAt : Nat)
  | typingStarted (userId : Uuid)
  | typingStopped (userId : Uuid)
  | error (info : ErrorInfo)
  deriving DecidableEq

/-- A frame is written to the socket of one connection. -/
structure Frame where
  receiver : Uuid
  message : WsServerMessage
  deriving DecidableEq

namespace WebSocketServer

/-- Nothing is written to a socket that is not open. -/
def sendMessage (server : WebSocketServer) (connectionId : Uuid) (message : WsServerMessage) : List Frame :=
  if server.isOpen connectionId then [⟨connectionId, message⟩] else []

def sendError (server : WebSocketServer) (connectionId : Uuid) (exception : Exception) : List Frame :=
  server.sendMessage connectionId (.error (getErrorInfo exception))

/-- The loops over the connections of a user send to one after the other. -/
def sendAll (server : WebSocketServer) (receivers : List Connection) (message : WsServerMessage) : List Frame :=
  receivers.flatMap fun receiver => server.sendMessage receiver.id message

def sendToUser (server : WebSocketServer) (userId : Uuid) (message : WsServerMessage) : List Frame :=
  server.sendAll (server.manager.getUserConnections userId) message

end WebSocketServer

/-- The map of users has the uuids as the database prints them, so no other value is a key of it. -/
inductive UserKey where
  | text (userId : Text)
  | row (member : ConversationMember)
  deriving DecidableEq

def ConnectionManager.connectionsUnder (manager : ConnectionManager) : UserKey → List Connection
  | .text userId => if uuidText (parseUuid userId) = userId then manager.getUserConnections (parseUuid userId) else []
  | .row _ => []

/-- Each payload holds the member rows that the service read before its transaction. -/
inductive GroupEvent where
  | memberLeft (conversationId userId : Uuid) (members : List ConversationMember)
  | memberRemoved (conversationId actorId : Uuid) (removedUserId : Text) (members : List ConversationMember)
  | ownershipTransferred (conversationId previousOwnerId : Uuid) (newOwnerId : Text)
      (members : List ConversationMember)
  | groupDeleted (conversationId : Uuid) (members : List ConversationMember)

/-- The frame says what the event says. -/
def GroupEvent.frame : GroupEvent → WsServerMessage
  | .memberLeft conversationId userId _ => .groupMemberLeft conversationId userId
  | .memberRemoved conversationId actorId removedUserId _ => .groupMemberRemoved conversationId actorId removedUserId
  | .ownershipTransferred conversationId previousOwnerId newOwnerId _ =>
      .groupOwnerChanged conversationId previousOwnerId newOwnerId
  | .groupDeleted conversationId _ => .groupDeleted conversationId

/-- These are the values that the loop of each listener looks up.
The removed user and the members form a set, and the loop of GROUP_DELETED looks up the rows themselves. -/
def GroupEvent.audience : GroupEvent → List UserKey
  | .memberLeft _ _ members => members.map fun member => .text (uuidText member.userId)
  | .memberRemoved _ _ removedUserId members =>
      (members.foldl (fun users member => addItem (uuidText member.userId) users) [removedUserId]).map .text
  | .ownershipTransferred _ _ _ members => members.map fun member => .text (uuidText member.userId)
  | .groupDeleted _ members => members.map .row

def WebSocketServer.notifyGroup (server : WebSocketServer) (event : GroupEvent) : List Frame :=
  event.audience.flatMap fun key => server.sendAll (server.manager.connectionsUnder key) event.frame

/-- A service call emits its event after its transaction. -/
def emitted {A : Type} (outcome : Outcome A) (event : A → GroupEvent) : Option GroupEvent :=
  outcome.1.toOption.map event

/-- These are the service calls that emit a group event. -/
inductive EmittingCall where
  | leaveGroup (userId conversationId : Uuid)
  | transferGroupOwnership (prevOwner : Uuid) (dto : ConversationService.TransferOwnershipDto)
  | removeGroupMember (userId : Uuid) (dto : ConversationService.RemoveMemberDto)
  | deleteGroup (userId conversationId : Uuid)

def EmittingCall.run (env : Env) (store : Store) : EmittingCall → Outcome (List ConversationMember)
  | .leaveGroup userId conversationId => ConversationService.leaveGroup env userId conversationId store
  | .transferGroupOwnership prevOwner dto => ConversationService.transferGroupOwnership env prevOwner dto store
  | .removeGroupMember userId dto => ConversationService.removeGroupMember env userId dto store
  | .deleteGroup userId conversationId => ConversationService.deleteGroup env userId conversationId store

/-- The members are the rows that the call has read. -/
def EmittingCall.event (members : List ConversationMember) : EmittingCall → GroupEvent
  | .leaveGroup userId conversationId => .memberLeft conversationId userId members
  | .transferGroupOwnership prevOwner dto =>
      .ownershipTransferred dto.conversationId prevOwner dto.newOwnerId members
  | .removeGroupMember userId dto => .memberRemoved dto.conversationId userId dto.targetUserId members
  | .deleteGroup _ conversationId => .groupDeleted conversationId members

def EmittingCall.emits (env : Env) (store : Store) (call : EmittingCall) : Option GroupEvent :=
  emitted (call.run env store) fun members => call.event members

end Messinger
