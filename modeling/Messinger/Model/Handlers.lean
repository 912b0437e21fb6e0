/-
This file models the handlers of the WebSocket messages after their guards. Each awaits one service call.
-/
import Messinger.Model.AdminService
import Messinger.Model.Frames
import Messinger.Model.OfflineSync
import Messinger.Model.Schemas

namespace Messinger
open Library ConversationMemberRepository ConversationRepository ConversationService MessageService
  MessageDeliveryRepository

/-- A handler that has parsed its data holds these values when it awaits its service. -/
inductive Command where
  | sendPrivateMessage (senderId : Uuid) (dto : PrivateMessageDto)
  | sendGroupMessage (senderId : Uuid) (dto : GroupMessageDto)
  | confirmDelivery (userId : Uuid) (dto : MessageDeliveryDto)
  | inviteGroupMember (actorId : Uuid) (dto : InviteGroupMemberDto)
  | acceptGroupInvitation (conversationId userId : Uuid)
  | rejectGroupInvitation (conversationId userId : Uuid)
  | typing (userId : Uuid) (dto : TypingDto)

/-- A rejected schema throws a `ZodError`, which the dispatcher answers with this exception. -/
def parsed {A : Type} (schema : Option A) : Except Exception A :=
  match schema with
  | some value => .ok value
  | none => .error (.validation "INVALID_WS_MESSAGE_PAYLOAD")

/-- These are the handlers that are registered for the events, up to their first await. -/
def handlerOf (userId : Uuid) (data : Option Json) : WsClientEvent → Except Exception (Option Command)
  | .authTokenSent => .ok none
  | .sendPrivateMessage => (parsed (privateMessageSchema data)).map fun dto => some (.sendPrivateMessage userId dto)
  | .sendGroupMessage => (parsed (groupMessageSchema data)).map fun dto => some (.sendGroupMessage userId dto)
  | .messageDelivered => (parsed (messageDeliverySchema data)).map fun dto => some (.confirmDelivery userId dto)
  | .messageRead => (parsed (messageDeliverySchema data)).map fun dto => some (.confirmDelivery userId dto)
  | .groupInviteMember => (parsed (inviteGroupMemberSchema data)).map fun dto => some (.inviteGroupMember userId dto)
  | .groupInvitationAccept =>
      (parsed (groupInvitationSchema data)).map fun conversationId => some (.acceptGroupInvitation conversationId userId)
  | .groupInvitationReject =>
      (parsed (groupInvitationSchema data)).map fun conversationId => some (.rejectGroupInvitation conversationId userId)
  | .typingStart => (parsed (typingSchema data)).map fun dto => some (.typing userId dto)
  | .typingStop => (parsed (typingSchema data)).map fun dto => some (.typing userId dto)

/-- A failed service call throws, and a successful one is followed by the frames of the handler. -/
def answered {A : Type} (outcome : Outcome A) (frames : A → List Frame) : Outcome (List Frame) :=
  (outcome.1.map frames, outcome.2)

def memberSummary (store : Store) (member : ConversationMember) : MemberSummary where
  userId := member.userId
  username := (UserRepository.findById store member.userId).bind User.username
  lastSeenAt := (UserRepository.findById store member.userId).bind User.lastSeenAt
  unreadCount := member.unreadCount

section Handlers
variable (platform : Platform) (env : Env) (server : WebSocketServer) (connectionId : Uuid)

/-- The answer to the sender repeats what the last receiver got. -/
def privateMessageHandler (senderId : Uuid) (dto : PrivateMessageDto) (store : Store) : Outcome (List Frame) :=
  let outcome := createPrivateMessage platform env senderId dto store
  answered outcome fun (members, saved) =>
    let receivers := members.filter fun member => member.userId != senderId
    let data := MessageData.privateMessage saved (members.map (memberSummary outcome.2))
    (receivers.flatMap fun member => server.sendToUser member.userId (.newMessage data)) ++
      server.sendMessage connectionId (.messageSent (if receivers = [] then .empty else data))

def groupMessageHandler (senderId : Uuid) (dto : GroupMessageDto) (store : Store) : Outcome (List Frame) :=
  answered (createGroupMessage platform env senderId dto store) fun (saved, members) =>
    ((members.filter fun member => member.userId != senderId).flatMap fun member =>
        server.sendToUser member.userId (.newMessage (.groupMessage saved))) ++
      server.sendMessage connectionId (.messageSent (.groupMessage saved))

/-- A message whose sender is gone has nobody to notify. -/
def messageDeliveryHandler (userId : Uuid) (dto : MessageDeliveryDto) (store : Store) : Outcome (List Frame) :=
  answered (confirmDelivery env userId dto store) fun delivery =>
    match (lookup Message.id delivery.messageId store.messages).bind Message.senderId with
    | none => []
    | some senderId =>
        server.sendToUser senderId (.messageStatusUpdated delivery.messageId delivery.userId dto.status)

def inviteGroupMemberHandler (actorId : Uuid) (dto : InviteGroupMemberDto) (store : Store) : Outcome (List Frame) :=
  answered (validateGroupInvitation env actorId dto store) fun conversation =>
    server.sendAll (server.manager.connectionsUnder (.text dto.targetUserId))
      (.groupInvitation conversation.id conversation.name actorId)

def acceptGroupInvitationHandler (conversationId userId : Uuid) (store : Store) : Outcome (List Frame) :=
  answered (acceptGroupInvitation env conversationId userId store) fun members =>
    members.flatMap fun member => server.sendToUser member.userId (.groupMemberJoined conversationId userId)

def rejectGroupInvitationHandler (conversationId userId : Uuid) (store : Store) : Outcome (List Frame) :=
  answered (rejectGroupInvitation env conversationId userId store) fun _ => []

/-- The handler only reads, and an inactive member is ignored. -/
def typingStartHandler (userId : Uuid) (dto : TypingDto) (store : Store) : Outcome (List Frame) :=
  if env.succeeds 0 = false then (.error .failedCall, store)
  else
    match findMember store dto.conversationId userId with
    | none => (.ok [], store)
    | some member =>
        if member.softDeletedAt.isSome then (.ok [], store)
        else
          (.ok (((getMembers store dto.conversationId).filter fun other => other.userId != userId).flatMap fun other =>
            server.sendToUser other.userId (if dto.isTyping then .typingStarted userId else .typingStopped userId)), store)

def runCommand (store : Store) : Command → Outcome (List Frame)
  | .sendPrivateMessage senderId dto => privateMessageHandler platform env server connectionId senderId dto store
  | .sendGroupMessage senderId dto => groupMessageHandler platform env server connectionId senderId dto store
  | .confirmDelivery userId dto => messageDeliveryHandler env server userId dto store
  | .inviteGroupMember actorId dto => inviteGroupMemberHandler env server actorId dto store
  | .acceptGroupInvitation conversationId userId => acceptGroupInvitationHandler env server conversationId userId store
  | .rejectGroupInvitation conversationId userId => rejectGroupInvitationHandler env conversationId userId store
  | .typing userId dto => typingStartHandler env server userId dto store

end Handlers

/-- The pending deliveries and messages go to all connections of the user, the newest first. -/
def pendingMessageFrames (platform : Platform) (server : WebSocketServer) (userId : Uuid) (store : Store) :
    List Frame :=
  (findPending store userId).flatMap fun delivery =>
    match lookup Message.id delivery.messageId store.messages with
    | none => []
    | some message =>
        match decipherMessage platform message.cipheredContent message.iv message.authTag with
        | .error _ => []
        | .ok content =>
            server.sendToUser userId
              (.newMessage (.synced message.id message.conversationId message.senderId message.createdAt content))

/-- A message that cannot be deciphered throws before anything is sent, and the update follows the frames. -/
def syncPending (platform : Platform) (env : Env) (server : WebSocketServer) (userId : Uuid) (store : Store) :
    List Frame × Outcome Unit :=
  let connected := !(server.manager.getUserConnections userId).isEmpty
  let readable := (syncPendingMessages platform { env with succeeds := fun _ => true } connected userId store).1.isOk
  (if readable then pendingMessageFrames platform server userId store else [],
    syncPendingMessages platform env connected userId store)

/-- The synchronization yields at three awaits, and other calls write between them.
The frames are sent after the messages are read, to the connections and the sockets of that moment. -/
structure SyncAwaits where
  found : Store
  read : Store
  server : WebSocketServer
  written : Store
  env : Env

/-- A message that is not found is skipped. -/
def syncedFrames (platform : Platform) (server : WebSocketServer) (userId : Uuid) (store : Store)
    (messageIds : List Uuid) : List Frame :=
  messageIds.flatMap fun messageId =>
    match lookup Message.id messageId store.messages with
    | none => []
    | some message =>
        match decipherMessage platform message.cipheredContent message.iv message.authTag with
        | .error _ => []
        | .ok content =>
            server.sendToUser userId
              (.newMessage (.synced message.id message.conversationId message.senderId message.createdAt content))

/-- The result is what the synchronization has sent and the store that it leaves. -/
def SyncAwaits.run (platform : Platform) (awaits : SyncAwaits) (userId : Uuid) : List Frame × Store :=
  let answer : DeliveryAnswer :=
    { env := awaits.env, connected := !(awaits.server.manager.getUserConnections userId).isEmpty }
  match (OfflineSyncService.start awaits.found (awaits.env, .syncPendingMessages userId)).2 with
  | none => ([], awaits.written)
  | some reading =>
      match (OfflineSyncService.resume platform awaits.read reading answer).2 with
      | none => ([], awaits.written)
      | some marking =>
          (syncedFrames platform awaits.server userId awaits.read
              ((findPending awaits.found userId).map MessageDelivery.messageId),
            (OfflineSyncService.resume platform awaits.written marking answer).1)

/-- The invitations that are pending and in the future go to all connections of the user. -/
def pendingInvitationFrames (env : Env) (server : WebSocketServer) (userId : Uuid) (store : Store) : List Frame :=
  (store.invitations.filter fun invitation =>
      invitation.targetId == userId && invitation.status == .pending &&
        decide (jsDate env.now < invitation.expiresAt)).flatMap fun invitation =>
    server.sendToUser userId (.pendingGroupInvitation invitation.id invitation.conversationId)

/-- This is the check of the signature in `getWsSession`. -/
def verifyWsToken (platform : Platform) (now : Nat) (accessToken : Option Text) : Except Exception Uuid :=
  match accessToken.map fun token => platform.jwtVerify token platform.jwtSecret now with
  | some (.payload claims) => .ok claims.sid
  | _ => .error (.unauthorized "WS_AUTH:INVALID_ACCESS_TOKEN")

/-- This is the check of the session in `getWsSession`. -/
def wsSession (env : Env) (sessionId : Uuid) (store : Store) : Except Exception Session :=
  if env.succeeds 0 = false then .error .failedCall
  else
    match lookup Session.id sessionId store.sessions with
    | none => .error (.unauthorized "WS_AUTH:INVALID_SESSION")
    | some session =>
        if session.isRevoked then .error (.unauthorized "WS_AUTH:SESSION_REVOKED")
        else if getTime session.expiresAt < getTime env.now then .error (.unauthorized "WS_AUTH:EXPIRED_SESSION")
        else .ok session

end Messinger
