/-
This file joins the WebSocket server with its handlers, the database and the frames. A service call runs in
one turn, and what else changes the database or emits an event is a turn of its own.
-/
import Messinger.Model.Handlers

namespace Messinger
open Library

/-- The log of settled listeners says with which exception the promise of a listener was rejected, if it was. -/
structure LiveServer where
  server : WebSocketServer := {}
  store : Store := {}
  frames : List Frame := []
  settled : List (Uuid × Except Exception Unit) := []

/-- A frame arrives as bytes, and a request to upgrade may carry a cookie with an access token. -/
inductive LiveEvent where
  | connection (accessToken : Option Text)
  | message (connectionId : Uuid) (raw : Bytes)
  | timeout (connectionId : Uuid)
  | close (connectionId : Uuid)
  | database (next : Store)
  | group (event : GroupEvent)

/-- Each task stands at one await of the connection callback, of a message listener or of the offline handler. -/
inductive LiveTask where
  | authenticateWsConnection (connectionId : Uuid) (accessToken : Option Text)
  | getWsSession (awaiter : Awaiter) (connectionId sessionId : Uuid)
  | syncPendingMessages (awaiter : Awaiter) (connectionId userId : Uuid)
  | syncPendingGroupInvitations (awaiter : Awaiter) (connectionId userId : Uuid)
  | dispatch (connectionId : Uuid) (command : Command)
  | updateLastSeenAt (userId : Uuid)

/-- These are the frames of a broadcast. -/
def PresenceFrame.frames (frame : PresenceFrame) : List Frame :=
  frame.receivers.map fun receiver =>
    ⟨receiver, match frame.presence with
      | .online => .presenceOnline frame.userId
      | .offline lastSeenAt => .presenceOffline frame.userId lastSeenAt⟩

namespace LiveServer

def write (frames : List Frame) (live : LiveServer) : LiveServer := { live with frames := live.frames ++ frames }

/-- The server goes on, and the frames of its new broadcasts are written. -/
def become (next : WebSocketServer) (live : LiveServer) : LiveServer :=
  { live with
    server := next
    frames := live.frames ++ (next.frames.drop live.server.frames.length).flatMap PresenceFrame.frames }

def settle (connectionId : Uuid) (result : Except Exception Unit) (live : LiveServer) : LiveServer :=
  { live with settled := live.settled ++ [(connectionId, result)] }

/-- The `catch` of the listener answers the error, and the listener returns. -/
def caught (connectionId : Uuid) (exception : Exception) (live : LiveServer) : LiveServer :=
  (live.write (live.server.sendError connectionId exception)).settle connectionId (.ok ())

/-- The `catch` of the connection callback answers the error and closes the socket. -/
def refused (awaiter : Awaiter) (connectionId : Uuid) (exception : Exception) (live : LiveServer) : LiveServer :=
  match awaiter with
  | .callback =>
      (live.write (live.server.sendError connectionId exception)).become
        (live.server.authenticationFailed .callback connectionId)
  | .listener => live.caught connectionId exception

/-- This is `requireAuthentication`. -/
def requireAuthentication (connectionId : Uuid) (live : LiveServer) : Except Exception Uuid :=
  match lookup Connection.id connectionId live.server.manager.objects with
  | some { userId := some userId, sessionId := some _, .. } => .ok userId
  | _ => .error (.unauthorized "AUTHENTICATION_REQUIRED")

/-- A message of another type has no handler, and the dispatcher returns. -/
def dispatch (connectionId : Uuid) (type data : Option Json) (live : LiveServer) : Except Exception (Option Command) := do
  let some event := wsClientEvent type | return none
  let userId ← live.requireAuthentication connectionId
  handlerOf userId data event

/-- This is the listener up to its first await, which is the session of a token or the service of a handler. -/
def listen (platform : Platform) (jsonParse : CodeUnits → Option Json) (env : Env) (connectionId : Uuid) (raw : Bytes)
    (live : LiveServer) : Except Exception (Option LiveTask) :=
  match jsonParse (utf8Decode raw) with
  | none => .error .typeError
  | some message => do
      let type ← property "type" (some message)
      let data ← property "data" (some message)
      if wsClientEvent type = some .authTokenSent then
        let accessToken ← property "accessToken" data
        let sessionId ← verifyWsToken platform env.now (match accessToken with
          | some (.string token) => some (textOf token)
          | _ => none)
        return some (.getWsSession .listener connectionId sessionId)
      else
        let command ← live.dispatch connectionId type data
        return command.map (.dispatch connectionId)

def onMessage (platform : Platform) (jsonParse : CodeUnits → Option Json) (env : Env) (connectionId : Uuid)
    (raw : Bytes) (live : LiveServer) : LiveServer × Option LiveTask :=
  match live.listen platform jsonParse env connectionId raw with
  | .error exception => (live.caught connectionId exception, none)
  | .ok none => (live.settle connectionId (.ok ()), none)
  | .ok (some task) => (live, some task)

/-- A closed socket emits nothing more, and a socket without listeners drops what it emits. -/
def emitMessage (platform : Platform) (jsonParse : CodeUnits → Option Json) (env : Env) (connectionId : Uuid)
    (raw : Bytes) (live : LiveServer) : LiveServer × Option LiveTask :=
  match live.server.findSocket connectionId with
  | none => (live, none)
  | some socket =>
      if socket.closed || !socket.listening then (live, none)
      else live.onMessage platform jsonParse env connectionId raw

/-- The only task that the server itself starts on a closed socket is the offline handler. -/
def offlineTask : Option ServerTask → Option LiveTask
  | some (.updateLastSeenAt userId) => some (.updateLastSeenAt userId)
  | _ => none

def start (platform : Platform) (jsonParse : CodeUnits → Option Json) (live : LiveServer) (call : Env × LiveEvent) :
    LiveServer × Option LiveTask :=
  match call.2 with
  | .connection accessToken =>
      (live.become live.server.connect.1,
        some (.authenticateWsConnection live.server.manager.nextId accessToken))
  | .message connectionId raw => live.emitMessage platform jsonParse call.1 connectionId raw
  | .timeout connectionId => (live.become (live.server.fireTimeout connectionId).1, none)
  | .close connectionId =>
      (live.become (live.server.emitClose connectionId).1, offlineTask (live.server.emitClose connectionId).2)
  | .database next => ({ live with store := next }, none)
  | .group event => (live.write (live.server.notifyGroup event), none)

/-- The client without a cookie is asked for its token. -/
def askForToken (connectionId : Uuid) (live : LiveServer) : LiveServer :=
  (live.write (live.server.sendMessage connectionId .requestAuthToken)).become
    (live.server.requestAuthToken connectionId)

/-- A listener that has authenticated its connection returns. -/
def authenticated (awaiter : Awaiter) (connectionId : Uuid) (live : LiveServer) : LiveServer :=
  let done := live.become (live.server.authenticationDone awaiter connectionId)
  match awaiter with
  | .callback => done
  | .listener => done.settle connectionId (.ok ())

def resume (platform : Platform) (live : LiveServer) (task : LiveTask) (env : Env) : LiveServer × Option LiveTask :=
  match task with
  | .authenticateWsConnection connectionId accessToken =>
      if env.succeeds 0 = false then (live.refused .callback connectionId .failedCall, none)
      else
        match truthy accessToken with
        | none => (live.askForToken connectionId, none)
        | some token =>
            match verifyWsToken platform env.now (some token) with
            | .error exception => (live.refused .callback connectionId exception, none)
            | .ok sessionId => (live, some (.getWsSession .callback connectionId sessionId))
  | .getWsSession awaiter connectionId sessionId =>
      match wsSession env sessionId live.store with
      | .error exception => (live.refused awaiter connectionId exception, none)
      | .ok session =>
          (live.become (live.server.authenticate connectionId session.userId session.id),
            some (.syncPendingMessages awaiter connectionId session.userId))
  | .syncPendingMessages awaiter connectionId userId =>
      let synced := syncPending platform env live.server userId live.store
      let sent := { live.write synced.1 with store := synced.2.2 }
      match synced.2.1 with
      | .error exception => (sent.refused awaiter connectionId exception, none)
      | .ok () => (sent, some (.syncPendingGroupInvitations awaiter connectionId userId))
  | .syncPendingGroupInvitations awaiter connectionId userId =>
      if env.succeeds 0 = false then (live.refused awaiter connectionId .failedCall, none)
      else
        ((live.write (pendingInvitationFrames env live.server userId live.store)).authenticated awaiter connectionId,
          none)
  | .dispatch connectionId command =>
      let outcome := runCommand platform env live.server connectionId live.store command
      match outcome.1 with
      | .error exception => ({ live with store := outcome.2 }.caught connectionId exception, none)
      | .ok frames => (({ live with store := outcome.2 }.write frames).settle connectionId (.ok ()), none)
  -- nobody awaits the offline handler, so its rejection ends it without a broadcast
  | .updateLastSeenAt userId =>
      let outcome := UserService.updateLastSeenAt env userId live.store
      match outcome.1 with
      | .error _ => (live, none)
      | .ok lastSeenAt =>
          ({ live with store := outcome.2 }.become (live.server.presenceOfflineHandler userId lastSeenAt), none)

end LiveServer

/-- The live server runs its callbacks, listeners and handlers one turn at a time. -/
def liveServer (platform : Platform) (jsonParse : CodeUnits → Option Json) :
    Cooperative LiveServer (Env × LiveEvent) LiveTask Env where
  start := LiveServer.start platform jsonParse
  resume := LiveServer.resume platform

end Messinger
