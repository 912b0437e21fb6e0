/-
This file models the WebSocket server. Each await of a callback or a listener yields, and an event that
no listener awaits is dropped.
-/
import Messinger.Library.Tasks
import Messinger.Model.ConnectionManager

namespace Messinger
open Library

/-- The socket keeps the variables of its connection callback.
The message and close listeners are installed together. -/
structure Socket where
  connectionId : Uuid
  listening : Bool := false
  authenticated : Bool := false
  authTimeout : Bool := false
  closing : Bool := false
  closed : Bool := false
  deriving DecidableEq, Repr

inductive Presence where
  | online
  | offline (lastSeenAt : Nat)
  deriving DecidableEq, Repr

/-- A presence frame about a user goes to every open socket among the receivers of the loop. -/
structure PresenceFrame where
  presence : Presence
  userId : Uuid
  receivers : List Uuid
  deriving DecidableEq, Repr

structure WebSocketServer where
  manager : ConnectionManager := {}
  sockets : List Socket := []
  frames : List PresenceFrame := []
  deriving DecidableEq, Repr

/-- An authentication is awaited by the connection callback or by the message listener. -/
inductive Awaiter where
  | callback
  | listener
  deriving DecidableEq, Repr

/-- Each task stands at one await. -/
inductive ServerTask where
  | authenticateWsConnection (connectionId : Uuid)
  | getWsSession (awaiter : Awaiter) (connectionId : Uuid)
  | syncPendingMessages (awaiter : Awaiter) (connectionId : Uuid)
  | syncPendingGroupInvitations (awaiter : Awaiter) (connectionId : Uuid)
  | dispatch (connectionId : Uuid)
  | updateLastSeenAt (userId : Uuid)
  deriving DecidableEq, Repr

/-- An await ends with an exception or with the value of the awaited call. -/
inductive ServerAnswer where
  | failed
  | done
  | cookies (accessToken : Bool)
  | session (userId sessionId : Uuid)
  | lastSeenAt (time : Nat)
  deriving DecidableEq, Repr

/-- A message that is no JSON only makes the listener answer an error. -/
inductive ClientMessage where
  | authTokenSent
  | dispatched
  | malformed
  deriving DecidableEq, Repr

/-- A socket is closed by its client, by the heartbeat or by the server itself. -/
inductive ServerEvent where
  | connection
  | message (connectionId : Uuid) (message : ClientMessage)
  | timeout (connectionId : Uuid)
  | close (connectionId : Uuid)
  deriving DecidableEq, Repr

namespace WebSocketServer

def updateSocket (connectionId : Uuid) (change : Socket → Socket) (server : WebSocketServer) :
    WebSocketServer :=
  { server with
    sockets := updateWhere (fun socket => decide (socket.connectionId = connectionId)) change server.sockets }

def findSocket (server : WebSocketServer) (connectionId : Uuid) : Option Socket :=
  lookup Socket.connectionId connectionId server.sockets

/-- This is the test of `sendMessage` on the state of the socket. -/
def isOpen (server : WebSocketServer) (connectionId : Uuid) : Bool :=
  (server.findSocket connectionId).any fun socket => !socket.closing && !socket.closed

def broadcast (presence : Presence) (userId : Uuid) (receivers : List Connection)
    (server : WebSocketServer) : WebSocketServer :=
  { server with
    frames := server.frames ++
      [{ presence, userId
         receivers := (receivers.map Connection.id).filter fun connectionId => server.isOpen connectionId }] }

def presenceOnlineHandler (connectionId userId : Uuid) (server : WebSocketServer) : WebSocketServer :=
  server.broadcast .online userId
    (server.manager.getAllConnections.filter fun receiver => receiver.id ≠ connectionId)

/-- The handler goes on after its await. -/
def presenceOfflineHandler (userId lastSeenAt : Nat) (server : WebSocketServer) : WebSocketServer :=
  server.broadcast (.offline lastSeenAt) userId server.manager.getAllConnections

/-- This is what `authenticate` does before its first await. -/
def authenticate (connectionId userId sessionId : Uuid) (server : WebSocketServer) : WebSocketServer :=
  presenceOnlineHandler connectionId userId
    { server with manager := server.manager.authenticate connectionId userId sessionId }

def installListeners (connectionId : Uuid) (server : WebSocketServer) : WebSocketServer :=
  server.updateSocket connectionId fun socket => { socket with listening := true }

def closeSocket (connectionId : Uuid) (server : WebSocketServer) : WebSocketServer :=
  server.updateSocket connectionId fun socket => { socket with closing := true }

/-- The callback closes the socket and returns without listeners, and the listener only answers an error. -/
def authenticationFailed (awaiter : Awaiter) (connectionId : Uuid) (server : WebSocketServer) :
    WebSocketServer :=
  match awaiter with
  | .callback => server.closeSocket connectionId
  | .listener => server

/-- The callback goes on to install its listeners, and the listener clears the timeout. -/
def authenticationDone (awaiter : Awaiter) (connectionId : Uuid) (server : WebSocketServer) :
    WebSocketServer :=
  match awaiter with
  | .callback =>
      (server.updateSocket connectionId fun socket => { socket with authenticated := true }).installListeners
        connectionId
  | .listener =>
      server.updateSocket connectionId fun socket =>
        { socket with authenticated := true, authTimeout := false }

def requestAuthToken (connectionId : Uuid) (server : WebSocketServer) : WebSocketServer :=
  (server.updateSocket connectionId fun socket => { socket with authTimeout := true }).installListeners
    connectionId

/-- The listener asks for the connections of the user before it removes its own. -/
def onClose (connectionId : Uuid) (server : WebSocketServer) : WebSocketServer × Option ServerTask :=
  let unregistered := { server with manager := server.manager.unregister connectionId }
  (unregistered.updateSocket connectionId fun socket => { socket with authTimeout := false },
    (server.manager.userOf connectionId).bind fun userId =>
      if (server.manager.getUserConnections userId).length = 1 then some (.updateLastSeenAt userId) else none)

def onMessage (connectionId : Uuid) (message : ClientMessage) : Option ServerTask :=
  match message with
  | .authTokenSent => some (.getWsSession .listener connectionId)
  | .dispatched => some (.dispatch connectionId)
  | .malformed => none

/-- A closed socket emits nothing more, and a socket without listeners drops what it emits. -/
def emitMessage (connectionId : Uuid) (message : ClientMessage) (server : WebSocketServer) :
    WebSocketServer × Option ServerTask :=
  match server.findSocket connectionId with
  | none => (server, none)
  | some socket =>
      if socket.closed || !socket.listening then (server, none)
      else (server, onMessage connectionId message)

def fireTimeout (connectionId : Uuid) (server : WebSocketServer) : WebSocketServer × Option ServerTask :=
  match server.findSocket connectionId with
  | none => (server, none)
  | some socket =>
      if socket.authTimeout && !socket.authenticated then (server.closeSocket connectionId, none)
      else (server, none)

def emitClose (connectionId : Uuid) (server : WebSocketServer) : WebSocketServer × Option ServerTask :=
  match server.findSocket connectionId with
  | none => (server, none)
  | some socket =>
      if socket.closed then (server, none)
      else
        let closed := server.updateSocket connectionId fun socket => { socket with closed := true }
        if socket.listening then closed.onClose connectionId else (closed, none)

/-- The callback registers its connection before its first await. -/
def connect (server : WebSocketServer) : WebSocketServer × Option ServerTask :=
  let registered := server.manager.register
  ({ server with
      manager := registered.2
      sockets := server.sockets ++ [{ connectionId := registered.1.id }] },
    some (.authenticateWsConnection registered.1.id))

def start (server : WebSocketServer) : ServerEvent → WebSocketServer × Option ServerTask
  | .connection => server.connect
  | .message connectionId message => server.emitMessage connectionId message
  | .timeout connectionId => server.fireTimeout connectionId
  | .close connectionId => server.emitClose connectionId

/-- An answer of another kind leaves the task waiting. -/
def resume (server : WebSocketServer) (task : ServerTask) (answer : ServerAnswer) :
    WebSocketServer × Option ServerTask :=
  match task, answer with
  | .authenticateWsConnection connectionId, .failed =>
      (server.authenticationFailed .callback connectionId, none)
  | .authenticateWsConnection connectionId, .cookies accessToken =>
      if accessToken then (server, some (.getWsSession .callback connectionId))
      else (server.requestAuthToken connectionId, none)
  | .getWsSession awaiter connectionId, .failed =>
      (server.authenticationFailed awaiter connectionId, none)
  | .getWsSession awaiter connectionId, .session userId sessionId =>
      (server.authenticate connectionId userId sessionId, some (.syncPendingMessages awaiter connectionId))
  | .syncPendingMessages awaiter connectionId, .failed =>
      (server.authenticationFailed awaiter connectionId, none)
  | .syncPendingMessages awaiter connectionId, .done =>
      (server, some (.syncPendingGroupInvitations awaiter connectionId))
  | .syncPendingGroupInvitations awaiter connectionId, .failed =>
      (server.authenticationFailed awaiter connectionId, none)
  | .syncPendingGroupInvitations awaiter connectionId, .done =>
      (server.authenticationDone awaiter connectionId, none)
  | .dispatch _, .failed => (server, none)
  | .dispatch _, .done => (server, none)
  -- nobody awaits the offline handler, so its rejection ends it without a broadcast
  | .updateLastSeenAt _, .failed => (server, none)
  | .updateLastSeenAt userId, .lastSeenAt time => (server.presenceOfflineHandler userId time, none)
  | task, _ => (server, some task)

end WebSocketServer

/-- The server runs its callbacks and listeners one turn at a time. -/
def webSocketServer : Cooperative WebSocketServer ServerEvent ServerTask ServerAnswer where
  start := WebSocketServer.start
  resume := WebSocketServer.resume

end Messinger
