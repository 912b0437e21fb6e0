import Messinger.Proof.ConnectionIndex
import Messinger.Model.WebSocketServer

namespace Messinger
open Library

/-- This part of a socket only changes when the socket closes. -/
def Socket.life (socket : Socket) : Uuid × Bool := (socket.connectionId, socket.closed)

namespace WebSocketServer

/-- The connections, the broadcasts and the closed sockets are the same. -/
structure Unmoved (server next : WebSocketServer) : Prop where
  manager : next.manager = server.manager
  frames : next.frames = server.frames
  lives : next.sockets.map Socket.life = server.sockets.map Socket.life

theorem Unmoved.refl (server : WebSocketServer) : Unmoved server server := ⟨Eq.refl _, Eq.refl _, Eq.refl _⟩

theorem Unmoved.trans {first second third : WebSocketServer} (one : Unmoved first second)
    (two : Unmoved second third) : Unmoved first third :=
  ⟨two.manager.trans one.manager, two.frames.trans one.frames, two.lives.trans one.lives⟩

theorem Unmoved.updateSocket {server : WebSocketServer} (connectionId : Uuid) {change : Socket → Socket}
    (keeps : ∀ socket, (change socket).life = socket.life) :
    Unmoved server (server.updateSocket connectionId change) :=
  ⟨Eq.refl _, Eq.refl _, map_updateWhere Socket.life _ change keeps server.sockets⟩

theorem unmoved_authenticationFailed (awaiter : Awaiter) (connectionId : Uuid) (server : WebSocketServer) :
    Unmoved server (server.authenticationFailed awaiter connectionId) := by
  cases awaiter with
  | callback => exact Unmoved.updateSocket connectionId fun _ => rfl
  | listener => exact Unmoved.refl _

theorem unmoved_authenticationDone (awaiter : Awaiter) (connectionId : Uuid) (server : WebSocketServer) :
    Unmoved server (server.authenticationDone awaiter connectionId) := by
  cases awaiter with
  | callback =>
      refine Unmoved.trans (Unmoved.updateSocket connectionId ?_) (Unmoved.updateSocket connectionId ?_)
      · exact fun _ => Eq.refl _
      · exact fun _ => Eq.refl _
  | listener => exact Unmoved.updateSocket connectionId fun _ => rfl

theorem unmoved_requestAuthToken (connectionId : Uuid) (server : WebSocketServer) :
    Unmoved server (server.requestAuthToken connectionId) := by
  refine Unmoved.trans (Unmoved.updateSocket connectionId ?_) (Unmoved.updateSocket connectionId ?_)
  · exact fun _ => Eq.refl _
  · exact fun _ => Eq.refl _

/-- A resumed task authenticates, broadcasts the end of a presence, goes on waiting, or moves nothing. -/
inductive Resumed (server : WebSocketServer) :
    ServerTask → ServerAnswer → WebSocketServer × Option ServerTask → Prop where
  | authenticates (awaiter : Awaiter) (connectionId userId sessionId : Uuid) :
      Resumed server (.getWsSession awaiter connectionId) (.session userId sessionId)
        (server.authenticate connectionId userId sessionId, some (.syncPendingMessages awaiter connectionId))
  | broadcasts (userId time : Uuid) :
      Resumed server (.updateLastSeenAt userId) (.lastSeenAt time)
        (server.presenceOfflineHandler userId time, none)
  | fails (userId : Uuid) : Resumed server (.updateLastSeenAt userId) .failed (server, none)
  | waits (task : ServerTask) (answer : ServerAnswer) : Resumed server task answer (server, some task)
  | moves (task : ServerTask) (answer : ServerAnswer) (next : WebSocketServer) (rest : Option ServerTask)
      (unmoved : Unmoved server next) (before : ∀ userId, task ≠ .updateLastSeenAt userId)
      (after : ∀ userId, rest ≠ some (.updateLastSeenAt userId)) :
      Resumed server task answer (next, rest)

theorem resumed (server : WebSocketServer) (task : ServerTask) (answer : ServerAnswer) :
    Resumed server task answer (server.resume task answer) := by
  have still (task : ServerTask) (answer : ServerAnswer) (next : WebSocketServer) (unmoved : Unmoved server next)
      (before : ∀ userId, task ≠ .updateLastSeenAt userId) : Resumed server task answer (next, none) :=
    .moves task answer next none unmoved before fun _ => nofun
  cases task with
  | authenticateWsConnection connectionId =>
      cases answer with
      | failed => exact still _ _ _ (unmoved_authenticationFailed .callback connectionId server) fun _ => nofun
      | cookies accessToken =>
          cases accessToken with
          | true => exact .moves _ _ _ _ (Unmoved.refl _) (fun _ => nofun) fun _ => nofun
          | false => exact still _ _ _ (unmoved_requestAuthToken connectionId server) fun _ => nofun
      | done => exact .waits _ _
      | session userId sessionId => exact .waits _ _
      | lastSeenAt time => exact .waits _ _
  | getWsSession awaiter connectionId =>
      cases answer with
      | failed => exact still _ _ _ (unmoved_authenticationFailed awaiter connectionId server) fun _ => nofun
      | session userId sessionId => exact .authenticates awaiter connectionId userId sessionId
      | done => exact .waits _ _
      | cookies accessToken => exact .waits _ _
      | lastSeenAt time => exact .waits _ _
  | syncPendingMessages awaiter connectionId =>
      cases answer with
      | failed => exact still _ _ _ (unmoved_authenticationFailed awaiter connectionId server) fun _ => nofun
      | done => exact .moves _ _ _ _ (Unmoved.refl _) (fun _ => nofun) fun _ => nofun
      | cookies accessToken => exact .waits _ _
      | session userId sessionId => exact .waits _ _
      | lastSeenAt time => exact .waits _ _
  | syncPendingGroupInvitations awaiter connectionId =>
      cases answer with
      | failed => exact still _ _ _ (unmoved_authenticationFailed awaiter connectionId server) fun _ => nofun
      | done => exact still _ _ _ (unmoved_authenticationDone awaiter connectionId server) fun _ => nofun
      | cookies accessToken => exact .waits _ _
      | session userId sessionId => exact .waits _ _
      | lastSeenAt time => exact .waits _ _
  | dispatch connectionId =>
      cases answer with
      | failed => exact still _ _ _ (Unmoved.refl _) fun _ => nofun
      | done => exact still _ _ _ (Unmoved.refl _) fun _ => nofun
      | cookies accessToken => exact .waits _ _
      | session userId sessionId => exact .waits _ _
      | lastSeenAt time => exact .waits _ _
  | updateLastSeenAt userId =>
      cases answer with
      | failed => exact .fails userId
      | lastSeenAt time => exact .broadcasts userId time
      | done => exact .waits _ _
      | cookies accessToken => exact .waits _ _
      | session userId sessionId => exact .waits _ _

/-- An event opens a socket, closes one with or without its listener, or moves nothing. -/
inductive Started (server : WebSocketServer) :
    ServerEvent → WebSocketServer × Option ServerTask → Prop where
  | connects :
      Started server .connection
        ({ server with
            manager := server.manager.register.2
            sockets := server.sockets ++ [{ connectionId := server.manager.nextId }] },
          some (.authenticateWsConnection server.manager.nextId))
  | closes (connectionId : Uuid) (socket : Socket) (found : server.findSocket connectionId = some socket)
      (opened : socket.closed = false) (listening : socket.listening = true) :
      Started server (.close connectionId)
        ((server.updateSocket connectionId fun socket => { socket with closed := true }).onClose connectionId)
  | drops (connectionId : Uuid) (socket : Socket) (found : server.findSocket connectionId = some socket)
      (opened : socket.closed = false) (deaf : socket.listening = false) :
      Started server (.close connectionId)
        (server.updateSocket connectionId fun socket => { socket with closed := true }, none)
  | moves (event : ServerEvent) (next : WebSocketServer) (task : Option ServerTask)
      (unmoved : Unmoved server next) (other : ∀ userId, task ≠ some (.updateLastSeenAt userId)) :
      Started server event (next, task)

theorem started (server : WebSocketServer) (event : ServerEvent) :
    Started server event (server.start event) := by
  have idle (event : ServerEvent) (next : WebSocketServer) (unmoved : Unmoved server next) :
      Started server event (next, none) := .moves event next none unmoved fun _ => nofun
  cases event with
  | connection => exact .connects
  | message connectionId message =>
      change Started server _ (server.emitMessage connectionId message)
      unfold emitMessage
      cases server.findSocket connectionId with
      | none => exact idle _ _ (Unmoved.refl _)
      | some socket =>
          simp only
          split
          · exact idle _ _ (Unmoved.refl _)
          · refine .moves _ _ _ (Unmoved.refl _) ?_
            cases message <;> exact fun _ => nofun
  | timeout connectionId =>
      change Started server _ (server.fireTimeout connectionId)
      unfold fireTimeout
      cases server.findSocket connectionId with
      | none => exact idle _ _ (Unmoved.refl _)
      | some socket =>
          simp only
          split
          · refine idle _ _ (Unmoved.updateSocket connectionId ?_)
            exact fun _ => rfl
          · exact idle _ _ (Unmoved.refl _)
  | close connectionId =>
      change Started server _ (server.emitClose connectionId)
      unfold emitClose
      cases found : server.findSocket connectionId with
      | none => exact idle _ _ (Unmoved.refl _)
      | some socket =>
          cases opened : socket.closed with
          | true =>
              simp only [opened, if_true]
              exact idle _ _ (Unmoved.refl _)
          | false =>
              simp only [opened, Bool.false_eq_true, if_false]
              cases listening : socket.listening with
              | true => exact .closes connectionId socket found opened listening
              | false => exact .drops connectionId socket found opened listening

end WebSocketServer

end Messinger
