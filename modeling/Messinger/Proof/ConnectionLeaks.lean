import Messinger.Proof.ServerTurns

namespace Messinger
open Library WebSocketServer ConnectionManager

/-- These are the identifiers of the sockets that are not closed. -/
def openIds (lives : List (Uuid × Bool)) : List Uuid := (lives.filter fun life => !life.2).map Prod.fst

def closeLife (connectionId : Uuid) (life : Uuid × Bool) : Uuid × Bool :=
  if life.1 = connectionId then (life.1, true) else life

theorem openIds_closeLife (connectionId : Uuid) (lives : List (Uuid × Bool)) :
    openIds (lives.map (closeLife connectionId)) = (openIds lives).filter (· ≠ connectionId) := by
  induction lives with
  | nil => rfl
  | cons life rest ih =>
      obtain ⟨id, closed⟩ := life
      unfold openIds closeLife at ih ⊢
      by_cases same : id = connectionId
      · cases closed <;> simpa [same] using ih
      · cases closed <;> simpa [same] using ih

theorem map_fst_closeLife (connectionId : Uuid) (lives : List (Uuid × Bool)) :
    (lives.map (closeLife connectionId)).map Prod.fst = lives.map Prod.fst := by
  rw [List.map_map]
  apply List.map_congr_left
  intro life _
  unfold closeLife
  simp only [Function.comp_apply]
  split <;> rfl

namespace WebSocketServer

/-- The registered connections are exactly those of the open sockets, and sockets have different
connections. -/
structure Tracked (server : WebSocketServer) : Prop where
  sound : server.manager.Registered
  alive : server.manager.connections = openIds (server.sockets.map Socket.life)
  distinct : ((server.sockets.map Socket.life).map Prod.fst).Nodup
  below : ∀ id ∈ (server.sockets.map Socket.life).map Prod.fst, id < server.manager.nextId

theorem Tracked.initial : Tracked {} where
  sound := Registered.initial
  alive := rfl
  distinct := List.nodup_nil
  below _ inside := absurd inside List.not_mem_nil

theorem Tracked.of_unmoved {server next : WebSocketServer} (tracked : Tracked server)
    (unmoved : Unmoved server next) : Tracked next := by
  refine ⟨?_, ?_, ?_, ?_⟩
  · rw [unmoved.manager]
    exact tracked.sound
  · rw [unmoved.manager, unmoved.lives]
    exact tracked.alive
  · rw [unmoved.lives]
    exact tracked.distinct
  · rw [unmoved.manager, unmoved.lives]
    exact tracked.below

theorem Tracked.connect {server : WebSocketServer} (tracked : Tracked server) :
    Tracked { server with
      manager := server.manager.register.2
      sockets := server.sockets ++ [{ connectionId := server.manager.nextId }] } := by
  refine ⟨tracked.sound.register, ?_, ?_, ?_⟩
  · change server.manager.connections ++ [server.manager.nextId] = _
    rw [tracked.alive, List.map_append, openIds, openIds, List.filter_append, List.map_append]
    rfl
  · rw [List.map_append, List.map_append]
    refine tracked.distinct.append (List.nodup_singleton _) ?_
    intro id old new
    rw [List.mem_singleton.mp new] at old
    exact Nat.lt_irrefl _ (tracked.below _ old)
  · intro id inside
    rw [List.map_append, List.map_append] at inside
    obtain old | new := List.mem_append.mp inside
    · exact Nat.lt_succ_of_lt (tracked.below id old)
    · rw [List.mem_singleton.mp new]
      exact Nat.lt_succ_self _

theorem Tracked.authenticate {server : WebSocketServer} (tracked : Tracked server)
    (connectionId userId sessionId : Uuid) : Tracked (server.authenticate connectionId userId sessionId) := by
  refine ⟨tracked.sound.authenticate connectionId userId sessionId, ?_, tracked.distinct, ?_⟩
  · exact (connections_authenticate _ _ _ _).trans tracked.alive
  · intro id inside
    change id < (server.manager.authenticate connectionId userId sessionId).nextId
    rw [nextId_authenticate]
    exact tracked.below id inside

theorem lives_close (server : WebSocketServer) (connectionId : Uuid) :
    (server.updateSocket connectionId fun socket => { socket with closed := true }).sockets.map Socket.life =
      (server.sockets.map Socket.life).map (closeLife connectionId) := by
  rw [updateSocket, updateWhere, List.map_map, List.map_map]
  apply List.map_congr_left
  intro socket _
  simp only [Function.comp_apply, closeLife, decide_eq_true_eq]
  by_cases same : socket.connectionId = connectionId
  · have equal : socket.life.1 = connectionId := same
    rw [if_pos same, if_pos equal]
    rfl
  · have different : socket.life.1 ≠ connectionId := same
    rw [if_neg same, if_neg different]

theorem lives_onClose (server : WebSocketServer) (connectionId : Uuid) :
    (server.onClose connectionId).1.sockets.map Socket.life = server.sockets.map Socket.life := by
  apply map_updateWhere
  exact fun _ => rfl

/-- A close event that its listener hears removes the connection together with its socket. -/
theorem Tracked.close {server : WebSocketServer} (tracked : Tracked server) (connectionId : Uuid) :
    Tracked ((server.updateSocket connectionId fun socket => { socket with closed := true }).onClose
      connectionId).1 := by
  have lives := (lives_onClose _ connectionId).trans (lives_close server connectionId)
  refine ⟨tracked.sound.unregister connectionId, ?_, ?_, ?_⟩
  · rw [lives, openIds_closeLife, ← tracked.alive]
    exact tracked.sound.connections_unregister connectionId
  · rw [lives, map_fst_closeLife]
    exact tracked.distinct
  · rw [lives, map_fst_closeLife]
    change ∀ id ∈ _, id < (server.manager.unregister connectionId).nextId
    rw [nextId_unregister]
    exact tracked.below

/-- The listener of the socket hears its close event, unless the socket is closed already. -/
def hears (server : WebSocketServer) (connectionId : Uuid) : Bool :=
  (server.findSocket connectionId).all fun socket => socket.closed || socket.listening

theorem Tracked.start {server : WebSocketServer} (tracked : Tracked server) {event : ServerEvent}
    (heard : ∀ connectionId, event = .close connectionId → server.hears connectionId = true) :
    Tracked (server.start event).1 := by
  have step := started server event
  generalize server.start event = outcome at step ⊢
  cases step with
  | connects => exact tracked.connect
  | closes connectionId socket found opened listening => exact tracked.close connectionId
  | drops connectionId socket found opened deaf =>
      have heard := heard connectionId rfl
      rw [hears, found, Option.all_some, opened, deaf] at heard
      cases heard
  | moves event next task unmoved other => exact tracked.of_unmoved unmoved

theorem Tracked.resume {server : WebSocketServer} (tracked : Tracked server) (task : ServerTask)
    (answer : ServerAnswer) : Tracked (server.resume task answer).1 := by
  have step := resumed server task answer
  generalize server.resume task answer = outcome at step ⊢
  cases step with
  | authenticates awaiter connectionId userId sessionId => exact tracked.authenticate connectionId userId sessionId
  | broadcasts userId time => exact ⟨tracked.sound, tracked.alive, tracked.distinct, tracked.below⟩
  | fails userId => exact tracked
  | waits task answer => exact tracked
  | moves task answer next rest unmoved before after => exact tracked.of_unmoved unmoved

end WebSocketServer

/-- The task is an await of the connection callback of the socket. -/
def ServerTask.inCallback (connectionId : Uuid) : ServerTask → Bool
  | .authenticateWsConnection id => id == connectionId
  | .getWsSession .callback id => id == connectionId
  | .syncPendingMessages .callback id => id == connectionId
  | .syncPendingGroupInvitations .callback id => id == connectionId
  | _ => false

/-- Every await of the connection callback of the socket has settled. -/
def Settled (progress : Library.Progress WebSocketServer ServerTask) (connectionId : Uuid) : Prop :=
  ∀ task ∈ progress.pending, task.inCallback connectionId = false

/-- No settled closed socket is registered, counted or reported for a user. -/
structure NoLeaks (progress : Library.Progress WebSocketServer ServerTask) : Prop where
  released : ∀ socket ∈ progress.state.sockets, socket.closed = true →
    Settled progress socket.connectionId → socket.connectionId ∉ progress.state.manager.connections
  counted : (∀ socket ∈ progress.state.sockets, socket.closed = true → Settled progress socket.connectionId) →
    progress.state.manager.count = (progress.state.sockets.filter fun socket => !socket.closed).length
  reported : ∀ socket ∈ progress.state.sockets, socket.closed = true → Settled progress socket.connectionId →
    ∀ userId, ∀ connection ∈ progress.state.manager.getUserConnections userId,
      connection.id ≠ socket.connectionId

theorem mem_connections_of_getUserConnections {manager : ConnectionManager} {userId : Uuid}
    {connection : Connection} (reported : connection ∈ manager.getUserConnections userId) :
    connection.id ∈ manager.connections := by
  unfold getUserConnections at reported
  split at reported
  · exact absurd reported List.not_mem_nil
  · obtain ⟨connectionId, -, found⟩ := List.mem_filterMap.mp reported
    rw [id_of_get found]
    exact (get_eq_some.mp found).1

theorem WebSocketServer.Tracked.released {server : WebSocketServer} (tracked : Tracked server) {socket : Socket}
    (inside : socket ∈ server.sockets) (closed : socket.closed = true) :
    socket.connectionId ∉ server.manager.connections := by
  intro registered
  rw [tracked.alive] at registered
  obtain ⟨life, kept, same⟩ := List.mem_map.mp registered
  obtain ⟨listed, opened⟩ := List.mem_filter.mp kept
  have equal : life = socket.life :=
    List.inj_on_of_nodup_map tracked.distinct listed (List.mem_map_of_mem inside) same
  rw [equal, Socket.life, closed] at opened
  cases opened

theorem WebSocketServer.Tracked.count {server : WebSocketServer} (tracked : Tracked server) :
    server.manager.count = (server.sockets.filter fun socket => !socket.closed).length := by
  rw [ConnectionManager.count, tracked.alive, openIds, List.length_map, List.filter_map, List.length_map]
  rfl

theorem WebSocketServer.Tracked.noLeaks {progress : Library.Progress WebSocketServer ServerTask}
    (tracked : Tracked progress.state) : NoLeaks progress := by
  refine ⟨?_, ?_, ?_⟩
  · exact fun socket inside closed _ => tracked.released inside closed
  · exact fun _ => tracked.count
  · intro socket inside closed _ userId connection reported same
    exact tracked.released inside closed (same ▸ mem_connections_of_getUserConnections reported)

/-- The listener of the socket is installed when the close event comes. -/
def CloseHeard (progress : Library.Progress WebSocketServer ServerTask) : Turn ServerEvent ServerAnswer → Prop
  | .call (.close connectionId) => progress.state.hears connectionId = true
  | _ => True

instance (progress : Library.Progress WebSocketServer ServerTask) : (turn : Turn ServerEvent ServerAnswer) →
    Decidable (CloseHeard progress turn)
  | .call (.close _) => inferInstanceAs (Decidable (_ = true))
  | .call .connection => isTrue trivial
  | .call (.message _ _) => isTrue trivial
  | .call (.timeout _) => isTrue trivial
  | .resume _ _ => isTrue trivial

/-- No connection leaks in a run whose close events all find their listener. -/
theorem no_connection_leaks {turns : List (Turn ServerEvent ServerAnswer)}
    (heard : Meets webSocketServer.advance CloseHeard ⟨{}, []⟩ turns) (position : Nat) :
    NoLeaks (stateAt webSocketServer.advance ⟨{}, []⟩ turns position) := by
  have tracked : Tracked (stateAt webSocketServer.advance ⟨{}, []⟩ turns position).state := by
    refine webSocketServer.invariant heard Tracked Tracked.initial ?_ ?_ position
    · intro progress event tracked met
      apply tracked.start
      rintro connectionId rfl
      exact met
    · intro progress place answer task tracked _ _
      exact tracked.resume task answer
  exact tracked.noLeaks

/-- Two sockets connect, the first one signs in with its token and closes, and the second one stays. -/
def heardClose : List (Turn ServerEvent ServerAnswer) :=
  [.call .connection, .resume 0 (.cookies false), .call (.message 0 .authTokenSent), .call .connection,
    .resume 0 (.session 1 7), .resume 0 (.cookies true), .resume 0 .done, .resume 0 (.session 2 8),
    .call (.close 0)]

theorem heardClose_does_not_leak : NoLeaks (stateAt webSocketServer.advance ⟨{}, []⟩ heardClose 9) :=
  no_connection_leaks (by decide) 9

/-- The socket closes while its callback looks up the session of its cookie. -/
def closeDuringSession : List (Turn ServerEvent ServerAnswer) :=
  [.call .connection, .resume 0 (.cookies true), .call (.close 0), .resume 0 (.session 1 7), .resume 0 .done,
    .resume 0 .done]

/-- The session of the cookie is refused, so the server closes the socket. -/
def refusedCookie : List (Turn ServerEvent ServerAnswer) :=
  [.call .connection, .resume 0 (.cookies true), .resume 0 .failed, .call (.close 0)]

/-- Nothing is pending after these runs, but both connections are still registered, and the first one is
reported for user 1. -/
theorem dropped_close_leaks :
    ¬ NoLeaks (stateAt webSocketServer.advance ⟨{}, []⟩ closeDuringSession 6) ∧
      ¬ NoLeaks (stateAt webSocketServer.advance ⟨{}, []⟩ refusedCookie 4) := by
  constructor
  · intro noLeaks
    have member : (⟨0, true, true, false, false, true⟩ : Socket) ∈
        (stateAt webSocketServer.advance ⟨{}, []⟩ closeDuringSession 6).state.sockets := by decide
    exact noLeaks.reported _ member rfl (by unfold Settled; decide) 1 ⟨0, some 1, some 7⟩ (by decide) rfl
  · intro noLeaks
    have member : (⟨0, false, false, false, true, true⟩ : Socket) ∈
        (stateAt webSocketServer.advance ⟨{}, []⟩ refusedCookie 4).state.sockets := by decide
    exact noLeaks.released _ member rfl (by unfold Settled; decide) (by decide)

end Messinger
