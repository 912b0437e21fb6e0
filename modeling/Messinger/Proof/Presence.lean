import Messinger.Proof.ConnectionLeaks

namespace Messinger
open Library WebSocketServer ConnectionManager

/-- The user has a registered connection. -/
def Connected (manager : ConnectionManager) (userId : Uuid) : Prop :=
  ∃ connectionId ∈ manager.connections, manager.userOf connectionId = some userId

instance (manager : ConnectionManager) (userId : Uuid) : Decidable (Connected manager userId) :=
  inferInstanceAs (Decidable (∃ connectionId ∈ manager.connections, _))

/-- This is the last presence that was broadcast about the user. -/
def lastPresence (server : WebSocketServer) (userId : Uuid) : Option Presence :=
  ((server.frames.filter fun frame => decide (frame.userId = userId)).getLast?).map (·.presence)

/-- The last broadcast about the user is right unless an offline handler of the user is in flight. -/
structure PresenceTruthful (progress : Library.Progress WebSocketServer ServerTask) (userId : Uuid)
    (connectedBefore : Prop) : Prop where
  online : .updateLastSeenAt userId ∉ progress.pending → Connected progress.state.manager userId →
    lastPresence progress.state userId = some .online
  offline : .updateLastSeenAt userId ∉ progress.pending → connectedBefore →
    ¬ Connected progress.state.manager userId →
    ∃ time, lastPresence progress.state userId = some (.offline time)

/-- A connection authenticates as one user only. -/
def sameUser (progress : Library.Progress WebSocketServer ServerTask) : ServerTask → ServerAnswer → Prop
  | .getWsSession _ connectionId, .session userId _ =>
      progress.state.manager.userOf connectionId = none ∨
        progress.state.manager.userOf connectionId = some userId
  | _, _ => True

/-- An authentication ends while the user has a connection and no offline handler, and no offline handler
fails. -/
def undisturbed (progress : Library.Progress WebSocketServer ServerTask) : ServerTask → ServerAnswer → Prop
  | .getWsSession _ connectionId, .session userId _ =>
      (connectionId ∈ progress.state.manager.connections ∨ Connected progress.state.manager userId) ∧
        .updateLastSeenAt userId ∉ progress.pending
  | .updateLastSeenAt _, .failed => False
  | _, _ => True

instance (progress : Library.Progress WebSocketServer ServerTask) (task : ServerTask) (answer : ServerAnswer) :
    Decidable (sameUser progress task answer) := by
  unfold sameUser
  split <;> infer_instance

instance (progress : Library.Progress WebSocketServer ServerTask) (task : ServerTask) (answer : ServerAnswer) :
    Decidable (undisturbed progress task answer) := by
  unfold undisturbed
  split <;> infer_instance

theorem lastPresence_broadcast (presence : Presence) (userId other : Uuid) (receivers : List Connection)
    (server : WebSocketServer) :
    lastPresence (server.broadcast presence userId receivers) other =
      if userId = other then some presence else lastPresence server other := by
  unfold lastPresence broadcast
  rw [List.filter_append]
  by_cases same : userId = other
  · simp [same]
  · simp [same]

namespace ConnectionManager

theorem Filed.mem_map_id {manager : ConnectionManager} {owner : Uuid → Option Uuid} (filed : Filed manager owner)
    (userId connectionId : Uuid) :
    connectionId ∈ (manager.getUserConnections userId).map Connection.id ↔
      connectionId ∈ manager.connections ∧ manager.userOf connectionId = some userId := by
  rw [List.mem_map]
  constructor
  · rintro ⟨connection, inside, rfl⟩
    obtain ⟨listed, user⟩ := (filed.mem_getUserConnections userId connection).mp inside
    have found := mem_getAllConnections.mp listed
    exact ⟨(get_eq_some.mp found).1, (userOf_of_get found).trans user⟩
  · rintro ⟨registered, user⟩
    obtain ⟨connection, found⟩ := filed.get_of_mem registered
    obtain rfl := id_of_get found
    refine ⟨connection, (filed.mem_getUserConnections userId connection).mpr ⟨?_, ?_⟩, rfl⟩
    · exact mem_getAllConnections.mpr found
    · exact (userOf_of_get found).symm.trans user

/-- The user of a registered connection has one connection exactly when it is this one. -/
theorem Filed.last_connection_iff {manager : ConnectionManager} {owner : Uuid → Option Uuid}
    (filed : Filed manager owner) {connectionId userId : Uuid} (registered : connectionId ∈ manager.connections)
    (user : manager.userOf connectionId = some userId) :
    (manager.getUserConnections userId).length = 1 ↔
      ∀ other ∈ manager.connections, manager.userOf other = some userId → other = connectionId := by
  have distinct := filed.nodup_getUserConnections userId
  have inside : connectionId ∈ (manager.getUserConnections userId).map Connection.id :=
    (filed.mem_map_id userId connectionId).mpr ⟨registered, user⟩
  rw [← List.length_map Connection.id]
  constructor
  · intro single other listed owned
    obtain ⟨only, equal⟩ := List.length_eq_one_iff.mp single
    have member := (filed.mem_map_id userId other).mpr ⟨listed, owned⟩
    rw [equal, List.mem_singleton] at inside member
    exact member.trans inside.symm
  · intro only
    have perm : ((manager.getUserConnections userId).map Connection.id).Perm [connectionId] := by
      rw [List.perm_ext_iff_of_nodup distinct (List.nodup_singleton connectionId)]
      intro other
      rw [filed.mem_map_id, List.mem_singleton]
      constructor
      · exact fun both => only other both.1 both.2
      · rintro rfl
        exact ⟨registered, user⟩
    exact perm.length_eq

theorem Registered.connected_unregister {manager : ConnectionManager} (sound : Registered manager)
    (connectionId userId : Uuid) :
    Connected (manager.unregister connectionId) userId ↔
      ∃ other ∈ manager.connections, other ≠ connectionId ∧ manager.userOf other = some userId := by
  unfold Connected
  rw [sound.connections_unregister, userOf_unregister]
  constructor
  · rintro ⟨other, inside, user⟩
    obtain ⟨listed, apart⟩ := List.mem_filter.mp inside
    exact ⟨other, listed, of_decide_eq_true apart, user⟩
  · rintro ⟨other, listed, apart, user⟩
    exact ⟨other, List.mem_filter.mpr ⟨listed, decide_eq_true apart⟩, user⟩

end ConnectionManager

theorem ConnectionManager.Registered.connected_register {manager : ConnectionManager} (sound : Registered manager)
    (userId : Uuid) : Connected manager.register.2 userId ↔ Connected manager userId := by
  unfold Connected
  rw [userOf_register]
  constructor
  · rintro ⟨connectionId, inside, user⟩
    obtain old | new := List.mem_append.mp inside
    · exact ⟨connectionId, old, user⟩
    · rw [List.mem_singleton.mp new] at user
      change manager.userOf manager.nextId = some userId at user
      rw [userOf, sound.fresh] at user
      cases user
  · rintro ⟨connectionId, inside, user⟩
    exact ⟨connectionId, List.mem_append_left _ inside, user⟩

/-- Authenticating a connection of nobody or of the same user only connects this user. -/
theorem ConnectionManager.Registered.connected_authenticate {manager : ConnectionManager}
    (sound : Registered manager) {connectionId userId : Uuid} (sessionId : Uuid)
    (alike : manager.userOf connectionId = none ∨ manager.userOf connectionId = some userId) (other : Uuid) :
    Connected (manager.authenticate connectionId userId sessionId) other ↔
      Connected manager other ∨ (other = userId ∧ connectionId ∈ manager.connections) := by
  unfold Connected
  rw [connections_authenticate]
  cases found : lookup Connection.id connectionId manager.objects with
  | none =>
      have unchanged : manager.authenticate connectionId userId sessionId = manager := by
        rw [ConnectionManager.authenticate, found]
      rw [unchanged]
      refine (or_iff_left ?_).symm
      rintro ⟨-, registered⟩
      obtain ⟨connection, present⟩ := sound.known connectionId registered
      rw [present] at found
      cases found
  | some connection =>
      rw [userOf_authenticate found]
      constructor
      · rintro ⟨holder, inside, user⟩
        by_cases same : holder = connectionId
        · subst same
          rw [Function.update_self] at user
          exact .inr ⟨(Option.some.inj user).symm, inside⟩
        · rw [Function.update_of_ne same] at user
          exact .inl ⟨holder, inside, user⟩
      · rintro (⟨holder, inside, user⟩ | ⟨rfl, registered⟩)
        · refine ⟨holder, inside, ?_⟩
          by_cases same : holder = connectionId
          · subst same
            rw [Function.update_self]
            obtain nobody | known := alike
            · rw [nobody] at user
              cases user
            · exact known.symm.trans user
          · rw [Function.update_of_ne same]
            exact user
        · exact ⟨connectionId, registered, Function.update_self _ _ _⟩

/-- An open socket has a registered connection. -/
theorem WebSocketServer.Tracked.registered {server : WebSocketServer} (tracked : Tracked server)
    {connectionId : Uuid} {socket : Socket} (found : server.findSocket connectionId = some socket)
    (opened : socket.closed = false) : connectionId ∈ server.manager.connections := by
  obtain ⟨inside, rfl⟩ := lookup_mem Socket.connectionId found
  rw [tracked.alive, openIds]
  refine List.mem_map.mpr ⟨socket.life, List.mem_filter.mpr ⟨List.mem_map_of_mem inside, ?_⟩, rfl⟩
  rw [Socket.life, opened]
  rfl

/-- A connected user was last reported online, and a user that was reported and is not connected is reported
offline or will be. -/
structure Presented (progress : Library.Progress WebSocketServer ServerTask) (userId : Uuid) : Prop where
  online : Connected progress.state.manager userId →
    .updateLastSeenAt userId ∉ progress.pending ∧ lastPresence progress.state userId = some .online
  offline : ¬ Connected progress.state.manager userId → lastPresence progress.state userId ≠ none →
    .updateLastSeenAt userId ∈ progress.pending ∨
      ∃ time, lastPresence progress.state userId = some (.offline time)

theorem Presented.congr {progress next : Library.Progress WebSocketServer ServerTask} {userId : Uuid}
    (presented : Presented progress userId)
    (connected : Connected next.state.manager userId ↔ Connected progress.state.manager userId)
    (frame : lastPresence next.state userId = lastPresence progress.state userId)
    (pending : .updateLastSeenAt userId ∈ next.pending ↔ .updateLastSeenAt userId ∈ progress.pending) :
    Presented next userId := by
  constructor
  · rw [connected, frame, pending]
    exact presented.online
  · rw [connected, frame, pending]
    exact presented.offline

/-- The server state and the pending handlers agree about every user. -/
structure Present (progress : Library.Progress WebSocketServer ServerTask) : Prop where
  tracked : Tracked progress.state
  filed : ∃ owner, Filed progress.state.manager owner
  users : ∀ userId, Presented progress userId

theorem Present.initial : Present ⟨{}, []⟩ where
  tracked := Tracked.initial
  filed := ⟨_, Filed.initial⟩
  users userId := by
    constructor
    · rintro ⟨connectionId, inside, -⟩
      exact absurd inside List.not_mem_nil
    · intro _ reported
      exact absurd rfl reported

section Turns
variable {progress : Library.Progress WebSocketServer ServerTask}

theorem Present.filed_start (present : Present progress) (event : ServerEvent) :
    ∃ owner, Filed (progress.state.start event).1.manager owner := by
  obtain ⟨owner, filed⟩ := present.filed
  have step := started progress.state event
  generalize progress.state.start event = outcome at step ⊢
  cases step with
  | connects => exact ⟨owner, filed.register⟩
  | closes connectionId socket found opened listening =>
      exact ⟨_, filed.unregister (present.tracked.registered found opened)⟩
  | drops connectionId socket found opened deaf => exact ⟨owner, filed⟩
  | moves event next task unmoved other =>
      refine ⟨owner, ?_⟩
      rw [unmoved.manager]
      exact filed

theorem Present.filed_resume (present : Present progress) {task : ServerTask} {answer : ServerAnswer}
    (same : sameUser progress task answer) :
    ∃ owner, Filed (progress.state.resume task answer).1.manager owner := by
  obtain ⟨owner, filed⟩ := present.filed
  have step := resumed progress.state task answer
  generalize progress.state.resume task answer = outcome at step ⊢
  cases step with
  | authenticates awaiter connectionId userId sessionId =>
      change ∃ owner, Filed (progress.state.manager.authenticate connectionId userId sessionId) owner
      cases found : lookup Connection.id connectionId progress.state.manager.objects with
      | none =>
          rw [ConnectionManager.authenticate, found]
          exact ⟨owner, filed⟩
      | some connection => exact ⟨_, filed.authenticate found same⟩
  | broadcasts userId time => exact ⟨owner, filed⟩
  | fails userId => exact ⟨owner, filed⟩
  | waits task answer => exact ⟨owner, filed⟩
  | moves task answer next rest unmoved before after =>
      refine ⟨owner, ?_⟩
      rw [unmoved.manager]
      exact filed

theorem lastPresence_of_unmoved {server next : WebSocketServer} (unmoved : Unmoved server next) (userId : Uuid) :
    lastPresence next userId = lastPresence server userId := by
  rw [lastPresence, lastPresence, unmoved.frames]

/-- The listener of a closing socket starts an offline handler exactly for the last connection of its user. -/
theorem Present.closes (present : Present progress) {connectionId : Uuid} {socket : Socket}
    (found : progress.state.findSocket connectionId = some socket) (opened : socket.closed = false)
    (userId : Uuid) :
    Presented (waiting progress.pending
      ((progress.state.updateSocket connectionId fun socket => { socket with closed := true }).onClose
        connectionId)) userId := by
  obtain ⟨owner, filed⟩ := present.filed
  have registered := present.tracked.registered found opened
  have presented := present.users userId
  have left := filed.connected_unregister connectionId userId
  by_cases user : progress.state.manager.userOf connectionId = some userId
  · have connected : Connected progress.state.manager userId := ⟨connectionId, registered, user⟩
    obtain ⟨idle, online⟩ := presented.online connected
    have only := filed.last_connection_iff registered user
    by_cases single : (progress.state.manager.getUserConnections userId).length = 1
    · have handled : ((progress.state.updateSocket connectionId fun socket =>
          { socket with closed := true }).onClose connectionId).2 = some (.updateLastSeenAt userId) := by
        unfold onClose
        change (progress.state.manager.userOf connectionId).bind _ = _
        rw [user, Option.bind_some]
        exact if_pos single
      constructor
      · intro still
        obtain ⟨other, listed, apart, owned⟩ := left.mp still
        exact absurd (only.mp single other listed owned) apart
      · exact fun _ _ => .inl (mem_waiting.mpr (.inr handled))
    · have unhandled : ((progress.state.updateSocket connectionId fun socket =>
          { socket with closed := true }).onClose connectionId).2 = none := by
        unfold onClose
        change (progress.state.manager.userOf connectionId).bind _ = _
        rw [user, Option.bind_some]
        exact if_neg single
      have remains : Connected (progress.state.manager.unregister connectionId) userId := by
        rw [left]
        by_contra nobody
        refine single (only.mpr fun other listed owned => ?_)
        by_contra apart
        exact nobody ⟨other, listed, apart, owned⟩
      constructor
      · refine fun _ => ⟨?_, online⟩
        rw [mem_waiting, unhandled]
        rintro (pending | none)
        · exact idle pending
        · cases none
      · exact fun gone => absurd remains gone
  · refine presented.congr ?_ rfl ?_
    · refine left.trans ⟨?_, ?_⟩
      · rintro ⟨other, listed, -, owned⟩
        exact ⟨other, listed, owned⟩
      · rintro ⟨other, listed, owned⟩
        refine ⟨other, listed, ?_, owned⟩
        rintro rfl
        exact user owned
    · rw [mem_waiting]
      refine or_iff_left ?_
      intro handled
      change (progress.state.manager.userOf connectionId).bind _ = _ at handled
      obtain ⟨other, owned, chosen⟩ := Option.bind_eq_some_iff.mp handled
      split at chosen
      · cases chosen
        exact user owned
      · cases chosen

theorem Present.start (present : Present progress) {event : ServerEvent}
    (heard : ∀ connectionId, event = .close connectionId → progress.state.hears connectionId = true) :
    Present (waiting progress.pending (progress.state.start event)) := by
  refine ⟨present.tracked.start heard, present.filed_start event, ?_⟩
  intro userId
  have step := started progress.state event
  generalize progress.state.start event = outcome at step ⊢
  cases step with
  | connects =>
      refine (present.users userId).congr (present.tracked.sound.connected_register userId) rfl ?_
      rw [mem_waiting]
      exact or_iff_left nofun
  | closes connectionId socket found opened listening => exact present.closes found opened userId
  | drops connectionId socket found opened deaf =>
      have heard := heard connectionId rfl
      rw [hears, found, Option.all_some, opened, deaf] at heard
      cases heard
  | moves event next task unmoved other =>
      refine (present.users userId).congr ?_ (lastPresence_of_unmoved unmoved userId) ?_
      · change Connected next.manager userId ↔ _
        rw [unmoved.manager]
      · rw [mem_waiting]
        exact or_iff_left (other userId)

/-- An undisturbed authentication reports the user online. -/
theorem Present.authenticates (present : Present progress) {position : Nat} {awaiter : Awaiter}
    {connectionId userId sessionId : Uuid}
    (resuming : progress.pending[position]? = some (.getWsSession awaiter connectionId))
    (same : sameUser progress (.getWsSession awaiter connectionId) (.session userId sessionId))
    (calm : undisturbed progress (.getWsSession awaiter connectionId) (.session userId sessionId)) (other : Uuid) :
    Presented (waiting (progress.pending.eraseIdx position)
      (progress.state.authenticate connectionId userId sessionId,
        some (.syncPendingMessages awaiter connectionId))) other := by
  have connected := present.tracked.sound.connected_authenticate sessionId same other
  have frame : lastPresence (progress.state.authenticate connectionId userId sessionId) other =
      if userId = other then some .online else lastPresence progress.state other :=
    lastPresence_broadcast .online userId other _ _
  have pending : (.updateLastSeenAt other ∈ (waiting (progress.pending.eraseIdx position)
      (progress.state.authenticate connectionId userId sessionId,
        some (ServerTask.syncPendingMessages awaiter connectionId))).pending) ↔
      .updateLastSeenAt other ∈ progress.pending := by
    rw [mem_waiting]
    exact (or_iff_left nofun).trans (mem_eraseIdx_of_ne resuming nofun)
  by_cases equal : userId = other
  · subst equal
    obtain ⟨reachable, idle⟩ := calm
    have now : Connected (progress.state.manager.authenticate connectionId userId sessionId) userId :=
      connected.mpr (reachable.symm.imp_right fun registered => ⟨rfl, registered⟩)
    constructor
    · refine fun _ => ⟨fun inside => idle (pending.mp inside), ?_⟩
      exact frame.trans (if_pos rfl)
    · exact fun gone => absurd now gone
  · refine (present.users other).congr (connected.trans (or_iff_left ?_)) (frame.trans (if_neg equal)) pending
    exact fun both => equal both.1.symm

theorem Present.resume (present : Present progress) {position : Nat} {task : ServerTask} {answer : ServerAnswer}
    (resuming : progress.pending[position]? = some task) (same : sameUser progress task answer)
    (calm : undisturbed progress task answer) :
    Present (waiting (progress.pending.eraseIdx position) (progress.state.resume task answer)) := by
  refine ⟨present.tracked.resume task answer, present.filed_resume same, ?_⟩
  intro other
  have step := resumed progress.state task answer
  generalize progress.state.resume task answer = outcome at step ⊢
  cases step with
  | authenticates awaiter connectionId userId sessionId => exact present.authenticates resuming same calm other
  | broadcasts userId time =>
      have frame : lastPresence (progress.state.presenceOfflineHandler userId time) other =
          if userId = other then some (.offline time) else lastPresence progress.state other :=
        lastPresence_broadcast (.offline time) userId other _ _
      by_cases equal : userId = other
      · subst equal
        have waited : .updateLastSeenAt userId ∈ progress.pending := List.mem_of_getElem? resuming
        constructor
        · exact fun connected => absurd waited ((present.users userId).online connected).1
        · exact fun _ _ => .inr ⟨time, frame.trans (if_pos rfl)⟩
      · refine (present.users other).congr Iff.rfl (frame.trans (if_neg equal)) ?_
        rw [mem_waiting]
        refine (or_iff_left nofun).trans (mem_eraseIdx_of_ne resuming ?_)
        rintro ⟨⟩
        exact equal rfl
  | fails userId => exact absurd calm id
  | waits task answer =>
      exact (present.users other).congr Iff.rfl rfl (mem_waiting_again resuming)
  | moves task answer next rest unmoved before after =>
      refine (present.users other).congr ?_ (lastPresence_of_unmoved unmoved other) ?_
      · change Connected next.manager other ↔ _
        rw [unmoved.manager]
      · rw [mem_waiting, mem_eraseIdx_of_ne resuming (before other).symm]
        exact or_iff_left (after other)

theorem lastPresence_ne_none {server : WebSocketServer} {userId : Uuid} :
    lastPresence server userId ≠ none ↔ ∃ frame ∈ server.frames, frame.userId = userId := by
  rw [lastPresence, ne_eq, Option.map_eq_none_iff, List.getLast?_eq_none_iff, List.filter_eq_nil_iff]
  simp

/-- No turn takes a broadcast back. -/
theorem frames_advance (turn : Turn ServerEvent ServerAnswer) {frame : PresenceFrame}
    (inside : frame ∈ progress.state.frames) : frame ∈ (webSocketServer.advance progress turn).state.frames := by
  refine webSocketServer.advance_keeps (fun progress => frame ∈ progress.state.frames) inside ?_ ?_
  · intro event _
    change frame ∈ (progress.state.start event).1.frames
    have step := started progress.state event
    generalize progress.state.start event = outcome at step ⊢
    cases step with
    | connects => exact inside
    | closes connectionId socket found opened listening => exact inside
    | drops connectionId socket found opened deaf => exact inside
    | moves event next task unmoved other =>
        rw [unmoved.frames]
        exact inside
  · intro position answer task _ _
    change frame ∈ (progress.state.resume task answer).1.frames
    have step := resumed progress.state task answer
    generalize progress.state.resume task answer = outcome at step ⊢
    cases step with
    | authenticates awaiter connectionId userId sessionId => exact List.mem_append_left _ inside
    | broadcasts userId time => exact List.mem_append_left _ inside
    | fails userId => exact inside
    | waits task answer => exact inside
    | moves task answer next rest unmoved before after =>
        rw [unmoved.frames]
        exact inside

end Turns

/-- Each connection authenticates as one user and each close event reaches its listener, and no handler
disturbs the presence of a user. -/
def PresenceKept (progress : Library.Progress WebSocketServer ServerTask)
    (turn : Turn ServerEvent ServerAnswer) : Prop :=
  CloseHeard progress turn ∧ OnResume sameUser progress turn ∧ OnResume undisturbed progress turn

instance (progress : Library.Progress WebSocketServer ServerTask) (turn : Turn ServerEvent ServerAnswer) :
    Decidable (PresenceKept progress turn) :=
  inferInstanceAs (Decidable (_ ∧ _))

theorem Present.advance {progress : Library.Progress WebSocketServer ServerTask}
    {turn : Turn ServerEvent ServerAnswer}
    (present : Present progress) (kept : PresenceKept progress turn) :
    Present (webSocketServer.advance progress turn) := by
  obtain ⟨heard, same, calm⟩ := kept
  refine webSocketServer.advance_keeps Present present ?_ ?_
  · rintro event rfl
    apply present.start
    rintro connectionId rfl
    exact heard
  · rintro position answer task rfl resuming
    exact present.resume resuming (same task resuming) (calm task resuming)

/-- The presence is truthful in every state of an undisturbed run. -/
theorem presence_truthful {turns : List (Turn ServerEvent ServerAnswer)}
    (kept : Meets webSocketServer.advance PresenceKept ⟨{}, []⟩ turns) (position : Nat) (userId : Uuid) :
    PresenceTruthful (stateAt webSocketServer.advance ⟨{}, []⟩ turns position) userId
      (∃ before ≤ position,
        Connected (stateAt webSocketServer.advance ⟨{}, []⟩ turns before).state.manager userId) := by
  have present (place : Nat) : Present (stateAt webSocketServer.advance ⟨{}, []⟩ turns place) :=
    kept.invariant webSocketServer.advance Present Present.initial (fun _ _ held met => held.advance met) place
  have presented := (present position).users userId
  constructor
  · exact fun _ connected => (presented.online connected).2
  · rintro idle ⟨before, ordered, connected⟩ gone
    have online := (((present before).users userId).online connected).2
    obtain ⟨frame, inside, about⟩ := lastPresence_ne_none.mp (by rw [online]; exact nofun)
    have reported := stateAt_persists webSocketServer.advance
      (fun progress => frame ∈ progress.state.frames) (fun _ turn held => frames_advance turn held) ordered inside
    obtain pending | offline := presented.offline gone (lastPresence_ne_none.mpr ⟨frame, reported, about⟩)
    · exact absurd pending idle
    · exact offline

/-- User 1 signs in on two devices and leaves with both of them. -/
def twoDevicesLeave : List (Turn ServerEvent ServerAnswer) :=
  [.call .connection, .resume 0 (.cookies true), .resume 0 (.session 1 7), .resume 0 .done, .resume 0 .done,
    .call .connection, .resume 0 (.cookies true), .resume 0 (.session 1 8), .resume 0 .done, .resume 0 .done,
    .call (.close 0), .call (.close 1), .resume 0 (.lastSeenAt 5)]

theorem twoDevicesLeave_presence_truthful :
    PresenceTruthful (stateAt webSocketServer.advance ⟨{}, []⟩ twoDevicesLeave 13) 1
      (∃ before ≤ 13,
        Connected (stateAt webSocketServer.advance ⟨{}, []⟩ twoDevicesLeave before).state.manager 1) :=
  presence_truthful (by decide) 13 1

/-- User 1 comes back while the handler of its last connection still writes the time. -/
def overtakenOffline : List (Turn ServerEvent ServerAnswer) :=
  [.call .connection, .resume 0 (.cookies true), .resume 0 (.session 1 7), .resume 0 .done, .resume 0 .done,
    .call (.close 0), .call .connection, .resume 1 (.cookies true), .resume 1 (.session 1 8), .resume 1 .done,
    .resume 1 .done, .resume 0 (.lastSeenAt 5)]

/-- Each connection has one user and every close event is heard, nothing is pending at the end, and the last
broadcast about the connected user 1 says that it is offline. -/
theorem overtaken_offline_not_truthful :
    Meets webSocketServer.advance (fun progress turn => CloseHeard progress turn ∧ OnResume sameUser progress turn)
        ⟨{}, []⟩ overtakenOffline ∧
      (stateAt webSocketServer.advance ⟨{}, []⟩ overtakenOffline 12).pending = [] ∧
      ¬ PresenceTruthful (stateAt webSocketServer.advance ⟨{}, []⟩ overtakenOffline 12) 1
        (∃ before ≤ 12,
          Connected (stateAt webSocketServer.advance ⟨{}, []⟩ overtakenOffline before).state.manager 1) := by
  refine ⟨by decide, by decide, ?_⟩
  intro truthful
  exact absurd (truthful.online (by decide) (by decide)) (by decide)

end Messinger
