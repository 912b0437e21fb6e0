import Messinger.Library.History
import Messinger.Proof.LiveTurns

namespace Messinger
open Library WebSocketServer ConnectionManager

/-- The message listener or the callback of the connection awaits the task. -/
def ServerTask.connection : ServerTask → Option Uuid
  | .authenticateWsConnection connectionId => some connectionId
  | .getWsSession _ connectionId => some connectionId
  | .syncPendingMessages _ connectionId => some connectionId
  | .syncPendingGroupInvitations _ connectionId => some connectionId
  | .dispatch connectionId => some connectionId
  | .updateLastSeenAt _ => none

/-- This is the flag that the timer tests. -/
def Socket.mark (socket : Socket) : Uuid × Bool := (socket.connectionId, socket.authenticated)

namespace WebSocketServer

/-- The timer of the connection is set and not cleared. -/
def armed (server : WebSocketServer) (connectionId : Uuid) : Bool :=
  (server.findSocket connectionId).any Socket.authTimeout

/-- The callback of the timer closes the socket. -/
def timerCloses (server : WebSocketServer) (connectionId : Uuid) : Bool :=
  (server.findSocket connectionId).any fun socket => socket.authTimeout && !socket.authenticated

theorem fireTimeout_eq (server : WebSocketServer) (connectionId : Uuid) :
    server.fireTimeout connectionId =
      (if server.timerCloses connectionId then server.closeSocket connectionId else server, none) := by
  unfold fireTimeout timerCloses
  cases server.findSocket connectionId with
  | none => rfl
  | some socket =>
      simp only [Option.any_some]
      split <;> rfl

end WebSocketServer

/-- The timer closes the socket only while the connection has no user. -/
def SparesAuthenticated (progress : Library.Progress WebSocketServer ServerTask) :
    Turn ServerEvent ServerAnswer → Prop
  | .call (.timeout connectionId) => progress.state.timerCloses connectionId = true →
      progress.state.manager.userOf connectionId = none
  | _ => True

/-- The turn accepts a token of the connection: its `getWsSession` answers a session. -/
def AcceptsSession (progress : Library.Progress WebSocketServer ServerTask)
    (turn : Turn ServerEvent ServerAnswer) (connectionId : Uuid) : Prop :=
  ∃ place awaiter userId sessionId, turn = .resume place (.session userId sessionId) ∧
    progress.pending[place]? = some (.getWsSession awaiter connectionId)

/-- The turn finishes an authentication of the connection: its second synchronization is done. -/
def FinishesSync (progress : Library.Progress WebSocketServer ServerTask)
    (turn : Turn ServerEvent ServerAnswer) (connectionId : Uuid) : Prop :=
  ∃ place awaiter, turn = .resume place .done ∧
    progress.pending[place]? = some (.syncPendingGroupInvitations awaiter connectionId)

/-- The connections are numbered, and each has an object and a socket. -/
structure WebSocketServer.Numbered (server : WebSocketServer) : Prop where
  objects : server.manager.objects.map Connection.id = List.range server.manager.nextId
  sockets : server.sockets.map Socket.connectionId = List.range server.manager.nextId

/-- Tasks wait for connections that were registered. -/
structure Grounded (progress : Library.Progress WebSocketServer ServerTask) : Prop where
  numbered : progress.state.Numbered
  tasks : ∀ task ∈ progress.pending, ∀ connectionId, task.connection = some connectionId →
    connectionId < progress.state.manager.nextId

namespace WebSocketServer
variable {server : WebSocketServer}

theorem Unmoved.connectionIds {next : WebSocketServer} (unmoved : Unmoved server next) :
    next.sockets.map Socket.connectionId = server.sockets.map Socket.connectionId := by
  have same := congrArg (List.map Prod.fst) unmoved.lives
  rw [List.map_map, List.map_map] at same
  exact same

theorem connectionIds_updateSocket (connectionId : Uuid) {change : Socket → Socket}
    (keeps : ∀ socket, (change socket).connectionId = socket.connectionId) :
    (server.updateSocket connectionId change).sockets.map Socket.connectionId =
      server.sockets.map Socket.connectionId :=
  map_updateWhere Socket.connectionId _ change keeps server.sockets

theorem marks_updateSocket (connectionId : Uuid) {change : Socket → Socket}
    (keeps : ∀ socket, (change socket).mark = socket.mark) :
    (server.updateSocket connectionId change).sockets.map Socket.mark = server.sockets.map Socket.mark :=
  map_updateWhere Socket.mark _ change keeps server.sockets

theorem objects_authenticate (manager : ConnectionManager) (connectionId userId sessionId : Uuid) :
    (manager.authenticate connectionId userId sessionId).objects.map Connection.id =
      manager.objects.map Connection.id := by
  unfold ConnectionManager.authenticate
  split
  · rfl
  · simp only [attachUser, updateConnection]
    rw [map_updateWhere, map_updateWhere]
    · exact fun _ => rfl
    · exact fun _ => rfl

/-- Only a message and a new connection leave a task that belongs to a connection. -/
theorem start_connection {event : ServerEvent} {task : ServerTask} {connectionId : Uuid}
    (left : (server.start event).2 = some task) (belongs : task.connection = some connectionId) :
    (event = .connection ∧ connectionId = server.manager.nextId) ∨
      ∃ socket, server.findSocket connectionId = some socket := by
  cases event with
  | connection =>
      cases left
      cases belongs
      exact .inl ⟨rfl, rfl⟩
  | message other message =>
      refine .inr ?_
      change (server.emitMessage other message).2 = some task at left
      unfold emitMessage at left
      cases found : server.findSocket other with
      | none =>
          rw [found] at left
          cases left
      | some socket =>
          rw [found] at left
          simp only at left
          split at left
          · cases left
          · cases message with
            | authTokenSent =>
                cases left
                cases belongs
                exact ⟨socket, found⟩
            | dispatched =>
                cases left
                cases belongs
                exact ⟨socket, found⟩
            | malformed => cases left
  | timeout other =>
      change (server.fireTimeout other).2 = some task at left
      rw [fireTimeout_eq] at left
      cases left
  | close other =>
      change (server.emitClose other).2 = some task at left
      unfold emitClose at left
      split at left
      · cases left
      · simp only at left
        split at left
        · cases left
        · split at left
          · obtain ⟨userId, -, chosen⟩ := Option.bind_eq_some_iff.mp left
            split at chosen
            · cases chosen
              cases belongs
            · cases chosen
          · cases left

/-- A task goes on for its own connection. -/
theorem resume_connection {task rest : ServerTask} {answer : ServerAnswer}
    (left : (server.resume task answer).2 = some rest) : rest.connection = task.connection := by
  unfold resume at left
  split at left
  · cases left
  · split at left
    · cases left
      rfl
    · cases left
  · cases left
  · cases left
    rfl
  · cases left
  · cases left
    rfl
  · cases left
  · cases left
  · cases left
  · cases left
  · cases left
  · cases left
  · cases left
    rfl

theorem userOf_start (server : WebSocketServer) (event : ServerEvent) :
    (server.start event).1.manager.userOf = server.manager.userOf := by
  have step := started server event
  generalize server.start event = outcome at step ⊢
  cases step with
  | connects => exact userOf_register server.manager
  | closes connectionId socket found opened listening => exact userOf_unregister server.manager connectionId
  | drops connectionId socket found opened deaf => rfl
  | moves event next task unmoved other => rw [unmoved.manager]

theorem marks_start (server : WebSocketServer) (event : ServerEvent) (connectionId : Uuid) :
    (connectionId, true) ∈ (server.start event).1.sockets.map Socket.mark ↔
      (connectionId, true) ∈ server.sockets.map Socket.mark := by
  cases event with
  | connection =>
      change _ ∈ (server.sockets ++ [({ connectionId := server.manager.nextId } : Socket)]).map Socket.mark ↔ _
      rw [List.map_append, List.mem_append]
      refine or_iff_left ?_
      intro new
      cases List.mem_singleton.mp new
  | message other message =>
      change _ ∈ (server.emitMessage other message).1.sockets.map Socket.mark ↔ _
      unfold emitMessage
      split
      · rfl
      · split <;> rfl
  | timeout other =>
      change _ ∈ (server.fireTimeout other).1.sockets.map Socket.mark ↔ _
      rw [fireTimeout_eq]
      simp only
      split
      · rw [closeSocket, marks_updateSocket]
        exact fun _ => rfl
      · rfl
  | close other =>
      change _ ∈ (server.emitClose other).1.sockets.map Socket.mark ↔ _
      unfold emitClose
      split
      · rfl
      · simp only
        split
        · rfl
        · split
          · simp only [onClose]
            rw [marks_updateSocket, updateSocket]
            · simp only
              rw [map_updateWhere]
              exact fun _ => rfl
            · exact fun _ => rfl
          · rw [marks_updateSocket]
            exact fun _ => rfl

theorem Numbered.of_unmoved {next : WebSocketServer} (numbered : server.Numbered)
    (unmoved : Unmoved server next) : next.Numbered where
  objects := by
    rw [unmoved.manager]
    exact numbered.objects
  sockets := by
    rw [unmoved.manager, unmoved.connectionIds]
    exact numbered.sockets

theorem Numbered.start (numbered : server.Numbered) (event : ServerEvent) : (server.start event).1.Numbered := by
  have step := started server event
  generalize server.start event = outcome at step ⊢
  cases step with
  | connects =>
      constructor
      · change (server.manager.objects ++ [_]).map Connection.id = List.range (server.manager.nextId + 1)
        rw [List.map_append, numbered.objects, List.range_succ]
        rfl
      · change (server.sockets ++ [_]).map Socket.connectionId = List.range (server.manager.nextId + 1)
        rw [List.map_append, numbered.sockets, List.range_succ]
        rfl
  | closes connectionId socket found opened listening =>
      constructor
      · change (server.manager.unregister connectionId).objects.map Connection.id =
          List.range (server.manager.unregister connectionId).nextId
        rw [objects_unregister, nextId_unregister]
        exact numbered.objects
      · change ((_ : WebSocketServer).updateSocket connectionId _).sockets.map Socket.connectionId =
          List.range (server.manager.unregister connectionId).nextId
        rw [nextId_unregister, connectionIds_updateSocket]
        · change (server.updateSocket connectionId _).sockets.map Socket.connectionId = _
          rw [connectionIds_updateSocket]
          · exact numbered.sockets
          · exact fun _ => rfl
        · exact fun _ => rfl
  | drops connectionId socket found opened deaf =>
      refine ⟨numbered.objects, ?_⟩
      rw [connectionIds_updateSocket]
      · exact numbered.sockets
      · exact fun _ => rfl
  | moves event next task unmoved other => exact numbered.of_unmoved unmoved

theorem Numbered.resume (numbered : server.Numbered) (task : ServerTask) (answer : ServerAnswer) :
    (server.resume task answer).1.Numbered := by
  have step := resumed server task answer
  generalize server.resume task answer = outcome at step ⊢
  cases step with
  | authenticates awaiter connectionId userId sessionId =>
      constructor
      · change (server.manager.authenticate connectionId userId sessionId).objects.map Connection.id =
          List.range (server.manager.authenticate connectionId userId sessionId).nextId
        rw [objects_authenticate, nextId_authenticate]
        exact numbered.objects
      · change server.sockets.map Socket.connectionId =
          List.range (server.manager.authenticate connectionId userId sessionId).nextId
        rw [nextId_authenticate]
        exact numbered.sockets
  | broadcasts userId time => exact ⟨numbered.objects, numbered.sockets⟩
  | fails userId => exact numbered
  | waits task answer => exact numbered
  | moves task answer next rest unmoved before after => exact numbered.of_unmoved unmoved

theorem nextId_start (server : WebSocketServer) (event : ServerEvent) :
    server.manager.nextId ≤ (server.start event).1.manager.nextId := by
  have step := started server event
  generalize server.start event = outcome at step ⊢
  cases step with
  | connects => exact Nat.le_succ server.manager.nextId
  | closes connectionId socket found opened listening =>
      change _ ≤ (server.manager.unregister connectionId).nextId
      rw [nextId_unregister]
  | drops connectionId socket found opened deaf => exact Nat.le_refl _
  | moves event next task unmoved other => rw [unmoved.manager]

theorem nextId_resume (server : WebSocketServer) (task : ServerTask) (answer : ServerAnswer) :
    (server.resume task answer).1.manager.nextId = server.manager.nextId := by
  have step := resumed server task answer
  generalize server.resume task answer = outcome at step ⊢
  cases step with
  | authenticates awaiter connectionId userId sessionId =>
      exact nextId_authenticate server.manager connectionId userId sessionId
  | broadcasts userId time => rfl
  | fails userId => rfl
  | waits task answer => rfl
  | moves task answer next rest unmoved before after => rw [unmoved.manager]

/-- A socket stands for a connection that was registered. -/
theorem Numbered.below (numbered : server.Numbered) {connectionId : Uuid} {socket : Socket}
    (found : server.findSocket connectionId = some socket) : connectionId < server.manager.nextId := by
  obtain ⟨inside, same⟩ := lookup_mem Socket.connectionId found
  have listed := List.mem_map_of_mem (f := Socket.connectionId) inside
  rw [numbered.sockets, same] at listed
  exact List.mem_range.mp listed

end WebSocketServer

section Turns
variable {progress : Library.Progress WebSocketServer ServerTask}

theorem Grounded.initial : Grounded ⟨{}, []⟩ where
  numbered := ⟨rfl, rfl⟩
  tasks := by
    intro task inside
    cases inside

/-- Every turn keeps the tasks on registered connections. -/
theorem Grounded.advance (grounded : Grounded progress) (turn : Turn ServerEvent ServerAnswer) :
    Grounded (webSocketServer.advance progress turn) := by
  refine webSocketServer.advance_keeps Grounded grounded ?_ ?_
  · intro event _
    refine ⟨grounded.numbered.start event, ?_⟩
    intro task inside connectionId belongs
    have grows := nextId_start progress.state event
    obtain old | new := mem_waiting.mp inside
    · exact Nat.lt_of_lt_of_le (grounded.tasks task old connectionId belongs) grows
    · obtain ⟨rfl, rfl⟩ | ⟨socket, found⟩ := start_connection new belongs
      · exact Nat.lt_succ_self progress.state.manager.nextId
      · exact Nat.lt_of_lt_of_le (grounded.numbered.below found) grows
  · intro place answer task _ present
    refine ⟨grounded.numbered.resume task answer, ?_⟩
    intro rest inside connectionId belongs
    change connectionId < (progress.state.resume task answer).1.manager.nextId
    rw [nextId_resume]
    obtain old | new := mem_waiting.mp inside
    · exact grounded.tasks rest (List.mem_of_mem_eraseIdx old) connectionId belongs
    · rw [resume_connection new] at belongs
      exact grounded.tasks task (List.mem_of_getElem? present) connectionId belongs

theorem grounded_stateAt (turns : List (Turn ServerEvent ServerAnswer)) (position : Nat) :
    Grounded (stateAt webSocketServer.advance ⟨{}, []⟩ turns position) := by
  refine run_invariant webSocketServer.advance Grounded ?_ (turns.take position) ⟨{}, []⟩ Grounded.initial
  exact fun _ turn grounded => grounded.advance turn

end Turns

namespace WebSocketServer
variable {server : WebSocketServer}

/-- A task other than an accepted token leaves the user of the connection. -/
theorem userOf_resume {task : ServerTask} {answer : ServerAnswer} {connectionId : Uuid}
    (other : ∀ awaiter userId sessionId,
      ¬ (task = .getWsSession awaiter connectionId ∧ answer = .session userId sessionId)) :
    (server.resume task answer).1.manager.userOf connectionId = server.manager.userOf connectionId := by
  have step := resumed server task answer
  generalize server.resume task answer = outcome at step ⊢
  cases step with
  | authenticates awaiter accepted userId sessionId =>
      refine userOf_authenticate_of_ne userId sessionId ?_
      rintro rfl
      exact other awaiter userId sessionId ⟨rfl, rfl⟩
  | broadcasts userId time => rfl
  | fails userId => rfl
  | waits task answer => rfl
  | moves task answer next rest unmoved before after => rw [unmoved.manager]

theorem Numbered.lookup_object (numbered : server.Numbered) {connectionId : Uuid}
    (below : connectionId < server.manager.nextId) :
    ∃ object, lookup Connection.id connectionId server.manager.objects = some object := by
  have listed := List.mem_range.mpr below
  rw [← numbered.objects] at listed
  obtain ⟨object, inside, rfl⟩ := List.mem_map.mp listed
  have distinct : (server.manager.objects.map Connection.id).Nodup := numbered.objects ▸ List.nodup_range
  exact ⟨object, lookup_of_mem Connection.id distinct inside⟩

theorem marks_authenticationFailed (awaiter : Awaiter) (connectionId : Uuid) :
    (server.authenticationFailed awaiter connectionId).sockets.map Socket.mark = server.sockets.map Socket.mark := by
  cases awaiter with
  | callback => exact marks_updateSocket connectionId fun _ => rfl
  | listener => rfl

theorem marks_requestAuthToken (connectionId : Uuid) :
    (server.requestAuthToken connectionId).sockets.map Socket.mark = server.sockets.map Socket.mark := by
  rw [requestAuthToken, installListeners, marks_updateSocket, marks_updateSocket]
  · exact fun _ => rfl
  · exact fun _ => rfl

/-- The end of an authentication raises the flag of its own socket. -/
theorem marks_authenticationDone (awaiter : Awaiter) (finished connectionId : Uuid) :
    (connectionId, true) ∈ (server.authenticationDone awaiter finished).sockets.map Socket.mark ↔
      (connectionId, true) ∈ server.sockets.map Socket.mark ∨
        (finished = connectionId ∧ connectionId ∈ server.sockets.map Socket.connectionId) := by
  have raised : ∀ change : Socket → Socket,
      (∀ socket, (change socket).mark = (socket.connectionId, true)) →
      ((connectionId, true) ∈ (server.updateSocket finished change).sockets.map Socket.mark ↔
        (connectionId, true) ∈ server.sockets.map Socket.mark ∨
          (finished = connectionId ∧ connectionId ∈ server.sockets.map Socket.connectionId)) := by
    intro change raises
    constructor
    · intro inside
      obtain ⟨socket, listed, marked⟩ := List.mem_map.mp inside
      obtain ⟨old, present, same⟩ := mem_updateWhere.mp listed
      split at same
      · next matched =>
          rw [same, raises] at marked
          cases marked
          exact .inr ⟨(of_decide_eq_true matched).symm, List.mem_map_of_mem present⟩
      · rw [same] at marked
        exact .inl (List.mem_map.mpr ⟨old, present, marked⟩)
    · rintro (before | ⟨rfl, known⟩)
      · obtain ⟨old, present, marked⟩ := List.mem_map.mp before
        refine List.mem_map.mpr ⟨_, mem_updateWhere.mpr ⟨old, present, rfl⟩, ?_⟩
        split
        · rw [raises]
          exact congrArg (fun mark => (mark.1, true)) marked
        · exact marked
      · obtain ⟨old, present, rfl⟩ := List.mem_map.mp known
        refine List.mem_map.mpr ⟨_, mem_updateWhere.mpr ⟨old, present, rfl⟩, ?_⟩
        rw [if_pos (decide_eq_true rfl), raises]
  cases awaiter with
  | callback =>
      rw [authenticationDone, installListeners, marks_updateSocket]
      · exact raised _ fun _ => rfl
      · exact fun _ => rfl
  | listener => exact raised _ fun _ => rfl

/-- A task other than the end of an authentication leaves the flags. -/
theorem marks_resume {task : ServerTask} {answer : ServerAnswer}
    (other : ∀ awaiter connectionId, ¬ (task = .syncPendingGroupInvitations awaiter connectionId ∧ answer = .done)) :
    (server.resume task answer).1.sockets.map Socket.mark = server.sockets.map Socket.mark := by
  unfold resume
  split
  · exact marks_authenticationFailed _ _
  · split
    · rfl
    · exact marks_requestAuthToken _
  · exact marks_authenticationFailed _ _
  · rfl
  · exact marks_authenticationFailed _ _
  · rfl
  · exact marks_authenticationFailed _ _
  · next awaiter connectionId => exact absurd ⟨rfl, rfl⟩ (other awaiter connectionId)
  · rfl
  · rfl
  · rfl
  · rfl
  · rfl

end WebSocketServer

section Run
variable {progress : Library.Progress WebSocketServer ServerTask} {turn : Turn ServerEvent ServerAnswer}
  {connectionId : Uuid}

theorem acceptsSession_iff :
    AcceptsSession progress turn connectionId ↔ ∃ place answer task, turn = .resume place answer ∧
      progress.pending[place]? = some task ∧ ∃ awaiter userId sessionId,
        task = .getWsSession awaiter connectionId ∧ answer = .session userId sessionId := by
  constructor
  · rintro ⟨place, awaiter, userId, sessionId, resumes, waits⟩
    exact ⟨place, _, _, resumes, waits, awaiter, userId, sessionId, rfl, rfl⟩
  · rintro ⟨place, _, _, resumes, waits, awaiter, userId, sessionId, rfl, rfl⟩
    exact ⟨place, awaiter, userId, sessionId, resumes, waits⟩

theorem finishesSync_iff :
    FinishesSync progress turn connectionId ↔ ∃ place answer task, turn = .resume place answer ∧
      progress.pending[place]? = some task ∧ ∃ awaiter,
        task = .syncPendingGroupInvitations awaiter connectionId ∧ answer = .done := by
  constructor
  · rintro ⟨place, awaiter, resumes, waits⟩
    exact ⟨place, _, _, resumes, waits, awaiter, rfl, rfl⟩
  · rintro ⟨place, _, _, resumes, waits, awaiter, rfl, rfl⟩
    exact ⟨place, awaiter, resumes, waits⟩

/-- A connection gets a user exactly when a token of it is accepted. -/
theorem Grounded.userOf_advance (grounded : Grounded progress) :
    (webSocketServer.advance progress turn).state.manager.userOf connectionId ≠ none ↔
      progress.state.manager.userOf connectionId ≠ none ∨ AcceptsSession progress turn connectionId := by
  rw [acceptsSession_iff]
  refine webSocketServer.flag_advance_iff (fun server => server.manager.userOf connectionId ≠ none) _ ?_ ?_
  · intro event
    change (progress.state.start event).1.manager.userOf connectionId ≠ none ↔ _
    rw [userOf_start]
  · intro task inside answer
    change (progress.state.resume task answer).1.manager.userOf connectionId ≠ none ↔ _
    by_cases accepts : ∃ awaiter userId sessionId,
        task = .getWsSession awaiter connectionId ∧ answer = .session userId sessionId
    · refine iff_of_true ?_ (.inr accepts)
      obtain ⟨awaiter, userId, sessionId, rfl, rfl⟩ := accepts
      obtain ⟨object, found⟩ := grounded.numbered.lookup_object (grounded.tasks _ inside connectionId rfl)
      change (progress.state.manager.authenticate connectionId userId sessionId).userOf connectionId ≠ none
      rw [userOf_authenticate found, Function.update_self]
      exact Option.some_ne_none userId
    · rw [or_iff_left accepts, userOf_resume]
      exact fun awaiter userId sessionId same => accepts ⟨awaiter, userId, sessionId, same⟩

/-- The flag of a socket is raised exactly when an authentication of its connection ends. -/
theorem Grounded.marks_advance (grounded : Grounded progress) :
    (connectionId, true) ∈ (webSocketServer.advance progress turn).state.sockets.map Socket.mark ↔
      (connectionId, true) ∈ progress.state.sockets.map Socket.mark ∨ FinishesSync progress turn connectionId := by
  rw [finishesSync_iff]
  refine webSocketServer.flag_advance_iff (fun server => (connectionId, true) ∈ server.sockets.map Socket.mark) _
    (fun event => marks_start progress.state event connectionId) ?_
  intro task inside answer
  change _ ∈ (progress.state.resume task answer).1.sockets.map Socket.mark ↔ _
  by_cases finishes : ∃ awaiter finished, task = .syncPendingGroupInvitations awaiter finished ∧ answer = .done
  · obtain ⟨awaiter, finished, rfl, rfl⟩ := finishes
    have known : finished ∈ progress.state.sockets.map Socket.connectionId := by
      rw [grounded.numbered.sockets]
      exact List.mem_range.mpr (grounded.tasks _ inside finished rfl)
    change _ ∈ (progress.state.authenticationDone awaiter finished).sockets.map Socket.mark ↔ _
    rw [marks_authenticationDone]
    refine or_congr_right ?_
    constructor
    · rintro ⟨rfl, -⟩
      exact ⟨awaiter, rfl, rfl⟩
    · rintro ⟨other, same, -⟩
      cases same
      exact ⟨rfl, known⟩
  · rw [marks_resume]
    · refine (or_iff_left ?_).symm
      exact fun ⟨awaiter, same⟩ => finishes ⟨awaiter, connectionId, same⟩
    · exact fun awaiter finished same => finishes ⟨awaiter, finished, same⟩

variable (turns : List (Turn ServerEvent ServerAnswer)) (position : Nat) (connectionId : Uuid)

theorem userOf_iff_accepted :
    (stateAt webSocketServer.advance ⟨{}, []⟩ turns position).state.manager.userOf connectionId ≠ none ↔
      Happened webSocketServer.advance AcceptsSession ⟨{}, []⟩ turns position connectionId :=
  flag_iff_happened webSocketServer.advance AcceptsSession
    (fun progress => progress.state.manager.userOf connectionId ≠ none) (fun owned => owned rfl)
    (fun earlier _ _ => (grounded_stateAt turns earlier).userOf_advance) position

theorem marks_iff_finished :
    (connectionId, true) ∈ (stateAt webSocketServer.advance ⟨{}, []⟩ turns position).state.sockets.map Socket.mark ↔
      Happened webSocketServer.advance FinishesSync ⟨{}, []⟩ turns position connectionId :=
  flag_iff_happened webSocketServer.advance FinishesSync
    (fun progress => (connectionId, true) ∈ progress.state.sockets.map Socket.mark) (fun inside => by cases inside)
    (fun earlier _ _ => (grounded_stateAt turns earlier).marks_advance) position

end Run

namespace WebSocketServer
variable {server : WebSocketServer} {connectionId : Uuid}

theorem Numbered.mark_iff (numbered : server.Numbered) {socket : Socket}
    (found : server.findSocket connectionId = some socket) :
    (connectionId, true) ∈ server.sockets.map Socket.mark ↔ socket.authenticated = true := by
  obtain ⟨inside, rfl⟩ := lookup_mem Socket.connectionId found
  constructor
  · intro marked
    obtain ⟨other, present, same⟩ := List.mem_map.mp marked
    obtain ⟨named, raised⟩ := Prod.mk.inj same
    have distinct : (server.sockets.map Socket.connectionId).Nodup := numbered.sockets ▸ List.nodup_range
    rw [← List.inj_on_of_nodup_map distinct present inside named]
    exact raised
  · intro raised
    exact List.mem_map.mpr ⟨socket, inside, congrArg (Prod.mk socket.connectionId) raised⟩

/-- The timer closes the socket exactly when it is armed and no authentication has ended. -/
theorem Numbered.timerCloses_iff (numbered : server.Numbered) :
    server.timerCloses connectionId = true ↔ server.armed connectionId = true ∧
      (connectionId, true) ∉ server.sockets.map Socket.mark := by
  unfold timerCloses armed
  cases found : server.findSocket connectionId with
  | none => exact iff_of_false Bool.false_ne_true fun both => Bool.false_ne_true both.1
  | some socket =>
      rw [Option.any_some, Option.any_some, numbered.mark_iff found, Bool.and_eq_true, Bool.not_eq_true',
        Bool.not_eq_true]

end WebSocketServer

/-- The timer spares authenticated sockets exactly when no armed timer fires between the acceptance of a token and
the end of an authentication. -/
theorem timer_spares_authenticated_iff (turns : List (Turn ServerEvent ServerAnswer)) :
    Meets webSocketServer.advance SparesAuthenticated ⟨{}, []⟩ turns ↔
      ∀ position connectionId, turns[position]? = some (.call (.timeout connectionId)) →
        (stateAt webSocketServer.advance ⟨{}, []⟩ turns position).state.armed connectionId = true →
          Happened webSocketServer.advance AcceptsSession ⟨{}, []⟩ turns position connectionId →
            Happened webSocketServer.advance FinishesSync ⟨{}, []⟩ turns position connectionId := by
  have decided : ∀ position connectionId,
      SparesAuthenticated (stateAt webSocketServer.advance ⟨{}, []⟩ turns position) (.call (.timeout connectionId)) ↔
        ((stateAt webSocketServer.advance ⟨{}, []⟩ turns position).state.armed connectionId = true →
          Happened webSocketServer.advance AcceptsSession ⟨{}, []⟩ turns position connectionId →
            Happened webSocketServer.advance FinishesSync ⟨{}, []⟩ turns position connectionId) := by
    intro position connectionId
    rw [← userOf_iff_accepted, ← marks_iff_finished]
    change (WebSocketServer.timerCloses _ connectionId = true → _) ↔ _
    rw [(grounded_stateAt turns position).numbered.timerCloses_iff]
    constructor
    · intro spares armed owned
      by_contra unmarked
      exact owned (spares ⟨armed, unmarked⟩)
    · rintro finished ⟨armed, unmarked⟩
      by_contra owned
      exact unmarked (finished armed owned)
  constructor
  · intro meets position connectionId present
    exact (decided position connectionId).mp (meets position _ present)
  · intro fires position turn present
    cases turn with
    | call event =>
        cases event with
        | timeout connectionId => exact (decided position connectionId).mpr (fires position connectionId present)
        | connection => exact trivial
        | message connectionId message => exact trivial
        | close connectionId => exact trivial
    | resume place answer => exact trivial

/-- The token of the socket is accepted, and its timer fires while the pending messages are synchronized. -/
def timeoutDuringSync : List (Turn ServerEvent ServerAnswer) :=
  [.call .connection, .resume 0 (.cookies false), .call (.message 0 .authTokenSent), .resume 0 (.session 1 7),
    .call (.timeout 0)]

theorem timer_closes_authenticated :
    ¬ Meets webSocketServer.advance SparesAuthenticated ⟨{}, []⟩ timeoutDuringSync := by
  intro spares
  have unowned := spares 4 _ rfl (by decide)
  exact absurd unowned (by decide)

end Messinger
