import Messinger.Proof.Calls
import Messinger.Proof.ServerTurns
import Messinger.Library.History
import Messinger.Model.LiveServer

namespace Messinger
open Library WebSocketServer ConnectionManager

namespace ConnectionManager

theorem userOf_authenticate_of_ne {manager : ConnectionManager} {connectionId other : Uuid} (userId sessionId : Uuid)
    (apart : other ≠ connectionId) :
    (manager.authenticate connectionId userId sessionId).userOf other = manager.userOf other := by
  cases found : lookup Connection.id connectionId manager.objects with
  | none => rw [ConnectionManager.authenticate, found]
  | some connection => rw [userOf_authenticate found, Function.update_of_ne apart]

theorem userOf_authenticate_ne_none {manager : ConnectionManager} {connectionId other : Uuid} (userId sessionId : Uuid)
    (owned : manager.userOf other ≠ none) :
    (manager.authenticate connectionId userId sessionId).userOf other ≠ none := by
  cases found : lookup Connection.id connectionId manager.objects with
  | none =>
      rw [ConnectionManager.authenticate, found]
      exact owned
  | some connection =>
      rw [userOf_authenticate found]
      by_cases same : other = connectionId
      · rw [same, Function.update_self]
        simp
      · rw [Function.update_of_ne same]
        exact owned

/-- The index files only connections that have a user. -/
structure FiledOwned (manager : ConnectionManager) : Prop extends Registered manager where
  owned : ∀ connectionId, Files manager.userConnections connectionId → manager.userOf connectionId ≠ none

theorem FiledOwned.initial : FiledOwned {} where
  toRegistered := Registered.initial
  owned := by
    rintro connectionId ⟨entry, inside, -⟩
    cases inside

theorem FiledOwned.register {manager : ConnectionManager} (filed : FiledOwned manager) :
    FiledOwned manager.register.2 where
  toRegistered := filed.toRegistered.register
  owned := by
    rw [userOf_register]
    exact filed.owned

theorem FiledOwned.authenticate {manager : ConnectionManager} (filed : FiledOwned manager)
    (connectionId userId sessionId : Uuid) : FiledOwned (manager.authenticate connectionId userId sessionId) where
  toRegistered := filed.toRegistered.authenticate connectionId userId sessionId
  owned := by
    intro other files
    cases found : lookup Connection.id connectionId manager.objects with
    | none =>
        rw [ConnectionManager.authenticate, found] at files ⊢
        exact filed.owned other files
    | some connection =>
        rw [userConnections_authenticate found] at files
        obtain old | rfl := files_attach files
        · exact userOf_authenticate_ne_none userId sessionId (filed.owned other old)
        · rw [userOf_authenticate found, Function.update_self]
          simp

theorem FiledOwned.unregister {manager : ConnectionManager} (filed : FiledOwned manager) (connectionId : Uuid) :
    FiledOwned (manager.unregister connectionId) where
  toRegistered := filed.toRegistered.unregister connectionId
  owned := by
    intro other files
    rw [userOf_unregister]
    apply filed.owned
    cases found : manager.get connectionId with
    | none =>
        rw [unregister_of_absent found] at files
        exact files
    | some connection =>
        rw [unregister_eq found] at files
        cases user : connection.userId with
        | none =>
            rw [user] at files
            exact files
        | some userId =>
            rw [user] at files
            exact files_detach files

/-- The connections of a user are filed, so each has a user. -/
theorem FiledOwned.of_getUserConnections {manager : ConnectionManager} (filed : FiledOwned manager) {userId : Uuid}
    {connection : Connection} (inside : connection ∈ manager.getUserConnections userId) :
    manager.userOf connection.id ≠ none := by
  unfold getUserConnections at inside
  cases located : lookup Prod.fst userId manager.userConnections with
  | none =>
      rw [located] at inside
      cases inside
  | some entry =>
      rw [located] at inside
      obtain ⟨connectionId, member, found⟩ := List.mem_filterMap.mp inside
      rw [id_of_get found]
      exact filed.owned connectionId ⟨entry, (lookup_mem Prod.fst located).1, member⟩

theorem FiledOwned.of_connectionsUnder {manager : ConnectionManager} (filed : FiledOwned manager) {key : UserKey}
    {connection : Connection} (inside : connection ∈ manager.connectionsUnder key) :
    manager.userOf connection.id ≠ none := by
  cases key with
  | text userId =>
      change connection ∈ ite _ _ _ at inside
      split at inside
      · exact filed.of_getUserConnections inside
      · cases inside
  | row member => cases inside

end ConnectionManager

/-- The frame asks for a token or reports an error. -/
def WsServerMessage.greets : WsServerMessage → Prop
  | .requestAuthToken => True
  | .error _ => True
  | _ => False

/-- The server has only greeted the connection, and the listener has not rejected. -/
structure Answers (connectionId : Uuid) (live next : LiveServer) : Prop where
  server : Unmoved live.server next.server
  rows : next.store = live.store
  frames : ∃ written, next.frames = live.frames ++ written ∧
    ∀ frame ∈ written, frame.receiver = connectionId ∧ frame.message.greets
  settled : ∃ results, next.settled = live.settled ++ results ∧ ∀ result ∈ results, result = (connectionId, .ok ())

theorem Answers.refl (connectionId : Uuid) (live : LiveServer) : Answers connectionId live live where
  server := Unmoved.refl _
  rows := rfl
  frames := ⟨[], by simp⟩
  settled := ⟨[], by simp⟩

theorem Answers.trans {connectionId : Uuid} {first second third : LiveServer} (one : Answers connectionId first second)
    (two : Answers connectionId second third) : Answers connectionId first third := by
  obtain ⟨before, wroteBefore, greetsBefore⟩ := one.frames
  obtain ⟨after, wroteAfter, greetsAfter⟩ := two.frames
  obtain ⟨early, settledEarly, okEarly⟩ := one.settled
  obtain ⟨late, settledLate, okLate⟩ := two.settled
  refine ⟨one.server.trans two.server, two.rows.trans one.rows, ⟨before ++ after, ?_, ?_⟩, ⟨early ++ late, ?_, ?_⟩⟩
  · rw [wroteAfter, wroteBefore, List.append_assoc]
  · intro frame inside
    exact (List.mem_append.mp inside).elim (greetsBefore frame) (greetsAfter frame)
  · rw [settledLate, settledEarly, List.append_assoc]
  · intro result inside
    exact (List.mem_append.mp inside).elim (okEarly result) (okLate result)

namespace LiveServer

theorem answers_settle (connectionId : Uuid) (live : LiveServer) :
    Answers connectionId live (live.settle connectionId (.ok ())) where
  server := Unmoved.refl _
  rows := rfl
  frames := ⟨[], by simp [settle]⟩
  settled := ⟨[(connectionId, .ok ())], rfl, by simp⟩

theorem answers_write {connectionId : Uuid} {message : WsServerMessage} (greets : message.greets) (live : LiveServer) :
    Answers connectionId live (live.write (live.server.sendMessage connectionId message)) where
  server := Unmoved.refl _
  rows := rfl
  frames := by
    refine ⟨_, rfl, ?_⟩
    intro frame inside
    unfold sendMessage at inside
    split at inside
    · rw [List.mem_singleton.mp inside]
      exact ⟨rfl, greets⟩
    · cases inside
  settled := ⟨[], by simp [write]⟩

theorem answers_sendError (connectionId : Uuid) (exception : Exception) (live : LiveServer) :
    Answers connectionId live (live.write (live.server.sendError connectionId exception)) := by
  apply answers_write
  trivial

/-- A change of the sockets alone broadcasts nothing. -/
theorem become_unmoved {next : WebSocketServer} {live : LiveServer} (unmoved : Unmoved live.server next) :
    live.become next = { live with server := next } := by
  simp [become, unmoved.frames]

theorem answers_become {next : WebSocketServer} {live : LiveServer} (connectionId : Uuid)
    (unmoved : Unmoved live.server next) : Answers connectionId live (live.become next) := by
  rw [become_unmoved unmoved]
  exact ⟨unmoved, rfl, ⟨[], by simp⟩, ⟨[], by simp⟩⟩

theorem answers_caught (connectionId : Uuid) (exception : Exception) (live : LiveServer) :
    Answers connectionId live (live.caught connectionId exception) :=
  (answers_sendError connectionId exception live).trans (answers_settle connectionId _)

theorem answers_refused (awaiter : Awaiter) (connectionId : Uuid) (exception : Exception) (live : LiveServer) :
    Answers connectionId live (live.refused awaiter connectionId exception) := by
  cases awaiter with
  | callback =>
      exact (answers_sendError connectionId exception live).trans
        (answers_become connectionId (unmoved_authenticationFailed .callback connectionId live.server))
  | listener => exact answers_caught connectionId exception live

theorem answers_askForToken (connectionId : Uuid) (live : LiveServer) :
    Answers connectionId live (live.askForToken connectionId) := by
  refine Answers.trans (answers_write ?_ live)
    (answers_become connectionId (unmoved_requestAuthToken connectionId live.server))
  trivial

theorem answers_authenticated (awaiter : Awaiter) (connectionId : Uuid) (live : LiveServer) :
    Answers connectionId live (live.authenticated awaiter connectionId) := by
  have done := answers_become connectionId (unmoved_authenticationDone awaiter connectionId live.server)
  cases awaiter with
  | callback => exact done
  | listener => exact done.trans (answers_settle connectionId _)

variable {platform : Platform} {jsonParse : CodeUnits → Option Json}

theorem userOf_of_requireAuthentication {connectionId userId : Uuid} {live : LiveServer}
    (authenticated : live.requireAuthentication connectionId = .ok userId) :
    live.server.manager.userOf connectionId = some userId := by
  unfold requireAuthentication at authenticated
  split at authenticated
  · next owned _ found =>
      cases authenticated
      rw [userOf, found]
      rfl
  · cases authenticated

/-- A handler starts a command only for an authenticated connection. -/
theorem userOf_of_dispatch {connectionId : Uuid} {type data : Option Json} {live : LiveServer} {command : Command}
    (dispatched : live.dispatch connectionId type data = .ok (some command)) :
    live.server.manager.userOf connectionId ≠ none := by
  unfold dispatch at dispatched
  split at dispatched
  · obtain ⟨userId, authenticated, -⟩ := ok_of_bind dispatched
    rw [userOf_of_requireAuthentication authenticated]
    simp
  · cases dispatched

/-- The listener starts an answer, a session lookup or, for an authenticated connection, a command. -/
theorem listen_cases {env : Env} {connectionId : Uuid} {raw : Bytes} {live : LiveServer} {task : LiveTask}
    (listened : live.listen platform jsonParse env connectionId raw = .ok (some task)) :
    (∃ sessionId, task = .getWsSession .listener connectionId sessionId) ∨
      ((∃ command, task = .dispatch connectionId command) ∧ live.server.manager.userOf connectionId ≠ none) := by
  unfold listen at listened
  cases parsed : jsonParse (utf8Decode raw) with
  | none =>
      rw [parsed] at listened
      cases listened
  | some message =>
      rw [parsed] at listened
      obtain ⟨type, -, typed⟩ := ok_of_bind listened
      obtain ⟨data, -, given⟩ := ok_of_bind typed
      split at given
      · obtain ⟨accessToken, -, sent⟩ := ok_of_bind given
        obtain ⟨sessionId, -, verified⟩ := ok_of_bind sent
        cases verified
        exact .inl ⟨sessionId, rfl⟩
      · obtain ⟨command, dispatched, started⟩ := ok_of_bind given
        cases command with
        | none => cases started
        | some command =>
            cases started
            exact .inr ⟨⟨command, rfl⟩, userOf_of_dispatch dispatched⟩

/-- A message is answered, and its listener may wait. -/
theorem emitMessage_cases (env : Env) (connectionId : Uuid) (raw : Bytes) (live : LiveServer) :
    Answers connectionId live (live.emitMessage platform jsonParse env connectionId raw).1 ∧
      ∀ task, (live.emitMessage platform jsonParse env connectionId raw).2 = some task →
        (∃ sessionId, task = .getWsSession .listener connectionId sessionId) ∨
          ((∃ command, task = .dispatch connectionId command) ∧ live.server.manager.userOf connectionId ≠ none) := by
  have dropped : Answers connectionId live live ∧ ∀ task, (none : Option LiveTask) = some task →
      (∃ sessionId, task = .getWsSession .listener connectionId sessionId) ∨
        ((∃ command, task = .dispatch connectionId command) ∧ live.server.manager.userOf connectionId ≠ none) :=
    ⟨Answers.refl connectionId live, by simp⟩
  unfold emitMessage
  cases live.server.findSocket connectionId with
  | none => exact dropped
  | some socket =>
      simp only
      split
      · exact dropped
      · unfold onMessage
        cases listened : live.listen platform jsonParse env connectionId raw with
        | error exception => exact ⟨answers_caught connectionId exception live, by simp⟩
        | ok task =>
            cases task with
            | none => exact ⟨answers_settle connectionId live, by simp⟩
            | some task =>
                refine ⟨Answers.refl connectionId live, ?_⟩
                rintro other ⟨⟩
                exact listen_cases listened

/-- A timer of the socket only closes it. -/
theorem unmoved_fireTimeout (connectionId : Uuid) (server : WebSocketServer) :
    Unmoved server (server.fireTimeout connectionId).1 := by
  unfold fireTimeout
  split
  · exact Unmoved.refl server
  · split
    · exact Unmoved.updateSocket connectionId fun _ => rfl
    · exact Unmoved.refl server

theorem emitClose_manager (connectionId : Uuid) (server : WebSocketServer) :
    (server.emitClose connectionId).1.manager = server.manager ∨
      (server.emitClose connectionId).1.manager = server.manager.unregister connectionId := by
  unfold emitClose
  split
  · exact .inl rfl
  · split
    · exact .inl rfl
    · split
      · exact .inr rfl
      · exact .inl rfl

theorem emitClose_frames (connectionId : Uuid) (server : WebSocketServer) :
    (server.emitClose connectionId).1.frames = server.frames := by
  unfold emitClose
  split
  · rfl
  · split
    · rfl
    · split <;> rfl

/-- A started call leaves the connections, opens one or removes one. -/
theorem manager_start (live : LiveServer) (call : Env × LiveEvent) :
    let next := (LiveServer.start platform jsonParse live call).1.server.manager
    next = live.server.manager ∨ next = live.server.manager.register.2 ∨
      ∃ connectionId, next = live.server.manager.unregister connectionId := by
  obtain ⟨env, event⟩ := call
  cases event with
  | connection accessToken => exact .inr (.inl rfl)
  | message connectionId raw => exact .inl (emitMessage_cases env connectionId raw live).1.server.manager
  | timeout connectionId => exact .inl (unmoved_fireTimeout connectionId live.server).manager
  | close connectionId =>
      exact (emitClose_manager connectionId live.server).imp_right fun removed => .inr ⟨connectionId, removed⟩
  | database next => exact .inl rfl
  | group event => exact .inl rfl

end LiveServer

/-- The session of the token that the connection sent is accepted. -/
def LiveTask.accepts (env : Env) (store : Store) (connectionId : Uuid) (session : Session) : LiveTask → Prop
  | .getWsSession _ awaiting sessionId => awaiting = connectionId ∧ wsSession env sessionId store = .ok session
  | _ => False

/-- These are the awaits that follow each other in a callback or a listener. -/
inductive Continues (env : Env) (store : Store) : LiveTask → LiveTask → Prop where
  | looksUp (connectionId sessionId : Uuid) (accessToken : Option Text) :
      Continues env store (.authenticateWsConnection connectionId accessToken)
        (.getWsSession .callback connectionId sessionId)
  | accepts (awaiter : Awaiter) (connectionId sessionId : Uuid) (session : Session)
      (accepted : wsSession env sessionId store = .ok session) :
      Continues env store (.getWsSession awaiter connectionId sessionId)
        (.syncPendingMessages awaiter connectionId session.userId)
  | synced (awaiter : Awaiter) (connectionId userId : Uuid) :
      Continues env store (.syncPendingMessages awaiter connectionId userId)
        (.syncPendingGroupInvitations awaiter connectionId userId)

namespace LiveServer

variable {platform : Platform} {jsonParse : CodeUnits → Option Json}

theorem resume_continues {live : LiveServer} {task rest : LiveTask} {env : Env}
    (waits : (LiveServer.resume platform live task env).2 = some rest) : Continues env live.store task rest := by
  cases task with
  | getWsSession awaiter connectionId sessionId =>
      cases accepted : wsSession env sessionId live.store with
      | error exception =>
          simp only [resume, accepted] at waits
          cases waits
      | ok session =>
          simp only [resume, accepted] at waits
          cases waits
          exact .accepts awaiter connectionId sessionId session accepted
  | authenticateWsConnection connectionId accessToken =>
      unfold resume at waits
      simp only at waits
      split at waits
      · cases waits
      · split at waits
        · cases waits
        · split at waits
          · cases waits
          · cases waits
            exact .looksUp connectionId _ accessToken
  | syncPendingMessages awaiter connectionId userId =>
      unfold resume at waits
      simp only at waits
      split at waits
      · cases waits
      · cases waits
        exact .synced awaiter connectionId userId
  | syncPendingGroupInvitations awaiter connectionId userId =>
      unfold resume at waits
      simp only at waits
      split at waits <;> cases waits
  | dispatch connectionId command =>
      unfold resume at waits
      simp only at waits
      split at waits <;> cases waits
  | updateLastSeenAt userId =>
      unfold resume at waits
      simp only at waits
      split at waits <;> cases waits

/-- A resumed task leaves the connections or authenticates the one whose session it accepts. -/
theorem manager_resume (live : LiveServer) (task : LiveTask) (env : Env) :
    let next := (LiveServer.resume platform live task env).1.server.manager
    next = live.server.manager ∨ ∃ connectionId session, task.accepts env live.store connectionId session ∧
      next = live.server.manager.authenticate connectionId session.userId session.id := by
  intro next
  subst next
  cases task with
  | authenticateWsConnection connectionId accessToken =>
      left
      unfold resume
      simp only
      split
      · exact (answers_refused .callback connectionId .failedCall live).server.manager
      · split
        · exact (answers_askForToken connectionId live).server.manager
        · split
          · exact (answers_refused .callback connectionId _ live).server.manager
          · rfl
  | getWsSession awaiter connectionId sessionId =>
      cases accepted : wsSession env sessionId live.store with
      | error exception =>
          left
          simp only [resume, accepted]
          exact (answers_refused awaiter connectionId exception live).server.manager
      | ok session =>
          right
          refine ⟨connectionId, session, ⟨rfl, accepted⟩, ?_⟩
          simp only [resume, accepted]
          rfl
  | syncPendingMessages awaiter connectionId userId =>
      left
      unfold resume
      simp only
      split
      · exact (answers_refused awaiter connectionId _ _).server.manager
      · rfl
  | syncPendingGroupInvitations awaiter connectionId userId =>
      left
      unfold resume
      simp only
      split
      · exact (answers_refused awaiter connectionId _ live).server.manager
      · exact (answers_authenticated awaiter connectionId _).server.manager
  | dispatch connectionId command =>
      left
      unfold resume
      simp only
      split
      · exact (answers_caught connectionId _ _).server.manager
      · rfl
  | updateLastSeenAt userId =>
      left
      unfold resume
      simp only
      split <;> rfl

theorem userOf_start (live : LiveServer) (call : Env × LiveEvent) :
    (LiveServer.start platform jsonParse live call).1.server.manager.userOf = live.server.manager.userOf := by
  obtain same | opened | ⟨connectionId, removed⟩ := manager_start live call
  · rw [same]
  · rw [opened, userOf_register]
  · rw [removed, userOf_unregister]

/-- Only a connection whose session is accepted gets a user. -/
theorem userOf_resume {live : LiveServer} {task : LiveTask} {env : Env} {connectionId : Uuid}
    (refused : ∀ session, ¬ task.accepts env live.store connectionId session) :
    (LiveServer.resume platform live task env).1.server.manager.userOf connectionId =
      live.server.manager.userOf connectionId := by
  obtain same | ⟨other, session, accepted, authenticated⟩ := manager_resume live task env
  · rw [same]
  · rw [authenticated, userOf_authenticate_of_ne]
    rintro rfl
    exact refused session accepted

/-- No connection loses its user. -/
theorem userOf_resume_ne_none {live : LiveServer} {task : LiveTask} {env : Env} {connectionId : Uuid}
    (owned : live.server.manager.userOf connectionId ≠ none) :
    (LiveServer.resume platform live task env).1.server.manager.userOf connectionId ≠ none := by
  obtain same | ⟨other, session, accepted, authenticated⟩ := manager_resume live task env
  · rw [same]
    exact owned
  · rw [authenticated]
    exact userOf_authenticate_ne_none session.userId session.id owned

theorem filedOwned_start {live : LiveServer} (filed : live.server.manager.FiledOwned) (call : Env × LiveEvent) :
    (LiveServer.start platform jsonParse live call).1.server.manager.FiledOwned := by
  obtain same | opened | ⟨connectionId, removed⟩ := manager_start live call
  · rw [same]
    exact filed
  · rw [opened]
    exact filed.register
  · rw [removed]
    exact filed.unregister connectionId

theorem filedOwned_resume {live : LiveServer} (filed : live.server.manager.FiledOwned) (task : LiveTask) (env : Env) :
    (LiveServer.resume platform live task env).1.server.manager.FiledOwned := by
  obtain same | ⟨other, session, accepted, authenticated⟩ := manager_resume live task env
  · rw [same]
    exact filed
  · rw [authenticated]
    exact filed.authenticate other session.userId session.id

/-- A command only waits for the connection that its listener or an earlier turn has authenticated. -/
theorem dispatch_of_start {live : LiveServer} {call : Env × LiveEvent} {connectionId : Uuid} {command : Command}
    (waits : (LiveServer.start platform jsonParse live call).2 = some (.dispatch connectionId command)) :
    live.server.manager.userOf connectionId ≠ none := by
  obtain ⟨env, event⟩ := call
  cases event with
  | connection accessToken => cases waits
  | message other raw =>
      obtain ⟨sessionId, ⟨⟩⟩ | ⟨⟨_, ⟨⟩⟩, authenticated⟩ := (emitMessage_cases env other raw live).2 _ waits
      exact authenticated
  | timeout other => cases waits
  | close other =>
      change offlineTask _ = _ at waits
      unfold offlineTask at waits
      split at waits <;> cases waits
  | database next => cases waits
  | group event => cases waits

end LiveServer

end Messinger
