import Messinger.Proof.LiveTurns

namespace Messinger
open Library LiveServer

/-- The message listener of the connection awaits the task. -/
def LiveTask.listener : LiveTask → Option Uuid
  | .getWsSession .listener connectionId _ => some connectionId
  | .syncPendingMessages .listener connectionId _ => some connectionId
  | .syncPendingGroupInvitations .listener connectionId _ => some connectionId
  | .dispatch connectionId _ => some connectionId
  | _ => none

/-- The turn starts the message listener of the connection with a frame, or resumes it after an await. -/
def ListensOn (progress : Library.Progress LiveServer LiveTask) (connectionId : Uuid) :
    Turn (Env × LiveEvent) Env → Prop
  | .call (_, .message receiving _) => receiving = connectionId
  | .call _ => False
  | .resume position _ => ∃ task ∈ progress.pending[position]?, task.listener = some connectionId

/-- The turn accepts the session of a token for the connection. -/
def AcceptsToken (progress : Library.Progress LiveServer LiveTask) (turn : Turn (Env × LiveEvent) Env)
    (connectionId : Uuid) : Prop :=
  ∃ position env task session, turn = .resume position env ∧ progress.pending[position]? = some task ∧
    task.accepts env progress.state.store connectionId session

/-- The listener does not reject, no row changes, and every frame goes to the connection itself. -/
structure Inert (connectionId : Uuid) (live next : LiveServer) : Prop where
  rows : next.store = live.store
  own : ∃ written, next.frames = live.frames ++ written ∧ ∀ frame ∈ written, frame.receiver = connectionId
  fulfilled : ∃ results, next.settled = live.settled ++ results ∧ ∀ result ∈ results, result = (connectionId, .ok ())

theorem Answers.inert {connectionId : Uuid} {live next : LiveServer} (answers : Answers connectionId live next) :
    Inert connectionId live next where
  rows := answers.rows
  own := by
    obtain ⟨written, wrote, greets⟩ := answers.frames
    exact ⟨written, wrote, fun frame inside => (greets frame inside).1⟩
  fulfilled := answers.settled

/-- Users and waiting listeners other than session lookups only belong to known connections. -/
structure Unproven (known : Uuid → Prop) (progress : Library.Progress LiveServer LiveTask) : Prop where
  users : ∀ connectionId, progress.state.server.manager.userOf connectionId ≠ none → known connectionId
  listeners : ∀ task ∈ progress.pending, ∀ connectionId, task.listener = some connectionId →
    known connectionId ∨ ∃ sessionId, task = .getWsSession .listener connectionId sessionId

theorem Unproven.initial (store : Store) : Unproven (fun _ => False) ⟨{ store }, []⟩ where
  users _ owned := owned rfl
  listeners _ inside := absurd inside List.not_mem_nil

theorem Unproven.weaken {known later : Uuid → Prop} {progress : Library.Progress LiveServer LiveTask}
    (unproven : Unproven known progress) (weaker : ∀ connectionId, known connectionId → later connectionId) :
    Unproven later progress where
  users connectionId owned := weaker connectionId (unproven.users connectionId owned)
  listeners task inside connectionId listens :=
    (unproven.listeners task inside connectionId listens).imp_left (weaker connectionId)

section Turns
variable {platform : Platform} {jsonParse : CodeUnits → Option Json} {known : Uuid → Prop}
  {progress : Library.Progress LiveServer LiveTask}

theorem Unproven.start (unproven : Unproven known progress) (call : Env × LiveEvent) :
    Unproven known (waiting progress.pending (LiveServer.start platform jsonParse progress.state call)) where
  users := by
    intro connectionId owned
    have same : (LiveServer.start platform jsonParse progress.state call).1.server.manager.userOf = _ :=
      userOf_start progress.state call
    apply unproven.users
    rw [← same]
    exact owned
  listeners := by
    intro task inside connectionId listens
    obtain old | new := mem_waiting.mp inside
    · exact unproven.listeners task old connectionId listens
    obtain ⟨env, event⟩ := call
    cases event with
    | connection accessToken =>
        cases new
        cases listens
    | message other raw =>
        obtain ⟨sessionId, rfl⟩ | ⟨⟨command, rfl⟩, authenticated⟩ :=
          (emitMessage_cases env other raw progress.state).2 task new
        · cases listens
          exact .inr ⟨sessionId, rfl⟩
        · cases listens
          exact .inl (unproven.users _ authenticated)
    | timeout other => cases new
    | close other =>
        change offlineTask _ = _ at new
        unfold offlineTask at new
        split at new
        · cases new
          cases listens
        · cases new
    | database next => cases new
    | group event => cases new

/-- A listener waits again after its session is accepted, or after the deliveries of an accepted one. -/
theorem listener_of_continues {task rest : LiveTask} {env : Env} {store : Store} {connectionId : Uuid}
    (continues : Continues env store task rest) (listens : rest.listener = some connectionId) :
    (∃ session, task.accepts env store connectionId session) ∨
      ∃ userId, task = .syncPendingMessages .listener connectionId userId := by
  cases continues with
  | looksUp other sessionId accessToken => cases listens
  | accepts awaiter other sessionId session accepted =>
      cases awaiter with
      | callback => cases listens
      | listener =>
          cases listens
          exact .inl ⟨session, rfl, accepted⟩
  | synced awaiter other userId =>
      cases awaiter with
      | callback => cases listens
      | listener =>
          cases listens
          exact .inr ⟨userId, rfl⟩

theorem Unproven.resume (unproven : Unproven known progress) {position : Nat} {task : LiveTask} {env : Env}
    (resuming : progress.pending[position]? = some task)
    (accepted : ∀ connectionId, AcceptsToken progress (.resume position env) connectionId → known connectionId) :
    Unproven known
      (waiting (progress.pending.eraseIdx position) (LiveServer.resume platform progress.state task env)) where
  users := by
    intro connectionId owned
    by_cases accepts : ∃ session, task.accepts env progress.state.store connectionId session
    · obtain ⟨session, accepts⟩ := accepts
      exact accepted connectionId ⟨position, env, task, session, rfl, resuming, accepts⟩
    · have same : (LiveServer.resume platform progress.state task env).1.server.manager.userOf connectionId = _ :=
        userOf_resume (not_exists.mp accepts)
      apply unproven.users
      rw [← same]
      exact owned
  listeners := by
    intro rest inside connectionId listens
    obtain old | new := mem_waiting.mp inside
    · exact unproven.listeners rest (List.mem_of_mem_eraseIdx old) connectionId listens
    left
    obtain ⟨session, accepts⟩ | ⟨userId, rfl⟩ := listener_of_continues (resume_continues new) listens
    · exact accepted connectionId ⟨position, env, task, session, rfl, resuming, accepts⟩
    · obtain proven | ⟨sessionId, ⟨⟩⟩ := unproven.listeners _ (List.mem_of_getElem? resuming) connectionId rfl
      exact proven

theorem Unproven.advance (unproven : Unproven known progress) {turn : Turn (Env × LiveEvent) Env}
    (accepted : ∀ connectionId, AcceptsToken progress turn connectionId → known connectionId) :
    Unproven known ((liveServer platform jsonParse).advance progress turn) := by
  apply (liveServer platform jsonParse).advance_keeps (Unproven known) unproven
  · exact fun call _ => unproven.start call
  · rintro position env task rfl resuming
    exact unproven.resume resuming accepted

/-- What an unknown connection sends is only answered. -/
theorem Unproven.inert (unproven : Unproven known progress) {turn : Turn (Env × LiveEvent) Env} {connectionId : Uuid}
    (listens : ListensOn progress connectionId turn) (unknown : ¬ known connectionId)
    (accepted : AcceptsToken progress turn connectionId → known connectionId) :
    Inert connectionId progress.state ((liveServer platform jsonParse).advance progress turn).state := by
  cases turn with
  | call call =>
      obtain ⟨env, event⟩ := call
      cases event with
      | message receiving raw =>
          cases listens
          exact (emitMessage_cases env connectionId raw progress.state).1.inert
      | connection accessToken => exact listens.elim
      | timeout other => exact listens.elim
      | close other => exact listens.elim
      | database next => exact listens.elim
      | group event => exact listens.elim
  | resume position env =>
      obtain ⟨task, resuming, listens⟩ := listens
      rw [(liveServer platform jsonParse).advance_resume resuming]
      obtain proven | ⟨sessionId, rfl⟩ := unproven.listeners task (List.mem_of_getElem? resuming) connectionId listens
      · exact absurd proven unknown
      · change Inert connectionId progress.state
          (LiveServer.resume platform progress.state (.getWsSession .listener connectionId sessionId) env).1
        cases found : wsSession env sessionId progress.state.store with
        | ok session => exact absurd (accepted ⟨position, env, _, session, rfl, resuming, rfl, found⟩) unknown
        | error exception =>
            simp only [LiveServer.resume, found]
            exact (answers_refused .listener connectionId exception progress.state).inert

end Turns

/-- What a connection sends before a token of it is accepted is only answered, whatever the other connections do. -/
theorem unauthenticated_connection_inert (platform : Platform) (jsonParse : CodeUnits → Option Json) (store : Store)
    (turns : List (Turn (Env × LiveEvent) Env)) (position : Nat) (turn : Turn (Env × LiveEvent) Env)
    (connectionId : Uuid) (present : turns[position]? = some turn)
    (listens : ListensOn (stateAt (liveServer platform jsonParse).advance ⟨{ store }, []⟩ turns position) connectionId
      turn)
    (unproven : ¬ Happened (liveServer platform jsonParse).advance AcceptsToken ⟨{ store }, []⟩ turns (position + 1)
      connectionId) :
    Inert connectionId (stateAt (liveServer platform jsonParse).advance ⟨{ store }, []⟩ turns position).state
      (stateAt (liveServer platform jsonParse).advance ⟨{ store }, []⟩ turns (position + 1)).state := by
  have recorded : Unproven (Happened (liveServer platform jsonParse).advance AcceptsToken ⟨{ store }, []⟩ turns position)
      (stateAt (liveServer platform jsonParse).advance ⟨{ store }, []⟩ turns position) := by
    apply stateAt_recorded (liveServer platform jsonParse).advance AcceptsToken Unproven
    · exact fun _ _ _ weaker holds => holds.weaken weaker
    · exact Unproven.initial store
    · exact fun _ _ _ holds accepted => holds.advance accepted
  rw [stateAt_succ _ present]
  refine recorded.inert listens ?_ ?_
  · rintro ⟨earlier, before, happened⟩
    exact unproven ⟨earlier, Nat.lt_succ_of_lt before, happened⟩
  · exact fun accepted => absurd ⟨position, Nat.lt_succ_self position, turn, present, accepted⟩ unproven

/-- Every frame asks for a private message. -/
def asksToSend (_ : CodeUnits) : Option Json :=
  some (.object [(units "type", .string (units "SEND_PRIVATE_MESSAGE"))])

/-- A connection without a cookie sends a frame before its token. -/
def earlyFrame : List (Turn (Env × LiveEvent) Env) :=
  [.call ({ now := 1 }, .connection none), .resume 0 { now := 2 }, .call ({ now := 3 }, .message 0 [0x7B])]

theorem earlyFrame_inert :
    Inert 0 (stateAt (liveServer plainPlatform asksToSend).advance ⟨{ store := {} }, []⟩ earlyFrame 2).state
        (stateAt (liveServer plainPlatform asksToSend).advance ⟨{ store := {} }, []⟩ earlyFrame 3).state ∧
      (stateAt (liveServer plainPlatform asksToSend).advance ⟨{ store := {} }, []⟩ earlyFrame 3).state.frames =
        [⟨0, .requestAuthToken⟩, ⟨0, .error (getErrorInfo (.unauthorized "AUTHENTICATION_REQUIRED"))⟩] := by
  constructor
  · refine unauthenticated_connection_inert plainPlatform asksToSend {} earlyFrame 2 _ 0 rfl rfl ?_
    rintro ⟨earlier, before, turn, found, position, env, task, session, rfl, waits, accepted⟩
    obtain rfl | rfl | rfl : earlier = 0 ∨ earlier = 1 ∨ earlier = 2 := by omega
    · cases found
    · cases found
      cases waits
      exact accepted
    · cases found
  · rfl

end Messinger
