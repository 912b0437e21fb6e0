import Messinger.Proof.LiveTurns
import Messinger.Proof.StrangerRequests

namespace Messinger
open Library LiveServer WebSocketServer ConnectionManager

/-- The frames all go to connections that have a user. -/
def ToUsers (manager : ConnectionManager) (frames : List Frame) : Prop :=
  ∀ frame ∈ frames, manager.userOf frame.receiver ≠ none

theorem ToUsers.nil (manager : ConnectionManager) : ToUsers manager [] := by
  intro frame inside
  cases inside

theorem ToUsers.append {manager : ConnectionManager} {first second : List Frame} (one : ToUsers manager first)
    (two : ToUsers manager second) : ToUsers manager (first ++ second) := by
  intro frame inside
  exact (List.mem_append.mp inside).elim (one frame) (two frame)

theorem ToUsers.flatMap {A : Type} {manager : ConnectionManager} {items : List A} {frames : A → List Frame}
    (each : ∀ item, ToUsers manager (frames item)) : ToUsers manager (items.flatMap frames) := by
  intro frame inside
  obtain ⟨item, -, written⟩ := List.mem_flatMap.mp inside
  exact each item frame written

theorem ToUsers.answered {A : Type} {manager : ConnectionManager} {outcome : Outcome A} {frames : A → List Frame}
    {written : List Frame} (each : ∀ value, ToUsers manager (frames value))
    (ran : (answered outcome frames).1 = .ok written) : ToUsers manager written := by
  obtain ⟨result, store⟩ := outcome
  cases result with
  | error exception => cases ran
  | ok value =>
      cases ran
      exact each value

section Senders
variable {server : WebSocketServer}

theorem receiver_of_sendMessage {connectionId : Uuid} {message : WsServerMessage} {frame : Frame}
    (inside : frame ∈ server.sendMessage connectionId message) : frame.receiver = connectionId := by
  unfold sendMessage at inside
  split at inside
  · rw [List.mem_singleton.mp inside]
  · cases inside

theorem ToUsers.sendMessage {connectionId : Uuid} (owned : server.manager.userOf connectionId ≠ none)
    (message : WsServerMessage) : ToUsers server.manager (server.sendMessage connectionId message) := by
  intro frame inside
  rw [receiver_of_sendMessage inside]
  exact owned

theorem ToUsers.sendAll {receivers : List Connection}
    (owned : ∀ receiver ∈ receivers, server.manager.userOf receiver.id ≠ none) (message : WsServerMessage) :
    ToUsers server.manager (server.sendAll receivers message) := by
  intro frame inside
  obtain ⟨receiver, listed, written⟩ := List.mem_flatMap.mp inside
  exact ToUsers.sendMessage (owned receiver listed) message frame written

variable (filed : server.manager.FiledOwned)
include filed

theorem ToUsers.sendToUser (userId : Uuid) (message : WsServerMessage) :
    ToUsers server.manager (server.sendToUser userId message) :=
  ToUsers.sendAll (fun _ listed => filed.of_getUserConnections listed) message

theorem ToUsers.notifyGroup (event : GroupEvent) : ToUsers server.manager (server.notifyGroup event) := by
  apply ToUsers.flatMap
  exact fun key => ToUsers.sendAll (fun _ listed => filed.of_connectionsUnder listed) event.frame

/-- A command writes to the connections of users and to the connection that sent it. -/
theorem ToUsers.runCommand {platform : Platform} {env : Env} {connectionId : Uuid} {store : Store} {command : Command}
    {frames : List Frame} (owned : server.manager.userOf connectionId ≠ none)
    (ran : (runCommand platform env server connectionId store command).1 = .ok frames) :
    ToUsers server.manager frames := by
  have toUser (userId : Uuid) (message : WsServerMessage) := ToUsers.sendToUser filed userId message
  cases command with
  | sendPrivateMessage senderId dto =>
      refine ToUsers.answered ?_ ran
      exact fun _ => (ToUsers.flatMap fun _ => toUser _ _).append (ToUsers.sendMessage owned _)
  | sendGroupMessage senderId dto =>
      refine ToUsers.answered ?_ ran
      exact fun _ => (ToUsers.flatMap fun _ => toUser _ _).append (ToUsers.sendMessage owned _)
  | confirmDelivery userId dto =>
      refine ToUsers.answered ?_ ran
      intro delivery
      split
      · exact ToUsers.nil _
      · exact toUser _ _
  | inviteGroupMember actorId dto =>
      refine ToUsers.answered ?_ ran
      exact fun _ => ToUsers.sendAll (fun _ listed => filed.of_connectionsUnder listed) _
  | acceptGroupInvitation conversationId userId =>
      refine ToUsers.answered ?_ ran
      exact fun _ => ToUsers.flatMap fun _ => toUser _ _
  | rejectGroupInvitation conversationId userId =>
      refine ToUsers.answered ?_ ran
      exact fun _ => ToUsers.nil _
  | typing userId dto =>
      change (typingStartHandler env server userId dto store).1 = _ at ran
      unfold typingStartHandler at ran
      split at ran
      · cases ran
      · split at ran
        · cases ran
          exact ToUsers.nil _
        · split at ran
          · cases ran
            exact ToUsers.nil _
          · cases ran
            exact ToUsers.flatMap fun _ => toUser _ _

theorem ToUsers.pendingMessageFrames (platform : Platform) (userId : Uuid) (store : Store) :
    ToUsers server.manager (pendingMessageFrames platform server userId store) := by
  apply ToUsers.flatMap
  intro delivery
  split
  · exact ToUsers.nil _
  · split
    · exact ToUsers.nil _
    · exact ToUsers.sendToUser filed userId _

theorem ToUsers.syncPending (platform : Platform) (env : Env) (userId : Uuid) (store : Store) :
    ToUsers server.manager (syncPending platform env server userId store).1 := by
  unfold Messinger.syncPending
  simp only
  split
  · exact ToUsers.pendingMessageFrames filed platform userId store
  · exact ToUsers.nil _

theorem ToUsers.pendingInvitationFrames (env : Env) (userId : Uuid) (store : Store) :
    ToUsers server.manager (pendingInvitationFrames env server userId store) := by
  apply ToUsers.flatMap
  exact fun invitation => ToUsers.sendToUser filed userId _

end Senders

/-- The turn writes frames, and those for connections without a user only greet. -/
def Writes (live next : LiveServer) : Prop :=
  ∃ written, next.frames = live.frames ++ written ∧
    ∀ frame ∈ written, live.server.manager.userOf frame.receiver = none → frame.message.greets

theorem Answers.writes {connectionId : Uuid} {live next : LiveServer} (answers : Answers connectionId live next) :
    Writes live next := by
  obtain ⟨written, wrote, greets⟩ := answers.frames
  exact ⟨written, wrote, fun frame inside _ => (greets frame inside).2⟩

theorem Writes.of_toUsers {live next : LiveServer} {written : List Frame} (wrote : next.frames = live.frames ++ written)
    (toUsers : ToUsers live.server.manager written) : Writes live next :=
  ⟨written, wrote, fun frame inside nobody => absurd nobody (toUsers frame inside)⟩

theorem Writes.trans {first second third : LiveServer} (one : Writes first second)
    (same : second.server.manager = first.server.manager) (two : Writes second third) : Writes first third := by
  obtain ⟨before, wroteBefore, greetsBefore⟩ := one
  obtain ⟨after, wroteAfter, greetsAfter⟩ := two
  rw [same] at greetsAfter
  refine ⟨before ++ after, ?_, ?_⟩
  · rw [wroteAfter, wroteBefore, List.append_assoc]
  · intro frame inside
    exact (List.mem_append.mp inside).elim (greetsBefore frame) (greetsAfter frame)

/-- Whatever was written to a connection that has no user only greets it. -/
def Undisclosed (live : LiveServer) : Prop :=
  ∀ frame ∈ live.frames, live.server.manager.userOf frame.receiver = none → frame.message.greets

theorem Undisclosed.writes {live next : LiveServer} (undisclosed : Undisclosed live) (writes : Writes live next)
    (keeps : ∀ connectionId, live.server.manager.userOf connectionId ≠ none →
      next.server.manager.userOf connectionId ≠ none) : Undisclosed next := by
  obtain ⟨written, wrote, greets⟩ := writes
  intro frame inside nobody
  have before : live.server.manager.userOf frame.receiver = none := by
    by_contra owned
    exact keeps frame.receiver owned nobody
  rw [wrote] at inside
  obtain old | new := List.mem_append.mp inside
  · exact undisclosed frame old before
  · exact greets frame new before

/-- Every registered connection that is open has a user, except for the one that authenticates. -/
def Unobserved (server : WebSocketServer) (authenticating : Option Uuid) : Prop :=
  ∀ connectionId ∈ server.manager.connections, server.isOpen connectionId = true →
    some connectionId ≠ authenticating → server.manager.userOf connectionId ≠ none

/-- No connection without a user is registered and open when a broadcast about a user begins. -/
def PresenceHidden (progress : Library.Progress LiveServer LiveTask) (task : LiveTask) (env : Env) : Prop :=
  match task with
  | .getWsSession _ connectionId sessionId =>
      (wsSession env sessionId progress.state.store).isOk = true → Unobserved progress.state.server (some connectionId)
  | .updateLastSeenAt _ => env.succeeds 0 = true → Unobserved progress.state.server none
  | _ => True

theorem ConnectionManager.Registered.mem_ids {manager : ConnectionManager} (sound : Registered manager)
    {connectionId : Uuid} :
    connectionId ∈ manager.getAllConnections.map Connection.id ↔ connectionId ∈ manager.connections := by
  rw [List.mem_map]
  constructor
  · rintro ⟨connection, listed, rfl⟩
    exact (get_eq_some.mp (mem_getAllConnections.mp listed)).1
  · intro registered
    obtain ⟨connection, found⟩ := sound.get_of_mem registered
    have same := id_of_get found
    exact ⟨connection, mem_getAllConnections.mpr (same.symm ▸ found), same⟩

/-- These frames tell about the user. -/
def Presence.message (userId : Uuid) : Presence → WsServerMessage
  | .online => .presenceOnline userId
  | .offline lastSeenAt => .presenceOffline userId lastSeenAt

theorem frames_broadcast (presence : Presence) (userId : Uuid) (receivers : List Connection) (live : LiveServer)
    (server : WebSocketServer) (frames : server.frames = live.server.frames) :
    (live.become (server.broadcast presence userId receivers)).frames =
      live.frames ++ (((receivers.map Connection.id).filter server.isOpen).map fun connectionId =>
        ⟨connectionId, presence.message userId⟩) := by
  cases presence <;> simp [become, broadcast, PresenceFrame.frames, Presence.message, frames]

section Broadcasts
variable {live : LiveServer} (filed : live.server.manager.FiledOwned)
include filed

/-- The broadcast of an authentication goes to all other registered connections that are open. -/
theorem frames_authenticate (connectionId userId sessionId : Uuid) :
    ∃ receivers : List Uuid, (live.become (live.server.authenticate connectionId userId sessionId)).frames =
        live.frames ++ receivers.map (fun receiver => ⟨receiver, .presenceOnline userId⟩) ∧
      ∀ receiver, receiver ∈ receivers ↔ receiver ∈ live.server.manager.connections ∧
        live.server.isOpen receiver = true ∧ receiver ≠ connectionId := by
  refine ⟨_, frames_broadcast .online userId _ live _ rfl, ?_⟩
  intro receiver
  have known : receiver ∈ _ ↔ _ := (filed.authenticate connectionId userId sessionId).mem_ids
  rw [connections_authenticate] at known
  rw [← known, List.mem_filter]
  constructor
  · rintro ⟨listed, opened⟩
    obtain ⟨connection, inside, rfl⟩ := List.mem_map.mp listed
    obtain ⟨present, apart⟩ := List.mem_filter.mp inside
    exact ⟨List.mem_map_of_mem present, opened, of_decide_eq_true apart⟩
  · rintro ⟨listed, opened, apart⟩
    obtain ⟨connection, present, rfl⟩ := List.mem_map.mp listed
    exact ⟨List.mem_map_of_mem (List.mem_filter.mpr ⟨present, decide_eq_true apart⟩), opened⟩

/-- The broadcast of an ended presence goes to all registered connections that are open. -/
theorem frames_offline (userId lastSeenAt : Nat) :
    ∃ receivers : List Uuid, (live.become (live.server.presenceOfflineHandler userId lastSeenAt)).frames =
        live.frames ++ receivers.map (fun receiver => ⟨receiver, .presenceOffline userId lastSeenAt⟩) ∧
      ∀ receiver, receiver ∈ receivers ↔ receiver ∈ live.server.manager.connections ∧
        live.server.isOpen receiver = true := by
  refine ⟨_, frames_broadcast (.offline lastSeenAt) userId _ live live.server rfl, ?_⟩
  intro receiver
  rw [List.mem_filter, filed.mem_ids]

end Broadcasts

/-- Filed connections have users, and so have those that wait for a command. -/
structure LiveSound (progress : Library.Progress LiveServer LiveTask) : Prop where
  filed : progress.state.server.manager.FiledOwned
  senders : ∀ connectionId command, .dispatch connectionId command ∈ progress.pending →
    progress.state.server.manager.userOf connectionId ≠ none

theorem LiveSound.initial (store : Store) : LiveSound ⟨{ store }, []⟩ where
  filed := FiledOwned.initial
  senders _ _ inside := absurd inside List.not_mem_nil

section Turns
variable {platform : Platform} {jsonParse : CodeUnits → Option Json}
  {progress : Library.Progress LiveServer LiveTask}

theorem LiveSound.advance (sound : LiveSound progress) (turn : Turn (Env × LiveEvent) Env) :
    LiveSound ((liveServer platform jsonParse).advance progress turn) := by
  apply (liveServer platform jsonParse).advance_keeps LiveSound sound
  · intro call _
    have same : (LiveServer.start platform jsonParse progress.state call).1.server.manager.userOf = _ :=
      userOf_start progress.state call
    refine ⟨filedOwned_start sound.filed call, ?_⟩
    intro connectionId command inside
    change (LiveServer.start platform jsonParse progress.state call).1.server.manager.userOf connectionId ≠ none
    rw [same]
    obtain old | new := mem_waiting.mp inside
    · exact sound.senders connectionId command old
    · exact dispatch_of_start new
  · intro position env task _ resuming
    refine ⟨filedOwned_resume sound.filed task env, ?_⟩
    intro connectionId command inside
    obtain old | new := mem_waiting.mp inside
    · exact userOf_resume_ne_none (sound.senders connectionId command (List.mem_of_mem_eraseIdx old))
    · cases resume_continues new

theorem Writes.silent {live next : LiveServer} (same : next.frames = live.frames) : Writes live next := by
  refine Writes.of_toUsers ?_ (ToUsers.nil _)
  rw [same, List.append_nil]

/-- A server that broadcasts nothing writes nothing. -/
theorem Writes.become {live : LiveServer} {next : WebSocketServer} (same : next.frames = live.server.frames) :
    Writes live (live.become next) := by
  apply Writes.silent
  simp [LiveServer.become, same]

/-- A started call only writes to users or greets. -/
theorem LiveSound.writes_start (sound : LiveSound progress) (call : Env × LiveEvent) :
    Writes progress.state (LiveServer.start platform jsonParse progress.state call).1 := by
  obtain ⟨env, event⟩ := call
  cases event with
  | connection accessToken => exact Writes.become rfl
  | message connectionId raw => exact (emitMessage_cases env connectionId raw progress.state).1.writes
  | timeout connectionId => exact Writes.become (unmoved_fireTimeout connectionId _).frames
  | close connectionId => exact Writes.become (emitClose_frames connectionId _)
  | database next => exact Writes.silent rfl
  | group event => exact Writes.of_toUsers rfl (ToUsers.notifyGroup sound.filed event)

/-- A resumed task only writes to users or greets, while no presence is observed. -/
theorem LiveSound.writes_resume (sound : LiveSound progress) {task : LiveTask} (env : Env)
    (waiting : task ∈ progress.pending) (hidden : PresenceHidden progress task env) :
    Writes progress.state (LiveServer.resume platform progress.state task env).1 := by
  cases task with
  | authenticateWsConnection connectionId accessToken =>
      unfold LiveServer.resume
      simp only
      split
      · exact (answers_refused .callback connectionId .failedCall _).writes
      · split
        · exact (answers_askForToken connectionId _).writes
        · split
          · exact (answers_refused .callback connectionId _ _).writes
          · exact Writes.silent rfl
  | getWsSession awaiter connectionId sessionId =>
      cases accepted : wsSession env sessionId progress.state.store with
      | error exception =>
          simp only [LiveServer.resume, accepted]
          exact (answers_refused awaiter connectionId exception _).writes
      | ok session =>
          obtain ⟨receivers, wrote, reached⟩ := frames_authenticate sound.filed connectionId session.userId session.id
          simp only [LiveServer.resume, accepted]
          refine Writes.of_toUsers wrote ?_
          intro frame inside
          obtain ⟨receiver, listed, rfl⟩ := List.mem_map.mp inside
          obtain ⟨registered, opened, apart⟩ := (reached receiver).mp listed
          refine hidden ?_ receiver registered opened ?_
          · rw [accepted]
            rfl
          · simpa using apart
  | syncPendingMessages awaiter connectionId userId =>
      have synced := ToUsers.syncPending sound.filed platform env userId progress.state.store
      have sent (store : Store) : Writes progress.state
          { progress.state.write (syncPending platform env progress.state.server userId progress.state.store).1 with
            store } := Writes.of_toUsers rfl synced
      unfold LiveServer.resume
      simp only
      split
      · exact (sent _).trans rfl (answers_refused awaiter connectionId _ _).writes
      · exact sent _
  | syncPendingGroupInvitations awaiter connectionId userId =>
      have synced := ToUsers.pendingInvitationFrames sound.filed env userId progress.state.store
      have sent : Writes progress.state (progress.state.write
          (pendingInvitationFrames env progress.state.server userId progress.state.store)) :=
        Writes.of_toUsers rfl synced
      unfold LiveServer.resume
      simp only
      split
      · exact (answers_refused awaiter connectionId .failedCall _).writes
      · exact sent.trans rfl (answers_authenticated awaiter connectionId _).writes
  | dispatch connectionId command =>
      unfold LiveServer.resume
      simp only
      split
      · exact (answers_caught connectionId _ _).writes
      · next frames ran =>
          exact Writes.of_toUsers rfl (ToUsers.runCommand sound.filed (sound.senders connectionId command waiting) ran)
  | updateLastSeenAt userId =>
      cases succeeds : env.succeeds 0 with
      | false =>
          simp only [LiveServer.resume, UserService.updateLastSeenAt, succeeds, Bool.false_eq_true, if_false]
          exact Writes.silent rfl
      | true =>
          obtain ⟨receivers, wrote, reached⟩ := frames_offline sound.filed userId (jsDate env.now)
          simp only [LiveServer.resume, UserService.updateLastSeenAt, succeeds, if_true]
          refine Writes.of_toUsers wrote ?_
          intro frame inside
          obtain ⟨receiver, listed, rfl⟩ := List.mem_map.mp inside
          obtain ⟨registered, opened⟩ := (reached receiver).mp listed
          exact hidden succeeds receiver registered opened (by simp)

/-- A broadcast that nobody without a user got was hidden from them. -/
theorem LiveSound.hidden (sound : LiveSound progress) {task : LiveTask} {env : Env}
    (undisclosed : Undisclosed (LiveServer.resume platform progress.state task env).1) :
    PresenceHidden progress task env := by
  cases task with
  | getWsSession awaiter connectionId sessionId =>
      intro accepts receiver registered opened apart nobody
      cases accepted : wsSession env sessionId progress.state.store with
      | error exception =>
          rw [accepted] at accepts
          cases accepts
      | ok session =>
          obtain ⟨receivers, wrote, reached⟩ := frames_authenticate sound.filed connectionId session.userId session.id
          have apart : receiver ≠ connectionId := by simpa using apart
          have listed := (reached receiver).mpr ⟨registered, opened, apart⟩
          simp only [LiveServer.resume, accepted] at undisclosed
          refine undisclosed ⟨receiver, .presenceOnline session.userId⟩ ?_ ?_
          · rw [wrote]
            exact List.mem_append_right _ (List.mem_map_of_mem listed)
          · exact (userOf_authenticate_of_ne session.userId session.id apart).trans nobody
  | updateLastSeenAt userId =>
      intro succeeds receiver registered opened _ nobody
      obtain ⟨receivers, wrote, reached⟩ := frames_offline sound.filed userId (jsDate env.now)
      simp only [LiveServer.resume, UserService.updateLastSeenAt, succeeds, if_true] at undisclosed
      refine undisclosed ⟨receiver, .presenceOffline userId (jsDate env.now)⟩ ?_ nobody
      change _ ∈ (progress.state.become _).frames
      rw [wrote]
      exact List.mem_append_right _ (List.mem_map_of_mem ((reached receiver).mpr ⟨registered, opened⟩))
  | authenticateWsConnection connectionId accessToken => trivial
  | syncPendingMessages awaiter connectionId userId => trivial
  | syncPendingGroupInvitations awaiter connectionId userId => trivial
  | dispatch connectionId command => trivial

theorem LiveSound.undisclosed_advance (sound : LiveSound progress) (undisclosed : Undisclosed progress.state)
    {turn : Turn (Env × LiveEvent) Env} (hidden : OnResume PresenceHidden progress turn) :
    Undisclosed ((liveServer platform jsonParse).advance progress turn).state := by
  apply (liveServer platform jsonParse).advance_keeps (fun next => Undisclosed next.state) undisclosed
  · intro call _
    refine undisclosed.writes (sound.writes_start call) ?_
    intro connectionId owned
    have same : (LiveServer.start platform jsonParse progress.state call).1.server.manager.userOf = _ :=
      userOf_start progress.state call
    change (LiveServer.start platform jsonParse progress.state call).1.server.manager.userOf connectionId ≠ none
    rw [same]
    exact owned
  · rintro position env task rfl resuming
    refine undisclosed.writes (sound.writes_resume env (List.mem_of_getElem? resuming) (hidden task resuming)) ?_
    exact fun connectionId owned => userOf_resume_ne_none owned

end Turns

/-- Nothing is disclosed in any state of a run exactly when every broadcast is hidden from connections that have not
authenticated. -/
theorem nothing_disclosed_iff (platform : Platform) (jsonParse : CodeUnits → Option Json) (store : Store)
    (turns : List (Turn (Env × LiveEvent) Env)) :
    (∀ position, Undisclosed (stateAt (liveServer platform jsonParse).advance ⟨{ store }, []⟩ turns position).state) ↔
      Meets (liveServer platform jsonParse).advance (OnResume PresenceHidden) ⟨{ store }, []⟩ turns := by
  apply always_iff_meets (liveServer platform jsonParse).advance
    (fun progress => LiveSound progress ∧ Undisclosed progress.state) fun progress => Undisclosed progress.state
  · exact ⟨LiveSound.initial store, fun _ inside => absurd inside List.not_mem_nil⟩
  · exact fun _ both => both.2
  · rintro progress turn ⟨sound, undisclosed⟩ hidden
    exact ⟨sound.advance turn, sound.undisclosed_advance undisclosed hidden⟩
  · rintro progress turn ⟨sound, -⟩ undisclosed
    cases turn with
    | call call => trivial
    | resume position env =>
        intro task resuming
        rw [(liveServer platform jsonParse).advance_resume resuming] at undisclosed
        exact sound.hidden undisclosed

/-- Connection 0 has no cookie and is asked for its token, and user 2 authenticates on connection 1. -/
def observedLogin : List (Turn (Env × LiveEvent) Env) :=
  [.call (clock 6 0, .connection none), .resume 0 (clock 6 0),
    .call (clock 6 0, .connection (some strangersTokens.accessToken)), .resume 0 (clock 6 0), .resume 0 (clock 6 0)]

/-- The connection that has not authenticated is told that user 2 is online. -/
theorem observed_login_disclosed :
    Reachable plainPlatform strangersStore ∧
      ⟨0, .presenceOnline 2⟩ ∈ (stateAt (liveServer plainPlatform fun _ => none).advance ⟨{ store := strangersStore }, []⟩
        observedLogin 5).state.frames ∧
      ¬ ∀ position, Undisclosed (stateAt (liveServer plainPlatform fun _ => none).advance
        ⟨{ store := strangersStore }, []⟩ observedLogin position).state := by
  have told : ⟨0, .presenceOnline 2⟩ ∈ (stateAt (liveServer plainPlatform fun _ => none).advance
      ⟨{ store := strangersStore }, []⟩ observedLogin 5).state.frames := by decide
  refine ⟨⟨strangersRun, rfl⟩, told, ?_⟩
  intro undisclosed
  exact undisclosed 5 _ told (by decide)

end Messinger
