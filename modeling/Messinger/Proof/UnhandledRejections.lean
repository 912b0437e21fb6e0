import Messinger.Model.NodeProcess
import Messinger.Proof.LiveTurns
import Messinger.Proof.PushFanOut
import Messinger.Proof.StrangerRequests

namespace Messinger
open Library

/-- No promise that nobody handles is rejected: not that of a listener, of a notification or of a presence update. -/
structure NothingUnhandled (process : NodeProcess) : Prop where
  listeners : ∀ result ∈ process.live.state.settled, result.2 = .ok ()
  notifications : ∀ notification ∈ process.notifications, notification.promise ≠ .rejected
  presences : .rejected ∉ process.presences

/-- The calls that nobody awaits succeed: the presence update, the lookup of the subscriptions, each send up to an
answer 404 or 410, and the removal after such an answer. -/
def AnswersWell (process : NodeProcess) : ProcessTurn → Prop
  | .live turn => ∀ userId env, process.resumed turn = some (.updateLastSeenAt userId, env) → env.succeeds 0 = true
  | .found index env => ∀ notification, process.notifications[index]? = some notification →
      notification.stage = .finding → env.succeeds 0 = true
  | .settled index send answer => ∀ notification fan subscription stage,
      process.notifications[index]? = some notification → notification.stage = .sending fan →
      fan.sends[send]? = some (subscription, stage) →
      (stage = .sending → answer.outcome.thrown = false) ∧ (stage = .removing → answer.removes = true)

/-- The results of the listeners are old, or those of listeners that have returned. -/
def Returns (live next : LiveServer) : Prop := ∀ result ∈ next.settled, result ∈ live.settled ∨ result.2 = .ok ()

section Listeners
variable {platform : Platform} {jsonParse : CodeUnits → Option Json} {live next : LiveServer}

theorem Returns.of_same (same : next.settled = live.settled) : Returns live next := by
  intro result inside
  rw [same] at inside
  exact .inl inside

/-- What happens before the results change does not matter. -/
theorem Returns.after {between : LiveServer} (returns : Returns between next) (same : between.settled = live.settled) :
    Returns live next := by
  intro result inside
  rw [← same]
  exact returns result inside

theorem Answers.returns {connectionId : Uuid} (answers : Answers connectionId live next) : Returns live next := by
  obtain ⟨results, same, returned⟩ := answers.settled
  intro result inside
  rw [same] at inside
  obtain old | new := List.mem_append.mp inside
  · exact .inl old
  · rw [returned result new]
    exact .inr rfl

theorem returns_start (live : LiveServer) (call : Env × LiveEvent) :
    Returns live (LiveServer.start platform jsonParse live call).1 := by
  obtain ⟨env, event⟩ := call
  cases event with
  | connection accessToken => exact .of_same rfl
  | message connectionId raw => exact (LiveServer.emitMessage_cases env connectionId raw live).1.returns
  | timeout connectionId => exact .of_same rfl
  | close connectionId => exact .of_same rfl
  | database next => exact .of_same rfl
  | group event => exact .of_same rfl

/-- Whatever a task throws, its listener catches it and returns. -/
theorem returns_resume (live : LiveServer) (task : LiveTask) (env : Env) :
    Returns live (LiveServer.resume platform live task env).1 := by
  cases task with
  | authenticateWsConnection connectionId accessToken =>
      unfold LiveServer.resume
      simp only
      split
      · exact (LiveServer.answers_refused .callback connectionId .failedCall live).returns
      · split
        · exact (LiveServer.answers_askForToken connectionId live).returns
        · split
          · exact (LiveServer.answers_refused .callback connectionId _ live).returns
          · exact .of_same rfl
  | getWsSession awaiter connectionId sessionId =>
      unfold LiveServer.resume
      simp only
      split
      · exact (LiveServer.answers_refused awaiter connectionId _ live).returns
      · exact .of_same rfl
  | syncPendingMessages awaiter connectionId userId =>
      unfold LiveServer.resume
      simp only
      split
      · exact (LiveServer.answers_refused awaiter connectionId _ _).returns.after rfl
      · exact .of_same rfl
  | syncPendingGroupInvitations awaiter connectionId userId =>
      unfold LiveServer.resume
      simp only
      split
      · exact (LiveServer.answers_refused awaiter connectionId _ live).returns
      · exact (LiveServer.answers_authenticated awaiter connectionId _).returns.after rfl
  | dispatch connectionId command =>
      unfold LiveServer.resume
      simp only
      split
      · exact (LiveServer.answers_caught connectionId _ _).returns.after rfl
      · exact (LiveServer.answers_settle connectionId _).returns.after rfl
  | updateLastSeenAt userId =>
      unfold LiveServer.resume
      simp only
      split
      · exact .of_same rfl
      · exact .of_same rfl

/-- The promises of the listeners are never rejected. -/
theorem returns_advance (progress : Library.Progress LiveServer LiveTask) (turn : Turn (Env × LiveEvent) Env) :
    Returns progress.state ((liveServer platform jsonParse).advance progress turn).state := by
  refine (liveServer platform jsonParse).advance_keeps (fun next => Returns progress.state next.state) (.of_same rfl)
    ?_ ?_
  · rintro call -
    exact returns_start progress.state call
  · rintro position env task - -
    exact returns_resume progress.state task env

end Listeners

section Notifications
variable {process : NodeProcess} {platform : Platform} {jsonParse : CodeUnits → Option Json}

/-- A new notification is under way. -/
theorem not_rejected_of_notifies {live : LiveServer} {env : Env} {task : LiveTask} {notification : Notification}
    (inside : notification ∈ task.notifies platform live env) : notification.promise ≠ .rejected := by
  unfold LiveTask.notifies at inside
  split at inside
  · split at inside
    · obtain ⟨member, -, rfl⟩ := List.mem_map.mp inside
      exact Promise.noConfusion
    · cases inside
  · cases inside

/-- The presence update is the only task with a promise of its own, and it is rejected when its write fails. -/
theorem rejected_mem_presence_iff {live : LiveServer} {env : Env} {task : LiveTask} :
    .rejected ∈ task.presence live env ↔ ∃ userId, task = .updateLastSeenAt userId ∧ env.succeeds 0 = false := by
  cases task with
  | updateLastSeenAt userId =>
      unfold LiveTask.presence UserService.updateLastSeenAt
      cases env.succeeds 0 with
      | true => simp
      | false => simp
  | authenticateWsConnection | getWsSession | syncPendingMessages | syncPendingGroupInvitations | dispatch =>
      simp [LiveTask.presence]

/-- A send that has not thrown throws when the push service fails for another reason than a dropped subscription, or
when the removal of a dropped one fails. -/
theorem resumeSend_rejected_iff {subscription : PushSubscription} {stage : SendStage} {answer : PushAnswer}
    {store : Store} (before : stage.promise ≠ .rejected) :
    (resumeSend subscription stage answer store).1.promise = .rejected ↔
      stage = .sending ∧ answer.outcome.thrown = true ∨ stage = .removing ∧ answer.removes = false := by
  cases stage with
  | sending =>
      cases gone : answer.outcome.gone with
      | true => simp [resumeSend, gone, gone_not_thrown gone, SendStage.promise]
      | false => cases thrown : answer.outcome.thrown <;> simp [resumeSend, gone, thrown, SendStage.promise]
  | removing => cases removes : answer.removes <;> simp [resumeSend, removes, SendStage.promise]
  | returned => simp [resumeSend, SendStage.promise]
  | threw => exact absurd rfl before

theorem FanOut.start_not_rejected (payload : PushNotificationPayload) (subscriptions : List PushSubscription) :
    (FanOut.start payload subscriptions).promise ≠ .rejected := by
  intro rejected
  obtain ⟨send, inside, threw⟩ := List.mem_map.mp (promiseAll_eq_rejected_iff.mp rejected)
  obtain ⟨subscription, -, rfl⟩ := List.mem_map.mp inside
  cases threw

theorem FanOut.settle_rejected_iff {fan : FanOut} {send : Nat} {answer : PushAnswer} {store : Store}
    (before : fan.promise ≠ .rejected) :
    (fan.settle send answer store).1.promise = .rejected ↔
      ∃ subscription stage, fan.sends[send]? = some (subscription, stage) ∧
        (stage = .sending ∧ answer.outcome.thrown = true ∨ stage = .removing ∧ answer.removes = false) := by
  unfold FanOut.settle
  cases present : fan.sends[send]? with
  | none =>
      refine iff_of_false before ?_
      rintro ⟨subscription, stage, other, -⟩
      cases other
  | some current =>
      obtain ⟨subscription, stage⟩ := current
      obtain ⟨below, here⟩ := List.getElem?_eq_some_iff.mp present
      have quiet : stage.promise ≠ .rejected := by
        intro rejected
        exact before (promiseAll_eq_rejected_iff.mpr (List.mem_map.mpr ⟨_, List.mem_of_getElem? present, rejected⟩))
      have inside : send < (fan.sends.map fun send => send.2.promise).length := by
        rw [List.length_map]
        exact below
      simp only [FanOut.promise, List.map_set]
      rw [promiseAll_set_eq_rejected_iff before inside, resumeSend_rejected_iff quiet]
      constructor
      · exact fun fails => ⟨subscription, stage, rfl, fails⟩
      · rintro ⟨other, next, same, fails⟩
        cases same
        exact fails

/-- Fetching the subscriptions rejects the notification exactly when the lookup fails. -/
theorem found_rejected_iff {notification : Notification} {env : Env} {store : Store}
    (before : notification.promise ≠ .rejected) :
    (notification.found env store).promise = .rejected ↔
      notification.stage = .finding ∧ env.succeeds 0 = false := by
  obtain ⟨userId, payload, stage⟩ := notification
  cases stage with
  | finding =>
      unfold Notification.found
      cases env.succeeds 0 with
      | true => exact iff_of_false (FanOut.start_not_rejected _ _) (by simp)
      | false => exact iff_of_true rfl ⟨rfl, rfl⟩
  | sending fan => exact iff_of_false before (by simp)
  | threw => exact absurd rfl before

/-- A settled await rejects the notification exactly when its send throws. -/
theorem settled_rejected_iff {notification : Notification} {send : Nat} {answer : PushAnswer} {store : Store}
    (before : notification.promise ≠ .rejected) :
    (notification.settled send answer store).1.promise = .rejected ↔
      ∃ fan subscription stage, notification.stage = .sending fan ∧ fan.sends[send]? = some (subscription, stage) ∧
        (stage = .sending ∧ answer.outcome.thrown = true ∨ stage = .removing ∧ answer.removes = false) := by
  obtain ⟨userId, payload, stage⟩ := notification
  cases stage with
  | finding => exact iff_of_false before (by simp)
  | sending fan =>
      change (fan.settle send answer store).1.promise = .rejected ↔ _
      rw [FanOut.settle_rejected_iff before]
      constructor
      · rintro ⟨subscription, stage, present, fails⟩
        exact ⟨fan, subscription, stage, rfl, present, fails⟩
      · rintro ⟨other, subscription, stage, same, present, fails⟩
        cases same
        exact ⟨subscription, stage, present, fails⟩
  | threw => exact absurd rfl before

/-- A change of one notification leaves nothing unhandled exactly when it does not reject the notification. -/
theorem nothingUnhandled_set_iff (quiet : NothingUnhandled process) {index : Nat} {notification next : Notification}
    (present : process.notifications[index]? = some notification) {live : Library.Progress LiveServer LiveTask}
    (same : live.state.settled = process.live.state.settled) :
    NothingUnhandled { process with live, notifications := process.notifications.set index next } ↔
      next.promise ≠ .rejected := by
  constructor
  · intro unhandled
    exact unhandled.notifications next (List.mem_set (List.getElem?_eq_some_iff.mp present).1 next)
  · intro accepted
    refine ⟨?_, ?_, quiet.presences⟩
    · rw [same]
      exact quiet.listeners
    · intro other inside
      obtain old | rfl := List.mem_or_eq_of_mem_set inside
      · exact quiet.notifications other old
      · exact accepted

theorem nothingUnhandled_live_iff (quiet : NothingUnhandled process) (turn : Turn (Env × LiveEvent) Env) :
    NothingUnhandled (process.advance platform jsonParse (.live turn)) ↔ AnswersWell process (.live turn) := by
  constructor
  · intro next userId env resumed
    by_contra failed
    refine next.presences (List.mem_append_right _ (List.mem_flatMap.mpr ⟨(.updateLastSeenAt userId, env), ?_, ?_⟩))
    · rw [resumed]
      exact List.mem_singleton.mpr rfl
    · exact rejected_mem_presence_iff.mpr ⟨userId, rfl, Bool.eq_false_iff.mpr failed⟩
  · intro well
    refine ⟨?_, ?_, ?_⟩
    · intro result inside
      exact (returns_advance process.live turn result inside).elim (quiet.listeners result) id
    · intro notification inside
      obtain old | new := List.mem_append.mp inside
      · exact quiet.notifications notification old
      · obtain ⟨task, -, notifies⟩ := List.mem_flatMap.mp new
        exact not_rejected_of_notifies notifies
    · intro inside
      obtain old | new := List.mem_append.mp inside
      · exact quiet.presences old
      · obtain ⟨⟨task, env⟩, resumed, rejected⟩ := List.mem_flatMap.mp new
        obtain ⟨userId, rfl, failed⟩ := rejected_mem_presence_iff.mp rejected
        cases (well userId env (Option.mem_toList.mp resumed)).symm.trans failed

theorem nothingUnhandled_found_iff (quiet : NothingUnhandled process) (index : Nat) (env : Env) :
    NothingUnhandled (process.advance platform jsonParse (.found index env)) ↔ AnswersWell process (.found index env) := by
  cases present : process.notifications[index]? with
  | none =>
      have step : process.advance platform jsonParse (.found index env) = process := by
        rw [NodeProcess.advance, present]
      rw [step]
      refine iff_of_true quiet ?_
      intro notification found
      cases present.symm.trans found
  | some notification =>
      have before := quiet.notifications notification (List.mem_of_getElem? present)
      have step : process.advance platform jsonParse (.found index env) =
          { process with
            live := process.live
            notifications := process.notifications.set index (notification.found env process.live.state.store) } := by
        rw [NodeProcess.advance, present]
      rw [step, nothingUnhandled_set_iff quiet present rfl, Ne, found_rejected_iff before, not_and, Bool.not_eq_false]
      constructor
      · intro answered other found
        cases present.symm.trans found
        exact answered
      · exact fun answered => answered notification present

theorem nothingUnhandled_settled_iff (quiet : NothingUnhandled process) (index send : Nat) (answer : PushAnswer) :
    NothingUnhandled (process.advance platform jsonParse (.settled index send answer)) ↔
      AnswersWell process (.settled index send answer) := by
  cases present : process.notifications[index]? with
  | none =>
      have step : process.advance platform jsonParse (.settled index send answer) = process := by
        rw [NodeProcess.advance, present]
      rw [step]
      refine iff_of_true quiet ?_
      intro notification fan subscription stage found
      cases present.symm.trans found
  | some notification =>
      have before := quiet.notifications notification (List.mem_of_getElem? present)
      let outcome := notification.settled send answer process.live.state.store
      have step : process.advance platform jsonParse (.settled index send answer) =
          { process with
            live := NodeProcess.withStore outcome.2 process.live
            notifications := process.notifications.set index outcome.1 } := by
        rw [NodeProcess.advance, present]
      have kept : (NodeProcess.withStore outcome.2 process.live).state.settled = process.live.state.settled := rfl
      rw [step, nothingUnhandled_set_iff quiet present kept, Ne, settled_rejected_iff before]
      constructor
      · intro accepted other fan subscription stage found sends waits
        cases present.symm.trans found
        refine ⟨fun sending => ?_, fun removing => ?_⟩
        · refine Bool.eq_false_iff.mpr fun thrown => accepted ⟨fan, subscription, stage, sends, waits, ?_⟩
          exact .inl ⟨sending, thrown⟩
        · refine Bool.eq_true_of_not_eq_false fun fails => accepted ⟨fan, subscription, stage, sends, waits, ?_⟩
          exact .inr ⟨removing, fails⟩
      · rintro well ⟨fan, subscription, stage, sends, waits, ⟨sending, thrown⟩ | ⟨removing, fails⟩⟩
        · cases ((well notification fan subscription stage present sends waits).1 sending).symm.trans thrown
        · cases ((well notification fan subscription stage present sends waits).2 removing).symm.trans fails

/-- A turn leaves nothing unhandled exactly when the calls that nobody awaits succeed in it. -/
theorem nothingUnhandled_advance_iff (quiet : NothingUnhandled process) (turn : ProcessTurn) :
    NothingUnhandled (process.advance platform jsonParse turn) ↔ AnswersWell process turn := by
  cases turn with
  | live turn => exact nothingUnhandled_live_iff quiet turn
  | found index env => exact nothingUnhandled_found_iff quiet index env
  | settled index send answer => exact nothingUnhandled_settled_iff quiet index send answer

end Notifications

/-- In every run of the process no rejection is left unhandled exactly when the calls that nobody awaits succeed. -/
theorem nothing_unhandled_iff (platform : Platform) (jsonParse : CodeUnits → Option Json) (store : Store)
    (turns : List ProcessTurn) :
    (∀ position, NothingUnhandled
        (stateAt (NodeProcess.advance platform jsonParse) { live := ⟨{ store }, []⟩ } turns position)) ↔
      Meets (NodeProcess.advance platform jsonParse) AnswersWell { live := ⟨{ store }, []⟩ } turns := by
  refine always_iff_meets _ NothingUnhandled NothingUnhandled ?_ (fun _ quiet => quiet) ?_ ?_
  · exact ⟨List.forall_mem_nil _, List.forall_mem_nil _, List.not_mem_nil⟩
  · exact fun process turn quiet => (nothingUnhandled_advance_iff quiet turn).mpr
  · exact fun process turn quiet => (nothingUnhandled_advance_iff quiet turn).mp

/-- User 2 connects with a cookie. -/
def cookieLogin : List ProcessTurn :=
  [.live (.call (clock 6 0, .connection (some strangersTokens.accessToken))), .live (.resume 0 (clock 6 0)),
    .live (.resume 0 (clock 6 0)), .live (.resume 0 (clock 6 0)), .live (.resume 0 (clock 6 0))]

def databaseAway : Env := { now := 8000000, succeeds := fun _ => false }

/-- The database is away when the presence of the user is written. -/
def lostPresence : List ProcessTurn :=
  cookieLogin ++ [.live (.call (clock 7 0, .close 0)), .live (.resume 0 databaseAway)]

/-- This is a message to user 1, who is not connected. -/
def greetingFrame : Json :=
  .object [(units "type", .string (units "SEND_PRIVATE_MESSAGE")),
    (units "data", .object [(units "receiverId", .string (units (String.ofList (uuidText 1)))),
      (units "content", .string [104])])]

/-- The database is away when the subscriptions of user 1 are read. -/
def lostLookup : List ProcessTurn :=
  cookieLogin ++ [.live (.call (clock 7 0, .message 0 [])), .live (.resume 0 (clock 7 0)), .found 0 databaseAway]

/-- A close event and a client frame each end in a rejection that nobody handles. -/
theorem lost_calls_unhandled :
    (¬ ∀ position, NothingUnhandled (stateAt (NodeProcess.advance plainPlatform fun _ => none)
      { live := ⟨{ store := strangersStore }, []⟩ } lostPresence position)) ∧
    ¬ ∀ position, NothingUnhandled (stateAt (NodeProcess.advance plainPlatform fun _ => some greetingFrame)
      { live := ⟨{ store := strangersStore }, []⟩ } lostLookup position) := by
  constructor
  · intro quiet
    exact absurd (quiet 7).presences (by decide)
  · intro quiet
    have accepted : ∀ promise ∈ (stateAt (NodeProcess.advance plainPlatform fun _ => some greetingFrame)
        { live := ⟨{ store := strangersStore }, []⟩ } lostLookup 8).notifications.map Notification.promise,
        promise ≠ .rejected := List.forall_mem_map.mpr (quiet 8).notifications
    revert accepted
    decide

end Messinger
