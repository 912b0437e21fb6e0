import Messinger.Model.Backend
import Messinger.Proof.CommittedTasks

namespace Messinger
open Library MessageService

section Handlers
variable {platform : Platform} {store : Store} (env : Env)

theorem answered_store {A : Type} (outcome : Outcome A) (frames : A → List Frame) :
    (answered outcome frames).2 = outcome.2 := rfl

/-- The handler of every command writes as its service call does. -/
theorem runCommand_committed (rooted : Rooted store) (server : WebSocketServer) (connectionId : Uuid)
    (command : Command) : Committed platform store (runCommand platform env server connectionId store command).2 := by
  unfold runCommand
  cases command with
  | sendPrivateMessage senderId dto =>
      unfold privateMessageHandler
      simp only [answered_store]
      exact createPrivateMessage_committed platform env rooted senderId dto
  | sendGroupMessage senderId dto =>
      unfold groupMessageHandler
      simp only [answered_store]
      exact createGroupMessage_committed platform env rooted senderId dto
  | confirmDelivery userId dto =>
      unfold messageDeliveryHandler
      simp only [answered_store]
      exact confirmDelivery_committed env userId dto
  | inviteGroupMember actorId dto =>
      unfold inviteGroupMemberHandler
      simp only [answered_store]
      exact groupCall_committed env rooted (.validateGroupInvitation actorId dto)
  | acceptGroupInvitation conversationId userId =>
      unfold acceptGroupInvitationHandler
      simp only [answered_store]
      exact groupCall_committed env rooted (.acceptGroupInvitation conversationId userId)
  | rejectGroupInvitation conversationId userId =>
      unfold rejectGroupInvitationHandler
      simp only [answered_store]
      exact groupCall_committed env rooted (.rejectGroupInvitation conversationId userId)
  | typing userId dto =>
      have unchanged : (typingStartHandler env server userId dto store).2 = store := by
        unfold typingStartHandler
        split
        · rfl
        · split
          · rfl
          · split <;> rfl
      simp only [unchanged]
      exact .refl

end Handlers

namespace LiveServer
variable {platform : Platform} {jsonParse : CodeUnits → Option Json}

theorem refused_store (awaiter : Awaiter) (connectionId : Uuid) (exception : Exception) (live : LiveServer) :
    (live.refused awaiter connectionId exception).store = live.store := by
  cases awaiter <;> rfl

theorem authenticated_store (awaiter : Awaiter) (connectionId : Uuid) (live : LiveServer) :
    (live.authenticated awaiter connectionId).store = live.store := by
  cases awaiter <;> rfl

theorem onMessage_store (env : Env) (connectionId : Uuid) (raw : Bytes) (live : LiveServer) :
    (live.onMessage platform jsonParse env connectionId raw).1.store = live.store := by
  unfold onMessage
  split <;> rfl

/-- No event writes to the database before its first await. -/
theorem start_store (live : LiveServer) (call : Env × LiveEvent) (here : ∀ next, call.2 ≠ .database next) :
    (start platform jsonParse live call).1.store = live.store := by
  obtain ⟨env, event⟩ := call
  cases event with
  | message connectionId raw =>
      change (live.emitMessage platform jsonParse env connectionId raw).1.store = live.store
      unfold emitMessage
      split
      · rfl
      · split
        · rfl
        · exact onMessage_store env connectionId raw live
  | database next => exact absurd rfl (here next)
  | _ => rfl

/-- Every part of a callback, a listener or a handler makes its writes. -/
theorem resume_committed (live : LiveServer) (rooted : Rooted live.store) (task : LiveTask) (env : Env) :
    Committed platform live.store (live.resume platform task env).1.store := by
  unfold resume
  cases task with
  | authenticateWsConnection connectionId accessToken =>
      simp only
      split
      · rw [refused_store]
      · split
        · exact .refl
        · split
          · rw [refused_store]
          · exact .refl
  | getWsSession awaiter connectionId sessionId =>
      simp only
      split
      · rw [refused_store]
      · exact .refl
  | syncPendingMessages awaiter connectionId userId =>
      have synced := @syncPendingMessages_committed platform env live.store
        (!(live.server.manager.getUserConnections userId).isEmpty) userId
      simp only
      split
      · rw [refused_store]
        exact synced
      · exact synced
  | syncPendingGroupInvitations awaiter connectionId userId =>
      simp only
      split
      · rw [refused_store]
      · rw [authenticated_store]
        exact .refl
  | dispatch connectionId command =>
      have ran := @runCommand_committed platform live.store env rooted live.server connectionId command
      simp only
      split
      · exact ran
      · exact ran
  | updateLastSeenAt userId =>
      have seen := @updateLastSeenAt_committed platform env live.store userId
      simp only
      split
      · exact .refl
      · exact seen

end LiveServer

section Sends
variable {platform : Platform} {store : Store}

theorem resumeSend_committed (subscription : PushSubscription) (stage : SendStage) (answer : PushAnswer) :
    Committed platform store (resumeSend subscription stage answer store).2 := by
  cases stage with
  | removing =>
      unfold resumeSend
      simp only
      split
      · exact .single (.deleteSubscriptions _)
      · exact .refl
  | sending =>
      unfold resumeSend
      simp only
      split
      · exact .refl
      · split <;> exact .refl
  | _ => exact .refl

theorem settled_committed (send : Nat) (answer : PushAnswer) (notification : Notification) :
    Committed platform store (notification.settled send answer store).2 := by
  unfold Notification.settled
  split
  · next fan stage =>
      simp only
      unfold FanOut.settle
      split
      · exact .refl
      · exact resumeSend_committed _ _ answer
  · exact .refl
  · exact .refl

end Sends

section Turns
variable {platform : Platform} {jsonParse : CodeUnits → Option Json}

/-- A turn of the process that does not stand for another writer makes its writes. -/
theorem NodeProcess.advance_committed (process : NodeProcess) (rooted : Rooted process.live.state.store)
    (turn : ProcessTurn) (here : turn.writesElsewhere = false) :
    Committed platform process.live.state.store (process.advance platform jsonParse turn).live.state.store := by
  cases turn with
  | live turn =>
      refine (liveServer platform jsonParse).advance_keeps
        (fun progress => Committed platform process.live.state.store progress.state.store) .refl ?_ ?_
      · rintro ⟨env, event⟩ rfl
        have unchanged := @LiveServer.start_store platform jsonParse process.live.state (env, event) fun next same => by
          cases same
          cases here
        change Committed platform _ (LiveServer.start platform jsonParse process.live.state (env, event)).1.store
        rw [unchanged]
      · intro position env task _ _
        exact process.live.state.resume_committed rooted task env
  | found index env =>
      unfold advance
      simp only
      split <;> exact .refl
  | settled index send answer =>
      unfold advance
      simp only
      split
      · exact .refl
      · exact settled_committed send answer _

/-- Every turn of the backend keeps its progress sound, whoever takes it. -/
theorem Backend.advance_sound {holds : Store → Prop}
    (kept : ∀ store next, Write platform store next → holds store → holds next) (backend : Backend)
    (before : SoundProgress platform holds ⟨backend.store, backend.tasks⟩) (turn : BackendTurn) :
    SoundProgress platform holds ⟨(backend.advance platform jsonParse turn).store,
      (backend.advance platform jsonParse turn).tasks⟩ := by
  cases turn with
  | process turn =>
      unfold advance
      simp only
      split
      · exact before
      · next here =>
          rw [Bool.not_eq_true] at here
          exact before.meanwhile (backend.process.advance_committed before.rooted turn here) kept
  | service turn => exact before.advance kept turn

/-- What every write keeps holds in every state of the backend, whichever order its turns take. -/
theorem backend_invariant {holds : Store → Prop} (initial : holds {})
    (kept : ∀ store next, Write platform store next → holds store → holds next) (turns : List BackendTurn)
    (position : Nat) : holds (backendStore platform jsonParse turns position) := by
  let sound (backend : Backend) : Prop := SoundProgress platform holds ⟨backend.store, backend.tasks⟩
  have invariant : sound (stateAt (Backend.advance platform jsonParse) {} turns position) := by
    induction position with
    | zero => exact ⟨rooted_empty, initial, fun task inside => by cases inside⟩
    | succ position ih => exact stateAt_carries _ sound ih fun turn _ => Backend.advance_sound kept _ ih turn
  exact invariant.holds

end Turns

end Messinger
