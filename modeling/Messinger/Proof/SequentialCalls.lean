import Messinger.Library.Subsystems
import Messinger.Model.Service
import Messinger.Proof.AdminNames
import Messinger.Proof.AuthTurns
import Messinger.Proof.DeliveryTurns
import Messinger.Proof.MessageTurns
import Messinger.Proof.PrivateTurns

namespace Messinger
open Library ConversationService MessageService StorageService AuthService

/-- The database gives every await of the call the answer to the statement at the given index. -/
def DeliveryAnswer.answering (answer : DeliveryAnswer) (index : Nat) : DeliveryAnswer :=
  { answer with env := answer.env.answering index }

namespace ServiceCall

/-- This is what a call leaves when nothing else runs before it returns. A lookup of an admin that fails ends its
call. -/
def complete (platform : Platform) (store : Store) (given : DeliveryAnswer × ServiceCall) : Store :=
  let env := given.1.env
  match given.2 with
  | .sending (.prepareUploads userId files) => (prepareUploads env userId files store).2
  | .sending (.putObject key) => act platform store (env, .putObject key)
  | .sending (.createPrivateMessage senderId dto) => (createPrivateMessage platform env senderId dto store).2
  | .sending (.createGroupMessage senderId dto) => (createGroupMessage platform env senderId dto store).2
  | .receiving (.confirmDelivery userId dto) => (confirmDelivery env userId dto store).2
  | .receiving (.syncPendingMessages userId) =>
      (syncPendingMessages platform env given.1.connected userId store).2
  | .occupancy (.createPrivateMessage senderId dto) => (createPrivateMessage platform env senderId dto store).2
  | .occupancy (.deletePrivateConversation userId conversationId) =>
      (deletePrivateConversation env userId conversationId store).2
  | .occupancy (.leaveGroup userId conversationId) => (leaveGroup env userId conversationId store).2
  | .occupancy (.deleteUser dto) => (AdminService.deleteUser env dto store).2
  | .session (.authenticate cookies headers) => (authenticate platform env cookies headers store).store
  | .session (.logout refreshToken) => (AuthService.logout platform env refreshToken store).2
  | .admin .adminSeed => if env.succeeds 1 then (adminSeed platform env store).2 else store
  | .admin (.createAdmin dto) => if env.succeeds 1 then (createAdmin platform env dto store).2 else store
  | .checked (.group call) => runGroupCall store (env, call)
  | .checked (.deleteGroup userId conversationId) => (deleteGroup env userId conversationId store).2
  | .checked (.signin client dto) => (signin platform env client dto store).2
  | .checked (.adminSignIn client dto) => (adminSignIn platform env client dto store).2
  | .cleanup (.deleteMessages dto) => (Controllers.deleteMessages env dto store).2
  | .cleanup .deleteMessagesJob => deleteMessagesJob env store
  | .action made => act platform store (env, made)

/-- These are the answers that a call awaits one after the other. -/
def answers (answer : DeliveryAnswer) : ServiceCall → List DeliveryAnswer
  | .sending (.prepareUploads _ files) => (List.range' 0 (files.length + 1)).map answer.answering
  | .sending (.putObject _) => []
  | .sending (.createPrivateMessage _ dto) => List.replicate (dto.attachments.length + 1) (answer.answering 1)
  | .sending (.createGroupMessage _ dto) => List.replicate (dto.attachments.length + 1) answer
  | .receiving (.confirmDelivery _ _) => [answer, answer]
  | .receiving (.syncPendingMessages _) =>
      [{ answer with env := { answer.env with succeeds := fun _ => true } }, answer.answering 0]
  | .occupancy (.createPrivateMessage _ _) => [answer, answer, answer]
  | .occupancy (.deletePrivateConversation _ _) => [answer, answer]
  | .occupancy (.leaveGroup _ _) => [answer]
  | .occupancy (.deleteUser _) => [answer, answer]
  | .session (.authenticate _ _) => [answer, answer]
  | .session (.logout _) => [answer]
  | .admin _ => [answer]
  | .checked _ => [answer]
  | .cleanup _ => [answer, answer]
  | .action _ => []

/-- A call runs alone when no other call takes a turn before it returns. -/
def turns (given : DeliveryAnswer × ServiceCall) : List (Turn (Env × ServiceCall) DeliveryAnswer) :=
  .call (given.1.env, given.2) :: (given.2.answers given.1).map (.resume 0)

end ServiceCall

section Parts
variable (platform : Platform)

theorem service_contains_uploads : (serviceSystem platform).Contains (uploadSystem platform)
    (fun call => (call.1, .sending call.2)) .sending DeliveryAnswer.env := by
  have first : (serviceSystem platform).start = ServiceTask.start platform := rfl
  have next : (serviceSystem platform).resume = ServiceTask.resume platform := rfl
  have begins : (uploadSystem platform).start = UploadTask.start platform := rfl
  have resumes : (uploadSystem platform).resume = UploadTask.resume := rfl
  exact ⟨fun store call => by rw [first, begins, ServiceTask.start], fun store task answer => by
    rw [next, resumes, ServiceTask.resume]⟩

theorem service_contains_deliveries : (serviceSystem platform).Contains (deliverySystem platform)
    (fun call => (call.1, .receiving call.2)) .receiving id :=
  ⟨fun _ _ => rfl, fun _ _ _ => rfl⟩

theorem service_contains_occupancy : (serviceSystem platform).Contains (privateSystem platform)
    (fun call => (call.1, .occupancy call.2)) .occupancy DeliveryAnswer.env := by
  have first : (serviceSystem platform).start = ServiceTask.start platform := rfl
  have next : (serviceSystem platform).resume = ServiceTask.resume platform := rfl
  have begins : (privateSystem platform).start = PrivateTask.start platform := rfl
  have resumes : (privateSystem platform).resume = PrivateTask.resume platform := rfl
  exact ⟨fun store call => by rw [first, begins, ServiceTask.start], fun store task answer => by
    rw [next, resumes, ServiceTask.resume]⟩

theorem service_contains_sessions : (serviceSystem platform).Contains (authSystem platform)
    (fun call => (call.1, .session call.2)) .session DeliveryAnswer.env :=
  ⟨fun _ _ => rfl, fun _ _ _ => rfl⟩

theorem service_contains_admins : (serviceSystem platform).Contains (adminSystem platform)
    (fun call => (call.1, .admin call.2)) .admin DeliveryAnswer.env :=
  ⟨fun _ _ => rfl, fun _ _ _ => rfl⟩

end Parts

section Alone
variable {platform : Platform} {store : Store}

theorem service_start (env : Env) (call : ServiceCall) :
    (serviceSystem platform).advance ⟨store, []⟩ (.call (env, call)) =
      waiting [] (ServiceTask.start platform store (env, call)) :=
  Cooperative.advance_call_alone (serviceSystem platform) store (env, call)

theorem service_resume (task : ServiceTask) (answer : DeliveryAnswer) :
    (serviceSystem platform).advance ⟨store, [task]⟩ (.resume 0 answer) =
      waiting [] (ServiceTask.resume platform store task answer) :=
  Cooperative.advance_resume_alone (serviceSystem platform) store task answer

/-- These are the tables after the write of a checked call, or after checks that have thrown. -/
def CheckedTask.finish (platform : Platform) (env : Env) (outcome : Store × Option CheckedTask) : Store :=
  match outcome.2 with
  | none => outcome.1
  | some task => task.resume platform outcome.1 env

theorem checked_turns (answer : DeliveryAnswer) (call : CheckedCall) :
    [Turn.call (answer.env, .checked call), .resume 0 answer].foldl (serviceSystem platform).advance ⟨store, []⟩ =
      ⟨CheckedTask.finish platform answer.env (CheckedTask.start platform store (answer.env, call)), []⟩ := by
  rw [List.foldl_cons, service_start, ServiceTask.start]
  simp only
  obtain ⟨next, pending⟩ := CheckedTask.start platform store (answer.env, call)
  cases pending with
  | none => rfl
  | some task => rfl

/-- The rows that the checks return do not change what the transaction commits. -/
theorem transaction_carries {A B : Type} (commits : Bool) (body : Store → Except Exception (A × Store)) (value : B) :
    (transaction commits store body).2 =
      (transaction commits store fun current => do
        let (_, next) ← body current
        return (value, next)).2 := by
  rw [transaction_snd, transaction_snd]
  exact congrArg (fun outcome => if commits then outcome.getD store else store)
    (toOption_map_bind (body store) (fun pair => (value, pair.2)) fun _ => rfl).symm

/-- A task that stands behind its checks does what the guarded body does. -/
theorem finish_guarded {A B : Type} {env : Env} (checks : Except Exception A) (task : A → CheckedTask)
    (body : A → Outcome B) (same : ∀ value, (task value).resume platform store env = (body value).2) :
    CheckedTask.finish platform env (store, CheckedTask.after checks task) = (guarded store checks body).2 := by
  cases checks with
  | error exception => rfl
  | ok value => exact same value

/-- A call of the group's life that runs alone does what `runGroupCall` does. -/
theorem group_finish (env : Env) (call : GroupCall) :
    CheckedTask.finish platform env (CheckedTask.start platform store (env, .group call)) =
      runGroupCall store (env, call) := by
  cases call with
  | createGroup ownerId dto => rfl
  | validateGroupInvitation actorId dto =>
      refine finish_guarded (validateGroupInvitationChecks store actorId dto) _ _ fun conversation => ?_
      unfold CheckedTask.resume
      simp only
      rw [transaction_snd, transaction_snd]
      cases GroupInvitationRepository.createInvitation env.now dto.conversationId actorId (parseUuid dto.targetUserId)
        (addHours (jsDate env.now) 24) store <;> rfl
  | acceptGroupInvitation conversationId userId =>
      refine finish_guarded (acceptGroupInvitationChecks env.scan store conversationId userId) _ _ fun rows => ?_
      by_cases late : isAfter env.now rows.invitation.expiresAt = true
      · rw [if_pos late, if_pos late]
        unfold CheckedTask.resume expireInvitation
        cases env.succeeds 0 <;> rfl
      · rw [if_neg late, if_neg late]
        exact transaction_carries _ (acceptGroupInvitationBody env.now rows.member conversationId userId) rows.members
  | rejectGroupInvitation conversationId userId =>
      change CheckedTask.finish platform env (store, (GroupInvitationRepository.findOne env.scan store conversationId
        userId).map _) = (rejectGroupInvitation env conversationId userId store).2
      unfold rejectGroupInvitation
      cases GroupInvitationRepository.findOne env.scan store conversationId userId with
      | none => rfl
      | some invitation =>
          simp only [Option.map_some]
          by_cases late : isAfter env.now invitation.expiresAt = true
          · rw [if_pos late, if_pos late]
            unfold CheckedTask.finish CheckedTask.resume expireInvitation
            cases env.succeeds 0 <;> rfl
          · rw [if_neg late, if_neg late]
            rfl
  | leaveGroup userId conversationId =>
      exact finish_guarded (leaveGroupChecks store userId conversationId) _ _ fun members =>
        transaction_carries _ (removeMemberFromGroup env.now conversationId userId userId .memberLeft) members
  | removeGroupMember userId dto =>
      exact finish_guarded (removeGroupMemberChecks store userId dto) _ _ fun members =>
        transaction_carries _ (removeMemberFromGroup env.now dto.conversationId userId (parseUuid dto.targetUserId)
          .memberRemoved) members
  | transferGroupOwnership prevOwner dto =>
      exact finish_guarded (transferGroupOwnershipChecks store prevOwner dto) _ _ fun members =>
        transaction_carries _ (transferGroupOwnershipBody env.now prevOwner dto) members

/-- A checked call that runs alone does what its service function does. -/
theorem checked_alone (answer : DeliveryAnswer) (call : CheckedCall) :
    [Turn.call (answer.env, .checked call), .resume 0 answer].foldl (serviceSystem platform).advance ⟨store, []⟩ =
      ⟨ServiceCall.complete platform store (answer, .checked call), []⟩ := by
  rw [checked_turns]
  refine congrArg (fun next => Library.Progress.mk next []) ?_
  cases call with
  | group call => exact group_finish answer.env call
  | deleteGroup userId conversationId =>
      refine finish_guarded (deleteGroupChecks store userId conversationId) _ _ fun members => ?_
      exact transaction_carries _ (fun current =>
        .ok ((), ConversationRepository.deleteConversation conversationId current)) members
  | signin client dto => exact finish_guarded (signinChecks platform store dto) _ _ fun user => rfl
  | adminSignIn client dto =>
      exact finish_guarded (adminSignInChecks platform answer.env.scan store dto) _ _ fun user => rfl

/-- A deletion of messages that runs alone does what the controller does. -/
theorem deleteMessages_alone (answer : DeliveryAnswer) (dto : DeleteMessagesDto) :
    [Turn.call (answer.env, .cleanup (.deleteMessages dto)), .resume 0 answer, .resume 0 answer].foldl
        (serviceSystem platform).advance ⟨store, []⟩ =
      ⟨(Controllers.deleteMessages answer.env dto store).2, []⟩ := by
  rw [List.foldl_cons, service_start, ServiceTask.start]
  unfold CleanupTask.start Controllers.deleteMessages
  simp only
  obtain ⟨result, next⟩ := MessageService.deleteMessages answer.env dto store
  cases result with
  | error exception => rfl
  | ok found =>
      cases found with
      | none => rfl
      | some messages =>
          simp only [Prod.map, Option.map_some, waiting_some, id]
          rw [List.foldl_cons, service_resume, ServiceTask.resume, CleanupTask.resume]
          obtain ⟨result, emptied⟩ := StorageService.deleteFiles answer.env
            (AdminService.storageKeysOf store messages) next
          cases result with
          | error exception => rfl
          | ok nothing => rfl

/-- A run of the cleanup job that nothing interrupts does what `deleteMessagesJob` does. -/
theorem deleteMessagesJob_alone (answer : DeliveryAnswer) :
    [Turn.call (answer.env, .cleanup .deleteMessagesJob), .resume 0 answer, .resume 0 answer].foldl
        (serviceSystem platform).advance ⟨store, []⟩ =
      ⟨deleteMessagesJob answer.env store, []⟩ := by
  rw [List.foldl_cons, service_start, ServiceTask.start]
  unfold CleanupTask.start deleteMessagesJob
  simp only
  by_cases nothing : MessageRepository.findMessagesToCleanup (jsDate answer.env.now - maxMessageAge) store = []
  · rw [if_pos nothing, if_pos nothing]
    rfl
  · rw [if_neg nothing, if_neg nothing]
    simp only [Prod.map, Option.map_some, waiting_some]
    rw [List.foldl_cons, id, service_resume, ServiceTask.resume, CleanupTask.resume]
    generalize StorageService.deleteFiles answer.env
      (AdminService.storageKeysOf store (MessageRepository.findMessagesToCleanup
        (jsDate answer.env.now - maxMessageAge) store)) store = outcome
    obtain ⟨result, emptied⟩ := outcome
    cases result with
    | error exception => rfl
    | ok nothing => rfl

theorem uploads_complete (answer : DeliveryAnswer) (call : UploadCall) :
    (ServiceCall.turns (answer, .sending call)).foldl (serviceSystem platform).advance ⟨store, []⟩ =
      ⟨ServiceCall.complete platform store (answer, .sending call), []⟩ := by
  refine (service_contains_uploads platform).returns (answer.env, call) _ ?_
  cases call with
  | prepareUploads userId files =>
      rw [ServiceCall.answers, List.map_map, List.map_map]
      exact prepareUploads_alone answer.env userId files store
  | putObject key => rfl
  | createPrivateMessage senderId dto =>
      rw [ServiceCall.answers, List.map_replicate, List.map_replicate]
      exact createPrivateMessage_alone answer.env (answer.env.answering 1) rfl rfl senderId dto store
  | createGroupMessage senderId dto =>
      rw [ServiceCall.answers, List.map_replicate, List.map_replicate]
      exact createGroupMessage_alone answer.env senderId dto store

theorem deliveries_complete (answer : DeliveryAnswer) (call : DeliveryCall) :
    (ServiceCall.turns (answer, .receiving call)).foldl (serviceSystem platform).advance ⟨store, []⟩ =
      ⟨ServiceCall.complete platform store (answer, .receiving call), []⟩ := by
  refine (service_contains_deliveries platform).returns (answer.env, call) _ ?_
  cases call with
  | confirmDelivery userId dto => exact confirmDelivery_alone answer.env userId dto answer.connected store
  | syncPendingMessages userId =>
      exact syncPendingMessages_alone answer.env { answer.env with succeeds := fun _ => true }
        (answer.env.answering 0) rfl rfl answer.connected userId store

theorem occupancy_complete (answer : DeliveryAnswer) (call : OccupancyCall) :
    (ServiceCall.turns (answer, .occupancy call)).foldl (serviceSystem platform).advance ⟨store, []⟩ =
      ⟨ServiceCall.complete platform store (answer, .occupancy call), []⟩ := by
  refine (service_contains_occupancy platform).returns (answer.env, call) _ ?_
  cases call with
  | createPrivateMessage senderId dto => exact createPrivateMessage_turns answer.env store senderId dto
  | deletePrivateConversation userId conversationId =>
      exact deletePrivateConversation_alone answer.env store userId conversationId
  | leaveGroup userId conversationId => exact leaveGroup_alone answer.env store userId conversationId
  | deleteUser dto => exact deleteUser_alone answer.env store dto

theorem sessions_complete (answer : DeliveryAnswer) (call : AuthCall) :
    (ServiceCall.turns (answer, .session call)).foldl (serviceSystem platform).advance ⟨store, []⟩ =
      ⟨ServiceCall.complete platform store (answer, .session call), []⟩ := by
  refine (service_contains_sessions platform).returns (answer.env, call) _ ?_
  cases call with
  | authenticate cookies headers => exact authenticate_alone cookies headers
  | logout refreshToken => exact logout_alone refreshToken

theorem admins_complete (answer : DeliveryAnswer) (call : AdminCall) :
    (ServiceCall.turns (answer, .admin call)).foldl (serviceSystem platform).advance ⟨store, []⟩ =
      ⟨ServiceCall.complete platform store (answer, .admin call), []⟩ := by
  refine (service_contains_admins platform).returns (answer.env, call) _ ?_
  cases answered : answer.env.succeeds 1 with
  | false =>
      have ended : AdminDraft.start platform store (answer.env, call) = (store, none) := by
        rw [AdminDraft.start, answered, Bool.false_and, if_neg Bool.false_ne_true]
      have completed : ServiceCall.complete platform store (answer, .admin call) = store := by
        cases call <;> exact if_neg fun holds => Bool.false_ne_true (answered.symm.trans holds)
      rw [completed, List.foldl_cons, Cooperative.advance_call_alone]
      change List.foldl _ (waiting [] (AdminDraft.start platform store (answer.env, call))) _ = _
      rw [ended]
      rfl
  | true =>
      cases call with
      | adminSeed =>
          have completed : ServiceCall.complete platform store (answer, .admin .adminSeed) =
              (adminSeed platform answer.env store).2 := if_pos answered
          rw [completed]
          exact adminSeed_alone answered
      | createAdmin dto =>
          have completed : ServiceCall.complete platform store (answer, .admin (.createAdmin dto)) =
              (createAdmin platform answer.env dto store).2 := if_pos answered
          rw [completed]
          exact createAdmin_alone dto answered

/-- A call that runs alone leaves the tables as its function does, and leaves nothing pending. -/
theorem ServiceCall.turns_complete (given : DeliveryAnswer × ServiceCall) :
    (ServiceCall.turns given).foldl (serviceSystem platform).advance ⟨store, []⟩ =
      ⟨ServiceCall.complete platform store given, []⟩ := by
  obtain ⟨answer, call⟩ := given
  cases call with
  | sending call => exact uploads_complete answer call
  | receiving call => exact deliveries_complete answer call
  | occupancy call => exact occupancy_complete answer call
  | session call => exact sessions_complete answer call
  | admin call => exact admins_complete answer call
  | checked call => exact checked_alone answer call
  | cleanup call =>
      cases call with
      | deleteMessages dto => exact deleteMessages_alone answer dto
      | deleteMessagesJob => exact deleteMessagesJob_alone answer
  | action made => rfl

/-- A run in which every call returns before the next one starts is a run of the interleaved service. -/
theorem service_runs_sequences (calls : List (DeliveryAnswer × ServiceCall)) (start : Store) :
    (calls.flatMap ServiceCall.turns).foldl (serviceSystem platform).advance ⟨start, []⟩ =
      ⟨calls.foldl (ServiceCall.complete platform) start, []⟩ := by
  induction calls generalizing start with
  | nil => rfl
  | cons given rest ih =>
      rw [List.flatMap_cons, List.foldl_append, ServiceCall.turns_complete]
      exact ih (ServiceCall.complete platform start given)

end Alone

end Messinger
