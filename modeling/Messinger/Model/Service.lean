/-
This file joins the calls of the whole service, one committed step at a time. What a call has read may be out of
date when its next step runs, and the calls of all users take their steps in any order.
-/
import Messinger.Model.AdminTasks
import Messinger.Model.DeliveryTasks
import Messinger.Model.PrivateTasks
import Messinger.Model.SessionTasks
import Messinger.Model.System

namespace Messinger
open Library ConversationService MessageService AuthService

/-- These calls check rows before the one transaction in which they write. -/
inductive CheckedCall where
  | group (call : GroupCall)
  | deleteGroup (userId conversationId : Uuid)
  | signin (client : ClientInfo) (dto : SignInDto)
  | adminSignIn (client : ClientInfo) (dto : AdminDto)

/-- Each task stands before the write of a call that has passed its checks. -/
inductive CheckedTask where
  | createInvitation (actorId : Uuid) (dto : InviteGroupMemberDto)
  | acceptInvitation (conversationId userId : Uuid) (member : Option ConversationMember)
  | rejectInvitation (conversationId userId : Uuid)
  | expireInvitation (conversationId userId : Uuid)
  | removeMember (conversationId actorId targetUserId : Uuid) (eventType : ConversationEventType)
  | transferOwnership (prevOwner : Uuid) (dto : TransferOwnershipDto)
  | deleteConversation (conversationId : Uuid)
  | openSession (client : ClientInfo) (user : User)

namespace CheckedTask

/-- A check that throws ends its call. -/
def after {A : Type} (checks : Except Exception A) (task : A → CheckedTask) : Option CheckedTask :=
  match checks with
  | .error _ => none
  | .ok value => some (task value)

def ofGroup (env : Env) (store : Store) : GroupCall → Option CheckedTask
  | .createGroup _ _ => none
  | .validateGroupInvitation actorId dto =>
      after (validateGroupInvitationChecks store actorId dto) fun _ => .createInvitation actorId dto
  | .acceptGroupInvitation conversationId userId =>
      after (acceptGroupInvitationChecks env.scan store conversationId userId) fun rows =>
        if isAfter env.now rows.invitation.expiresAt then .expireInvitation conversationId userId
        else .acceptInvitation conversationId userId rows.member
  | .rejectGroupInvitation conversationId userId =>
      (GroupInvitationRepository.findOne env.scan store conversationId userId).map fun invitation =>
        if isAfter env.now invitation.expiresAt then .expireInvitation conversationId userId
        else .rejectInvitation conversationId userId
  | .leaveGroup userId conversationId =>
      after (leaveGroupChecks store userId conversationId) fun _ =>
        .removeMember conversationId userId userId .memberLeft
  | .removeGroupMember userId dto =>
      after (removeGroupMemberChecks store userId dto) fun _ =>
        .removeMember dto.conversationId userId (parseUuid dto.targetUserId) .memberRemoved
  | .transferGroupOwnership prevOwner dto =>
      after (transferGroupOwnershipChecks store prevOwner dto) fun _ => .transferOwnership prevOwner dto

/-- Creating a group has nothing to check. -/
def start (platform : Platform) (store : Store) (call : Env × CheckedCall) : Store × Option CheckedTask :=
  match call.2 with
  | .group (.createGroup ownerId dto) => ((createGroup call.1 ownerId dto store).2, none)
  | .group other => (store, ofGroup call.1 store other)
  | .deleteGroup userId conversationId =>
      (store, after (deleteGroupChecks store userId conversationId) fun _ => .deleteConversation conversationId)
  | .signin client dto => (store, after (signinChecks platform store dto) (.openSession client))
  | .adminSignIn client dto =>
      (store, after (adminSignInChecks platform call.1.scan store dto) (.openSession client))

def resume (platform : Platform) (store : Store) (task : CheckedTask) (env : Env) : Store :=
  match task with
  | .createInvitation actorId dto =>
      (transaction (env.succeeds 0) store fun current => do
        let next ← GroupInvitationRepository.createInvitation env.now dto.conversationId actorId
          (parseUuid dto.targetUserId) (addHours (jsDate env.now) 24) current
        return ((), next)).2
  | .acceptInvitation conversationId userId member =>
      (transaction (env.succeeds 0) store
        (acceptGroupInvitationBody env.now member conversationId userId)).2
  | .rejectInvitation conversationId userId =>
      (transaction (env.succeeds 0) store fun current =>
        .ok ((), GroupInvitationRepository.rejectInvitation conversationId userId current)).2
  | .expireInvitation conversationId userId =>
      (ConversationService.expireInvitation env conversationId userId (A := Unit) store).2
  | .removeMember conversationId actorId targetUserId eventType =>
      (transaction (env.succeeds 0) store
        (removeMemberFromGroup env.now conversationId actorId targetUserId eventType)).2
  | .transferOwnership prevOwner dto =>
      (transaction (env.succeeds 0) store (transferGroupOwnershipBody env.now prevOwner dto)).2
  | .deleteConversation conversationId =>
      (transaction (env.succeeds 0) store fun current =>
        .ok ((), ConversationRepository.deleteConversation conversationId current)).2
  | .openSession client user => (AuthService.openSession platform env client user store).2

end CheckedTask

/-- A request and the cleanup job delete messages and files, in opposite orders. -/
inductive CleanupCall where
  | deleteMessages (dto : DeleteMessagesDto)
  | deleteMessagesJob

inductive CleanupTask where
  | deleteFiles (storageKeys : List StorageKey)
  | emptyBucket (cutoff : Nat) (storageKeys : List StorageKey)
  | deleteMessagesOlderThan (cutoff : Nat)

namespace CleanupTask

def start (store : Store) (call : Env × CleanupCall) : Store × Option CleanupTask :=
  match call.2 with
  | .deleteMessages dto =>
      match MessageService.deleteMessages call.1 dto store with
      | (.ok (some messages), next) => (next, some (.deleteFiles (AdminService.storageKeysOf store messages)))
      | (_, next) => (next, none)
  | .deleteMessagesJob =>
      let cutoff := jsDate call.1.now - maxMessageAge
      let messages := MessageRepository.findMessagesToCleanup cutoff store
      (store, if messages = [] then none
        else some (.emptyBucket cutoff (AdminService.storageKeysOf store messages)))

def resume (store : Store) (task : CleanupTask) (env : Env) : Store × Option CleanupTask :=
  match task with
  | .deleteFiles storageKeys =>
      ((StorageService.deleteFiles env storageKeys store).2, none)
  | .emptyBucket cutoff storageKeys =>
      match StorageService.deleteFiles env storageKeys store with
      | (.error _, emptied) => (emptied, none)
      | (.ok _, emptied) => (emptied, some (.deleteMessagesOlderThan cutoff))
  | .deleteMessagesOlderThan cutoff =>
      (if env.succeeds 0 then MessageRepository.deleteMessagesOlderThan cutoff store else store, none)

end CleanupTask

/-- An action whose writes are one committed step needs no task. -/
inductive ServiceCall where
  | sending (call : UploadCall)
  | receiving (call : DeliveryCall)
  | occupancy (call : OccupancyCall)
  | session (call : AuthCall)
  | admin (call : AdminCall)
  | checked (call : CheckedCall)
  | cleanup (call : CleanupCall)
  | action (action : Action)

inductive ServiceTask where
  | sending (task : UploadTask)
  | receiving (task : DeliveryTask)
  | occupancy (task : PrivateTask)
  | session (task : AuthTask)
  | admin (draft : AdminDraft)
  | checked (task : CheckedTask)
  | cleanup (task : CleanupTask)

namespace ServiceTask

def start (platform : Platform) (store : Store) (call : Env × ServiceCall) : Store × Option ServiceTask :=
  match call.2 with
  | .sending sent => (UploadTask.start platform store (call.1, sent)).map id (Option.map .sending)
  | .receiving received => (OfflineSyncService.start store (call.1, received)).map id (Option.map .receiving)
  | .occupancy occupying => (PrivateTask.start platform store (call.1, occupying)).map id (Option.map .occupancy)
  | .session authenticating => (AuthTask.start platform store (call.1, authenticating)).map id (Option.map .session)
  | .admin appointing => (AdminDraft.start platform store (call.1, appointing)).map id (Option.map .admin)
  | .checked checking => (CheckedTask.start platform store (call.1, checking)).map id (Option.map .checked)
  | .cleanup cleaning => (CleanupTask.start store (call.1, cleaning)).map id (Option.map .cleanup)
  | .action action => (act platform store (call.1, action), none)

def resume (platform : Platform) (store : Store) (task : ServiceTask) (answer : DeliveryAnswer) :
    Store × Option ServiceTask :=
  match task with
  | .sending sent => (UploadTask.resume store sent answer.env).map id (Option.map .sending)
  | .receiving received => (OfflineSyncService.resume platform store received answer).map id (Option.map .receiving)
  | .occupancy occupying => (PrivateTask.resume platform store occupying answer.env).map id (Option.map .occupancy)
  | .session authenticating => (AuthTask.resume platform store authenticating answer.env).map id (Option.map .session)
  | .admin draft => (AdminDraft.resume store draft answer.env).map id (Option.map .admin)
  | .checked checking => (CheckedTask.resume platform store checking answer.env, none)
  | .cleanup cleaning => (CleanupTask.resume store cleaning answer.env).map id (Option.map .cleanup)

end ServiceTask

def serviceSystem (platform : Platform) : Cooperative Store (Env × ServiceCall) ServiceTask DeliveryAnswer where
  start := ServiceTask.start platform
  resume := ServiceTask.resume platform

end Messinger
