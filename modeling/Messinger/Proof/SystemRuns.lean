import Messinger.Proof.ConsistentCalls

namespace Messinger
open Library ConversationMemberRepository ConversationRepository ConversationService MessageService
  StorageService

section Runs
variable (platform : Platform)

/-- These routes delete messages, conversations or users. -/
def Route.deletes : Route → Bool
  | .deleteGroup _ => true
  | .deletePrivate _ => true
  | .deleteMessages _ => true
  | .deleteUser _ => true
  | .deleteAdmin _ => true
  | _ => false

/-- This route creates pending uploads. -/
def Route.uploads : Route → Bool
  | .upload _ => true
  | _ => false

/-- The controllers of the other routes leave the content of the conversations, and only one adds uploads. -/
theorem controller_leavesFiles {store : Store} {env : Env} {request : Request} {userId : Uuid}
    (keeps : request.route.deletes = false) (uploads : request.route.uploads = false) :
    LeavesFiles store (controller platform env request userId store).2 := by
  have step := controllerStep platform env request userId store
  generalize (controller platform env request userId store).2 = next at step ⊢
  cases step with
  | reads => exact .refl store
  | account step => exact step.leavesFiles
  | group step => exact step.leavesFiles
  | signup dto => exact signup_leavesFiles ..
  | createAdmin dto => exact createAdmin_leavesFiles ..
  | upload files route =>
      rw [route] at uploads
      cases uploads
  | resetUnreadMessagesCount conversationId => exact resetUnreadMessagesCount_leavesFiles ..
  | deleteGroup _ route | deletePrivate _ route | deleteMessages _ route | deleteUser _ route | deleteAdmin _ route =>
      rw [route] at keeps
      cases keeps

theorem controller_leavesContent {store : Store} {env : Env} {request : Request} {userId : Uuid}
    (keeps : request.route.deletes = false) :
    LeavesContent store (controller platform env request userId store).2 := by
  by_cases uploads : request.route.uploads = false
  · exact (controller_leavesFiles platform keeps uploads).toLeavesContent
  · unfold controller
    cases route : request.route with
    | upload files => exact answerValid_keeps (.refl store) fun files => answer_keeps (prepareUploads_leavesContent ..)
    | _ =>
        rw [route] at uploads
        exact absurd rfl uploads

/-- Each controller keeps the tables consistent. -/
theorem Consistent.controller {store : Store} (before : Consistent store) (env : Env) (request : Request)
    (userId : Uuid) : Consistent (controller platform env request userId store).2 := by
  have step := controllerStep platform env request userId store
  generalize (Messinger.controller platform env request userId store).2 = next at step ⊢
  cases step with
  | reads => exact before
  | account step => exact step.leavesFiles.consistent before
  | group step => exact step.leavesFiles.consistent before
  | signup dto => exact (signup_leavesFiles ..).consistent before
  | createAdmin dto => exact (createAdmin_leavesFiles ..).consistent before
  | upload files => exact (prepareUploads_leavesContent ..).consistent before
  | resetUnreadMessagesCount conversationId => exact (resetUnreadMessagesCount_leavesFiles ..).consistent before
  | deleteGroup conversationId => exact before.deleteGroup env userId conversationId
  | deletePrivate conversationId => exact before.deletePrivateConversation env userId conversationId
  | deleteMessages dto => exact before.deleteMessagesRequest env dto
  | deleteUser dto => exact before.deleteUser env dto
  | deleteAdmin dto => exact before.deleteAdmin env dto

/-- The middlewares leave the content and keep the tables consistent. -/
theorem runChain_leavesFiles (env : Env) (request : Request) (chain : List Middleware) (store : Store) :
    LeavesFiles store (runChain platform env request chain { store }).2.store := by
  obtain ⟨sessions, same⟩ := runChain_store platform env request chain store
  rw [same]
  exact .of_tables ⟨rfl, rfl, rfl, rfl⟩ rfl rfl rfl (Nat.le_refl _)

/-- Each action keeps the tables consistent. -/
theorem Consistent.act {store : Store} (before : Consistent store) (action : Env × Action) :
    Consistent (act platform store action) := by
  obtain ⟨env, action⟩ := action
  cases action with
  | request exchange =>
      show Consistent (handle platform exchange.middlewareEnv exchange.env exchange.request store).2
      apply handle_keeps
      · exact (runChain_leavesFiles platform exchange.middlewareEnv exchange.request
          exchange.request.route.chain store).consistent before
      · exact fun userId _ chain => chain.controller platform exchange.env exchange.request userId
  | createPrivateMessage senderId dto => exact before.createPrivateMessage platform env senderId dto
  | createGroupMessage senderId dto => exact before.createGroupMessage platform env senderId dto
  | validateGroupInvitation actorId dto =>
      exact (groupStep env (.validateGroupInvitation actorId dto) store).leavesFiles.consistent before
  | acceptGroupInvitation conversationId userId =>
      exact (groupStep env (.acceptGroupInvitation conversationId userId) store).leavesFiles.consistent before
  | rejectGroupInvitation conversationId userId =>
      exact (groupStep env (.rejectGroupInvitation conversationId userId) store).leavesFiles.consistent before
  | confirmDelivery userId dto => exact before.confirmDelivery env userId dto
  | updateLastSeenAt userId => exact (updateLastSeenAt_accountStep env store userId).leavesFiles.consistent before
  | syncPendingMessages connected userId => exact before.syncPendingMessages platform env connected userId
  | removeInvalidSubscription endpoint =>
      exact (unsubscribeWeb_accountStep env store endpoint).leavesFiles.consistent before
  | putObject storageKey => exact before.withBucket _
  | deleteMessagesJob => exact before.deleteMessagesJob env
  | adminSeed => exact (adminSeed_leavesFiles platform env store).consistent before

/-- The tables of every reachable store fit together. -/
theorem Reachable.consistent {platform : Platform} {store : Store} (reachable : Reachable platform store) :
    Consistent store := by
  obtain ⟨actions, rfl⟩ := reachable
  apply run_invariant (Messinger.act platform) Consistent
  · exact fun _ action before => before.act platform action
  · exact
      { messages := ⟨List.nodup_nil, fun _ inside => absurd inside List.not_mem_nil⟩
        files := by constructor <;> simp
        governed := governed_emptyStore holdersActive_office [] [] [] 0 }

end Runs

end Messinger
