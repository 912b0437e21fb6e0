import Messinger.Proof.ConversationDeletions
import Messinger.Proof.Serving

namespace Messinger
open Library ConversationMemberRepository ConversationRepository ConversationService MessageService
  StorageService

section Requests
variable {platform : Platform} {store : Store} {middlewareEnv env : Env} {request : Request}
  {conversationId userId : Uuid}

/-- The routes that delete are reserved to users or to admins. -/
theorem Route.deletes_chain {route : Route} (deletes : route.deletes = true) :
    route.chain = userChain ∨ route.chain = adminChain := by
  cases route with
  | deleteGroup _ | deletePrivate _ | deleteMessages _ => exact .inl rfl
  | deleteUser _ | deleteAdmin _ => exact .inr rfl
  | _ => cases deletes

/-- The controllers that delete for users leave a conversation of others, but for one deletion. -/
theorem deleting_controller_contentOf (before : Consistent store)
    (stranger : existsMember store conversationId userId = false)
    (deletes : request.route.deletes = true) (reserved : request.route.chain = userChain)
    (harmless : ∀ dto, request.route = .deleteMessages (some dto) → env.succeeds 0 = true →
      ∀ message ∈ store.messages, dto.names message = true → message.conversationId ≠ conversationId) :
    contentOf (controller platform env request userId store).2 conversationId =
      contentOf store conversationId := by
  unfold controller
  cases route : request.route with
  | deleteGroup other =>
      cases other with
      | none => rfl
      | some other =>
          simp only [answerValid, answer_store]
          exact contentOf_deleteGroup before other stranger
  | deletePrivate other =>
      cases other with
      | none => rfl
      | some other =>
          simp only [answerValid, answer_store]
          exact contentOf_deletePrivate before other stranger
  | deleteMessages dto =>
      cases dto with
      | none => rfl
      | some dto => exact contentOf_deleteMessagesRequest before dto (harmless dto route)
  | deleteUser _ | deleteAdmin _ =>
      rw [route] at reserved
      cases reserved
  | _ => exact absurd deletes (by rw [route]; exact Bool.false_ne_true)

/-- The request authenticates and deletes a stored message of the conversation by its identifier. -/
structure DeletesMessageOf (platform : Platform) (middlewareEnv env : Env) (request : Request)
    (store : Store) (conversationId : Uuid) : Prop where
  authenticates : ∃ locals,
    (authenticate platform middlewareEnv request.cookies request.headers store).result = .ok locals
  commits : env.succeeds 0 = true
  names : ∃ dto, request.route = .deleteMessages (some dto) ∧
    ∃ message ∈ store.messages, message.conversationId = conversationId ∧ dto.names message = true

/-- A request of a user that reaches a deleting controller reaches one for users, with the user's identifier. -/
theorem deleting_request_ofUser {progress : Progress}
    (ofUser : ∀ locals,
      (authenticate platform middlewareEnv request.cookies request.headers store).result = .ok locals →
        locals = { userId, roles := [.user] })
    (deletes : request.route.deletes = true)
    (passed : runChain platform middlewareEnv request request.route.chain { store } = (.ok (), progress)) :
    request.route.chain = userChain ∧ progress.locals = some { userId, roles := [.user] } := by
  obtain chain | chain := Route.deletes_chain deletes
  · rw [chain] at passed
    obtain ⟨locals, passes, -, found, -⟩ := runChain_ok passed
    rw [ofUser locals passes] at found
    exact ⟨chain, found⟩
  · rw [chain] at passed
    obtain ⟨locals, passes, ⟨role, inside, permitted⟩, -, -⟩ := runChain_ok passed
    rw [ofUser locals passes] at inside
    rw [List.mem_singleton.mp inside] at permitted
    exact absurd permitted (by decide)

/-- A user changes a conversation of others exactly by deleting its messages by their identifiers. -/
theorem stranger_request_iff (reachable : Reachable platform store)
    (ofUser : ∀ locals,
      (authenticate platform middlewareEnv request.cookies request.headers store).result = .ok locals →
        locals = { userId, roles := [.user] })
    (stranger : existsMember store conversationId userId = false) :
    contentOf (handle platform middlewareEnv env request store).2 conversationId =
        contentOf store conversationId ↔
      ¬ DeletesMessageOf platform middlewareEnv env request store conversationId := by
  have before := reachable.consistent
  obtain ⟨sessions, between⟩ := runChain_store platform middlewareEnv request request.route.chain store
  have chain := runChain_leavesFiles platform middlewareEnv request request.route.chain store
  constructor
  · rintro same ⟨⟨locals, passes⟩, commits, dto, route, message, stored, place, named⟩
    have passing : ∃ progress,
        runChain platform middlewareEnv request request.route.chain { store } = (.ok (), progress) := by
      have user : UserRole.user ∈ locals.roles := by
        rw [ofUser locals passes]
        exact List.mem_singleton_self _
      have accepted : request.route.accepted = true := by
        rw [route]
        rfl
      have shape : request.route.chain = userChain := by
        rw [route]
        rfl
      rw [shape]
      exact runChain_passes passes ⟨.user, user, List.mem_singleton_self _⟩ accepted
    obtain ⟨progress, passed⟩ := passing
    have handled : (handle platform middlewareEnv env request store).2 =
        (Controllers.deleteMessages env dto progress.store).2 := by
      unfold handle
      rw [passed]
      simp only
      unfold controller
      rw [route]
      rfl
    rw [passed] at chain between
    simp only at chain between
    rw [handled, ← chain.same.contentOf conversationId] at same
    have present : message ∈ progress.store.messages := by
      rw [between]
      exact stored
    exact contentOf_deleteMessagesRequest_ne dto commits present place named same
  · intro harmless
    obtain ⟨exception, progress, failed, same⟩ | ⟨progress, passed, same⟩ :=
      handle_cases platform middlewareEnv env request store
    · rw [failed] at chain
      rw [same]
      exact chain.same.contentOf conversationId
    · rw [passed] at chain between
      simp only at chain between
      rw [same, ← chain.same.contentOf conversationId]
      have outside : existsMember progress.store conversationId userId = false := by
        rw [between]
        exact stranger
      cases deletes : request.route.deletes with
      | false => exact (controller_leavesContent platform deletes).same.contentOf conversationId
      | true =>
          obtain ⟨reserved, found⟩ := deleting_request_ofUser ofUser deletes passed
          rw [found]
          refine deleting_controller_contentOf (chain.consistent before) outside deletes reserved ?_
          intro dto route commits message present named place
          rw [reserved] at passed
          obtain ⟨locals, passes, -⟩ := runChain_ok passed
          rw [between] at present
          exact harmless ⟨⟨locals, passes⟩, commits, dto, route, message, present, place, named⟩

/-- Each account of the run gets its own login key from the draws of its sign-up. -/
def clock (seconds draws : Nat) : Env := { now := seconds * 1000000, draw := fun index => draws + index }

def requestAt (seconds draws : Nat) (request : Request) : Env × Action :=
  (clock seconds draws,
    .request { client := 1, middlewareEnv := clock seconds draws, env := clock seconds draws, request })

def strangersLoginKey : Text := ['N', 'P', 'Q', 'R', 'S', 'T', 'U', 'V', 'W', 'X']

/-- Users 0, 1 and 2 sign up, user 2 signs in, and user 0 writes message 5 to user 1. -/
def strangersRun : List (Env × Action) :=
  [requestAt 1 0 { route := .signUp none (some ['a', 'n', 'n']) },
   requestAt 2 1 { route := .signUp none (some ['b', 'o', 'b']) },
   requestAt 3 2 { route := .signUp none (some ['e', 'v', 'e']) },
   requestAt 4 0 { route := .signIn (some { loginKey := strangersLoginKey }) },
   (clock 5 0, .createPrivateMessage 0 { receiverId := uuidText 1, content := [104], attachments := [] })]

def strangersStore : Store := strangersRun.foldl (act plainPlatform) {}

/-- These are the tokens of user 2, whose session has the identifier 3. -/
def strangersTokens : Tokens :=
  SessionRepository.signTokens plainPlatform 4000000 { sub := 2, roles := [.user], sid := 3 }

/-- User 2 deletes messages of the private conversation 4 between users 0 and 1. -/
def strangersRequest (messagesIds : List Uuid) : Request where
  cookies := { accessToken := some (.text strangersTokens.accessToken), refreshToken := none }
  route := .deleteMessages (some { conversationId := 4, messagesIds })

theorem strangersRequest_ofUser (messagesIds : List Uuid) (locals : Locals)
    (passes : (authenticate plainPlatform (clock 6 0) (strangersRequest messagesIds).cookies
      (strangersRequest messagesIds).headers strangersStore).result = .ok locals) :
    locals = { userId := 2, roles := [.user] } := by
  have accepted : (authenticate plainPlatform (clock 6 0) (strangersRequest messagesIds).cookies
      (strangersRequest messagesIds).headers strangersStore).result =
        .ok { userId := 2, roles := [.user] } := rfl
  rw [accepted] at passes
  cases passes
  rfl

/-- The request of user 2 changes nothing when it names no stored message. -/
theorem strangersRequest_leaves_unnamed :
    contentOf (handle plainPlatform (clock 6 0) (clock 6 0) (strangersRequest [6]) strangersStore).2 4 =
      contentOf strangersStore 4 := by
  refine (stranger_request_iff ⟨strangersRun, rfl⟩ (strangersRequest_ofUser [6]) (by decide)).mpr ?_
  rintro ⟨-, -, dto, route, message, stored, -, named⟩
  cases route
  have unnamed : ∀ message ∈ strangersStore.messages,
      DeleteMessagesDto.names { conversationId := 4, messagesIds := [6] } message = false := by
    decide
  rw [unnamed message stored] at named
  cases named

/-- User 2 deletes the message that user 0 wrote to user 1. -/
theorem stranger_deletes_message :
    Reachable plainPlatform strangersStore ∧
      (∃ user ∈ strangersStore.users, user.id = 2 ∧ user.role = .user) ∧
      (∀ locals, (authenticate plainPlatform (clock 6 0) (strangersRequest [5]).cookies
        (strangersRequest [5]).headers strangersStore).result = .ok locals →
          locals = { userId := 2, roles := [.user] }) ∧
      existsMember strangersStore 4 2 = false ∧
      contentOf (handle plainPlatform (clock 6 0) (clock 6 0) (strangersRequest [5]) strangersStore).2 4 ≠
        contentOf strangersStore 4 :=
  ⟨⟨strangersRun, rfl⟩, by decide, strangersRequest_ofUser [5], by decide, by decide⟩

end Requests

end Messinger
