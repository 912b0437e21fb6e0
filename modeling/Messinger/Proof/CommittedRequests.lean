import Messinger.Proof.CommittedCalls

namespace Messinger
open Library SessionRepository UserRepository ConversationService MessageService StorageService AuthService
  PushSubscriptionService

section Accounts
variable (platform : Platform) (env : Env) {store : Store}

variable {platform env} in
theorem saveUser_outcome {row : User} {result : Except Exception User} {next : Store} (id : row.id = store.nextId)
    (done : saveUser env row store = (result, next)) : Committed platform store next := by
  have saved := @saveUser_writes platform store env row id
  rw [done] at saved
  exact saved

theorem signup_committed (dto : SignUpDto) : Committed platform store (signup platform env dto store).2 := by
  unfold signup
  simp only
  split
  · next failed => exact saveUser_outcome rfl failed
  · next done => exact saveUser_outcome rfl done

theorem createAdmin_committed (dto : AdminDto) : Committed platform store (createAdmin platform env dto store).2 := by
  unfold createAdmin
  split
  · exact .refl
  · exact saveUser_writes env _ rfl

theorem adminSeed_committed : Committed platform store (adminSeed platform env store).2 := by
  unfold adminSeed
  split
  · exact .refl
  · split
    · next failed => exact saveUser_outcome rfl failed
    · next done => exact saveUser_outcome rfl done

theorem openSession_committed (client : ClientInfo) (user : User) :
    Committed platform store (openSession platform env client user store).2 := by
  rw [openSession_store]
  exact createSession_writes env _

theorem signin_committed (client : ClientInfo) (dto : SignInDto) :
    Committed platform store (signin platform env client dto store).2 :=
  guarded_keeps .refl fun user => openSession_committed platform env client user

theorem adminSignIn_committed (client : ClientInfo) (dto : AdminDto) :
    Committed platform store (adminSignIn platform env client dto store).2 :=
  guarded_keeps .refl fun admin => openSession_committed platform env client admin

theorem logout_committed (refreshToken : Text) :
    Committed platform store (AuthService.logout platform env refreshToken store).2 := by
  unfold AuthService.logout
  split
  · exact .refl
  · next session found =>
      split
      · exact .refl
      · split
        · exact .single (revokeSession_write session.id .logout)
        · exact .refl

theorem restoreUserLoginKey_committed (dto : UserDto) :
    Committed platform store (AdminService.restoreUserLoginKey platform env dto store).2 := by
  unfold AdminService.restoreUserLoginKey
  simp only
  split
  · next free =>
      refine .single (.restoreLoginKey dto.userId _ (generateLoginKeyLookup platform
        (generateRandomString env.draw loginKeyLength)) ?_ ?_)
      · intro user
        funext column
        cases column <;> rfl
      · rw [Bool.and_eq_true_iff, Bool.not_eq_true', Bool.and_eq_false_iff] at free
        intro present user inside different same
        obtain missing | taken := free.2
        · rw [missing] at present
          cases present
        · refine List.any_eq_false.mp taken user inside ?_
          rw [Bool.and_eq_true_iff, bne_iff_ne, beq_iff_eq]
          exact ⟨different, same⟩
  · exact .refl

variable {platform}

theorem updateAdminPassword_committed (userId : Uuid) (password : Text) :
    Committed platform store (AdminService.updateAdminPassword platform env userId password store).2 := by
  refine transaction_writes fun _ _ done => ?_
  cases done
  exact .single (.updateUser userId _ fun _ => rfl)

theorem updateLastSeenAt_committed (userId : Uuid) :
    Committed platform store (UserService.updateLastSeenAt env userId store).2 := by
  unfold UserService.updateLastSeenAt
  split
  · exact .single (.updateUser userId _ fun _ => rfl)
  · exact .refl

theorem subscribeWeb_committed (userId : Uuid) (dto : WebPushSubscriptionDto) :
    Committed platform store (subscribeWeb env userId dto store).2 := by
  refine transaction_writes fun _ _ done => ?_
  unfold subscribeWebBody at done
  split at done
  · cases done
    exact .single (.updateSubscriptions _ _ fun _ => rfl)
  · split at done
    · next present =>
        cases done
        exact .single (.insertSubscription _ rfl present)
    · cases done

theorem unsubscribeWeb_committed (endpoint : Text) :
    Committed platform store (unsubscribeWeb env endpoint store).2 := by
  refine transaction_writes fun _ _ done => ?_
  cases done
  exact .single (.deleteSubscriptions _)

end Accounts

section Middlewares
variable (platform : Platform) (env : Env) {store : Store}

namespace Authentication

theorem caught_committed (sessionId : Uuid) (reason : SessionRevokeReason) :
    Committed platform store (caught env sessionId reason store).store := by
  unfold caught
  split
  · exact .single (revokeSession_write sessionId reason)
  · exact .refl

theorem withPayload_committed (headers : Headers) (refreshToken : Text) (session : Session) (payload : Payload) :
    Committed platform store (withPayload platform env headers refreshToken session payload store).store := by
  have rotates := @rotateSession_writes platform store (env.succeeds 3) env.now session.id
    payload.roles refreshToken
  unfold withPayload
  split
  · split
    · exact .single (revokeAllSessions_write payload.sub)
    · exact caught_committed platform env session.id .invalid
  · split
    · split
      · exact .single (revokeSession_write session.id .expired)
      · exact caught_committed platform env session.id .invalid
    · split
      · next failed =>
          rw [failed] at rotates
          exact rotates.trans (caught_committed platform env session.id .invalid)
      · next missed =>
          rw [missed] at rotates
          exact rotates
      · next done =>
          rw [done] at rotates
          exact rotates

theorem withSession_committed (headers : Headers) (refreshToken : Text) (session : Session) :
    Committed platform store (withSession platform env headers refreshToken session store).store := by
  unfold withSession
  split
  · exact withPayload_committed platform env headers refreshToken session _
  · exact caught_committed platform env session.id .expired
  · exact caught_committed platform env session.id .invalid

theorem refresh_committed (cookies : Cookies) (headers : Headers) :
    Committed platform store (refresh platform env cookies headers store).store := by
  unfold refresh
  split
  · exact .refl
  · exact .refl
  · split
    · split
      · exact .refl
      · exact withSession_committed platform env headers _ _
    · exact .refl

end Authentication

theorem authenticate_committed (cookies : Cookies) (headers : Headers) :
    Committed platform store (authenticate platform env cookies headers store).store := by
  unfold authenticate
  split
  · exact Authentication.refresh_committed platform env cookies headers
  · split
    · exact .refl
    · exact Authentication.refresh_committed platform env cookies headers
    · exact .refl

theorem runChain_committed (request : Request) (chain : List Middleware) :
    Committed platform store (runChain platform env request chain { store }).2.store := by
  refine runChain_invariant (fun progress => Committed platform store progress.store) ?_ chain _ .refl
  intro progress middleware before
  obtain unchanged | ⟨written, -, -⟩ := runMiddleware_progress platform env request progress middleware
  · rw [unchanged]
    exact before
  · rw [written]
    exact before.trans (authenticate_committed platform env request.cookies request.headers)

end Middlewares

section Requests
variable (platform : Platform) (env : Env) {store : Store}

theorem controllerLogout_committed (request : Request) :
    Committed platform store (Controllers.logout platform env request store).2 := by
  unfold Controllers.logout
  split
  · exact .refl
  · exact .refl
  · exact answer_keeps (logout_committed platform env _)

/-- Each controller runs the one service call of its route. -/
theorem controller_committed (rooted : Rooted store) (request : Request) (userId : Uuid) :
    Committed platform store (controller platform env request userId store).2 := by
  unfold controller
  cases request.route with
  | signIn dto => exact answerValid_keeps .refl fun dto => answer_keeps (signin_committed ..)
  | mobileSignIn dto => exact answerValid_keeps .refl fun dto => answer_keeps (signin_committed ..)
  | signUp role username => exact answerValid_keeps .refl fun dto => answer_keeps (signup_committed ..)
  | logout => exact controllerLogout_committed platform env request
  | me => exact answerRead_keeps .refl
  | refresh => exact .refl
  | upload files => exact answerValid_keeps .refl fun files => answer_keeps (prepareUploads_committed ..)
  | download attachmentId =>
      refine answerValid_keeps .refl fun attachmentId => ?_
      unfold Controllers.downloadAttachment
      split
      · exact .refl
      · split <;> exact .refl
  | userCode code =>
      refine answerValid_keeps .refl fun code => ?_
      split <;> exact .refl
  | conversationList dto => exact answerValid_keeps .refl fun dto => answerRead_keeps .refl
  | leaveGroup conversationId =>
      exact answerValid_keeps .refl fun conversationId =>
        answer_keeps (groupCall_committed env rooted (.leaveGroup userId conversationId))
  | messages dto => exact answerValid_keeps .refl fun dto => answerRead_keeps .refl
  | createGroup dto =>
      exact answerValid_keeps .refl fun dto => answer_keeps (groupCall_committed env rooted (.createGroup userId dto))
  | transferOwnership dto =>
      exact answerValid_keeps .refl fun dto =>
        answer_keeps (groupCall_committed env rooted (.transferGroupOwnership userId dto))
  | removeGroupMember dto =>
      exact answerValid_keeps .refl fun dto =>
        answer_keeps (groupCall_committed env rooted (.removeGroupMember userId dto))
  | deleteGroup conversationId =>
      exact answerValid_keeps .refl fun conversationId => answer_keeps (deleteGroup_committed ..)
  | deletePrivate conversationId =>
      exact answerValid_keeps .refl fun conversationId => answer_keeps (deletePrivateConversation_committed ..)
  | deleteMessages dto => exact answerValid_keeps .refl fun dto => deleteMessagesRequest_committed env dto
  | resetUnreadMessagesCount conversationId =>
      exact answerValid_keeps .refl fun conversationId => answer_keeps (resetUnreadMessagesCount_committed ..)
  | adminSignIn adminName password =>
      exact answerValid_keeps .refl fun dto => answer_keeps (adminSignIn_committed ..)
  | createAdmin adminName password =>
      exact answerValid_keeps .refl fun dto => answer_keeps (createAdmin_committed ..)
  | restoreLoginKey dto => exact answerValid_keeps .refl fun dto => answer_keeps (restoreUserLoginKey_committed ..)
  | deleteUser dto => exact answerValid_keeps .refl fun dto => answer_keeps (deleteUser_committed ..)
  | deleteAdmin dto => exact answerValid_keeps .refl fun dto => answer_keeps (deleteAdmin_committed ..)
  | listAdmins dto => exact answerValid_keeps .refl fun dto => .refl
  | listUsers dto => exact answerValid_keeps .refl fun dto => .refl
  | listUserConversations listed dto => exact answerValid_keeps .refl fun dto => .refl
  | listConversationMessages listed dto => exact answerValid_keeps .refl fun dto => answerRead_keeps .refl
  | updatePassword password =>
      exact answerValid_keeps .refl fun password => answer_keeps (updateAdminPassword_committed ..)
  | subscribeWeb dto => exact answerValid_keeps .refl fun dto => answer_keeps (subscribeWeb_committed ..)
  | unsubscribeWeb endpoint =>
      exact answerValid_keeps .refl fun endpoint => answer_keeps (unsubscribeWeb_committed ..)

theorem handle_committed (rooted : Rooted store) (middlewareEnv : Env) (request : Request) :
    Committed platform store (handle platform middlewareEnv env request store).2 :=
  handle_keeps (runChain_committed platform middlewareEnv request request.route.chain) fun userId _ before =>
    before.trans (controller_committed platform env (before.keeps rooted fun _ _ => Write.rooted) request userId)

/-- Each action of the system makes some of the writes. -/
theorem act_committed (rooted : Rooted store) (action : Env × Action) :
    Committed platform store (act platform store action) := by
  obtain ⟨env, action⟩ := action
  cases action with
  | request exchange => exact handle_committed platform exchange.env rooted exchange.middlewareEnv exchange.request
  | createPrivateMessage senderId dto => exact createPrivateMessage_committed platform env rooted senderId dto
  | createGroupMessage senderId dto => exact createGroupMessage_committed platform env rooted senderId dto
  | validateGroupInvitation actorId dto => exact groupCall_committed env rooted (.validateGroupInvitation actorId dto)
  | acceptGroupInvitation conversationId userId =>
      exact groupCall_committed env rooted (.acceptGroupInvitation conversationId userId)
  | rejectGroupInvitation conversationId userId =>
      exact groupCall_committed env rooted (.rejectGroupInvitation conversationId userId)
  | confirmDelivery userId dto => exact confirmDelivery_committed env userId dto
  | updateLastSeenAt userId => exact updateLastSeenAt_committed env userId
  | syncPendingMessages connected userId => exact syncPendingMessages_committed env connected userId
  | removeInvalidSubscription endpoint => exact unsubscribeWeb_committed env endpoint
  | putObject storageKey => exact .single (.writeBucket _)
  | deleteMessagesJob => exact deleteMessagesJob_committed env
  | adminSeed => exact adminSeed_committed platform env

end Requests

end Messinger
