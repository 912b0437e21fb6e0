import Messinger.Proof.TokenFlow

namespace Messinger
open Library SessionRepository AuthService

/-- The request signs in to the account with a login key, or with a name and a password. -/
inductive SignsInTo (platform : Platform) (env : Env) (store : Store) (request : Request) : User → Prop where
  | loginKey {dto : SignInDto} {user : User}
      (route : request.route = .signIn (some dto) ∨ request.route = .mobileSignIn (some dto))
      (checked : signinChecks platform store dto = .ok user) : SignsInTo platform env store request user
  | password {adminName password : Option Text} {dto : AdminDto} {admin : User}
      (route : request.route = .adminSignIn adminName password)
      (accepted : adminDto adminName password = some dto)
      (checked : adminSignInChecks platform env.scan store dto = .ok admin) :
      SignsInTo platform env store request admin

section Accounts
variable {platform : Platform} {env : Env} {store : Store} {dto : SignInDto} {credentials : AdminDto}
  {account : User}

theorem signinChecks_mem (checked : signinChecks platform store dto = .ok account) :
    account ∈ store.users := by
  unfold signinChecks at checked
  split at checked
  · next user found =>
      obtain ⟨valid, -, rest⟩ := ok_of_bind checked
      split at rest
      · cases rest
      · cases rest
        exact (lookup_mem User.loginKeyLookup found).1
  · cases checked

theorem adminSignInChecks_mem
    (checked : adminSignInChecks platform env.scan store credentials = .ok account) :
    account ∈ store.users := by
  unfold adminSignInChecks at checked
  split at checked
  · next admin found =>
      obtain ⟨valid, -, rest⟩ := ok_of_bind checked
      split at rest
      · cases rest
      · cases rest
        exact (List.mem_filter.mp (pickRow_mem found)).1
  · cases checked

/-- Only a row of the table is signed in to. -/
theorem SignsInTo.mem {request : Request} (signsIn : SignsInTo platform env store request account) :
    account ∈ store.users := by
  cases signsIn with
  | loginKey route checked => exact signinChecks_mem checked
  | password route accepted checked => exact adminSignInChecks_mem checked

end Accounts

section Tokens
variable {platform : Platform} {env : Env} {store next : Store} {client : ClientInfo}

theorem createSession_ok {params : CreateSessionParams} {tokens : Tokens}
    (created : createSession platform env params store = (.ok tokens, next)) :
    tokens = signTokens platform env.now
      { sub := params.userId, roles := params.roles, sid := store.nextId } := by
  rcases createSession_cases platform env params store with failed | stored
  · rw [failed] at created
    cases created
  · rw [stored] at created
    cases created
    rfl

theorem openSession_ok {user : User} {result : User × Tokens}
    (opened : openSession platform env client user store = (.ok result, next)) :
    ∀ token ∈ result.2.texts, SignedWith platform [user.role] token := by
  unfold openSession at opened
  split at opened
  · cases opened
  · next tokens last created =>
      cases opened
      intro token pair
      have pair : token ∈ tokens.texts := pair
      rw [createSession_ok created] at pair
      exact ⟨env.now, _, rfl, pair⟩

theorem signin_ok {dto : SignInDto} {result : User × Tokens}
    (signed : signin platform env client dto store = (.ok result, next)) :
    ∃ user, signinChecks platform store dto = .ok user ∧
      ∀ token ∈ result.2.texts, SignedWith platform [user.role] token := by
  obtain ⟨exception, failed⟩ | ⟨user, checked, same⟩ := guarded_cases store
    (signinChecks platform store dto) fun user => openSession platform env client user store
  · rw [signin, failed] at signed
    cases signed
  · rw [signin, same] at signed
    exact ⟨user, checked, openSession_ok signed⟩

theorem adminSignIn_ok {dto : AdminDto} {result : User × Tokens}
    (signed : adminSignIn platform env client dto store = (.ok result, next)) :
    ∃ admin, adminSignInChecks platform env.scan store dto = .ok admin ∧
      ∀ token ∈ result.2.texts, SignedWith platform [admin.role] token := by
  obtain ⟨exception, failed⟩ | ⟨admin, checked, same⟩ := guarded_cases store
    (adminSignInChecks platform env.scan store dto) fun admin => openSession platform env client admin store
  · rw [adminSignIn, failed] at signed
    cases signed
  · rw [adminSignIn, same] at signed
    exact ⟨admin, checked, openSession_ok signed⟩

end Tokens

section Replies
variable {A : Type} {store : Store}

/-- An answer hands out tokens only where the service returns a value. -/
theorem answer_tokens {outcome : Outcome A} {render : A → Reply} {token : Text}
    (handed : token ∈ (answer outcome render).1.tokens) :
    ∃ value next, outcome = (.ok value, next) ∧ token ∈ (render value).tokens := by
  obtain ⟨result, next⟩ := outcome
  cases result with
  | error exception => cases handed
  | ok value => exact ⟨value, next, rfl, handed⟩

theorem answerValid_tokens {dto : Option A} {respond : A → Reply × Store} {token : Text}
    (handed : token ∈ (answerValid store dto respond).1.tokens) :
    ∃ value, dto = some value ∧ token ∈ (respond value).1.tokens := by
  cases dto with
  | none => cases handed
  | some value => exact ⟨value, rfl, handed⟩

/-- Answers without tokens hand out none. -/
theorem answer_silent {outcome : Outcome A} {render : A → Reply} {token : Text}
    (silent : ∀ value, (render value).tokens = []) : token ∉ (answer outcome render).1.tokens := by
  intro handed
  obtain ⟨value, next, -, present⟩ := answer_tokens handed
  rw [silent value] at present
  cases present

theorem answerValid_silent {dto : Option A} {respond : A → Reply × Store} {token : Text}
    (silent : ∀ value, token ∉ (respond value).1.tokens) :
    token ∉ (answerValid store dto respond).1.tokens := by
  intro handed
  obtain ⟨value, -, present⟩ := answerValid_tokens handed
  exact silent value present

end Replies

theorem logout_silent {platform : Platform} {env : Env} {request : Request} {store : Store} {token : Text} :
    token ∉ (Controllers.logout platform env request store).1.tokens := by
  unfold Controllers.logout
  split
  · exact List.not_mem_nil
  · exact List.not_mem_nil
  · exact answer_silent fun _ => rfl

theorem deleteMessages_silent {env : Env} {dto : DeleteMessagesDto} {store : Store} {token : Text} :
    token ∉ (Controllers.deleteMessages env dto store).1.tokens := by
  unfold Controllers.deleteMessages
  split
  · exact List.not_mem_nil
  · exact List.not_mem_nil
  · exact answer_silent fun _ => rfl

theorem downloadAttachment_silent {env : Env} {attachmentId : Uuid} {store : Store} {token : Text} :
    token ∉ (Controllers.downloadAttachment env attachmentId store).1.tokens := by
  unfold Controllers.downloadAttachment
  split
  · exact List.not_mem_nil
  · split <;> exact List.not_mem_nil

/-- A controller hands out tokens only for an account that the request signs in to. -/
theorem controller_tokens {platform : Platform} {env : Env} {request : Request} {userId : Uuid}
    {store : Store} {token : Text}
    (handed : token ∈ (controller platform env request userId store).1.tokens) :
    ∃ account, SignsInTo platform env store request account ∧ SignedWith platform [account.role] token := by
  unfold controller at handed
  -- only the three routes that sign in put tokens in their answers
  cases route : request.route with
  | signIn dto =>
      rw [route] at handed
      obtain ⟨dto, rfl, handed⟩ := answerValid_tokens handed
      obtain ⟨result, next, signed, handed⟩ := answer_tokens handed
      obtain ⟨user, checked, pair⟩ := signin_ok signed
      refine ⟨user, .loginKey (.inl route) checked, pair token ?_⟩
      simpa [Reply.tokens, Controllers.signInReply, CookieChange.texts] using handed
  | mobileSignIn dto =>
      rw [route] at handed
      obtain ⟨dto, rfl, handed⟩ := answerValid_tokens handed
      obtain ⟨result, next, signed, handed⟩ := answer_tokens handed
      obtain ⟨user, checked, pair⟩ := signin_ok signed
      refine ⟨user, .loginKey (.inr route) checked, pair token ?_⟩
      simpa [Reply.tokens, Controllers.mobileSignInReply, CookieChange.texts] using handed
  | adminSignIn adminName password =>
      rw [route] at handed
      obtain ⟨dto, accepted, handed⟩ := answerValid_tokens handed
      obtain ⟨result, next, signed, handed⟩ := answer_tokens handed
      obtain ⟨admin, checked, pair⟩ := adminSignIn_ok signed
      refine ⟨admin, .password route accepted checked, pair token ?_⟩
      simpa [Reply.tokens, CookieChange.texts] using handed
  | signUp _ _ | upload _ | leaveGroup _ | createGroup _ | transferOwnership _ | removeGroupMember _
  | deleteGroup _ | deletePrivate _ | resetUnreadMessagesCount _ | createAdmin _ _ | restoreLoginKey _
  | deleteUser _ | deleteAdmin _ | updatePassword _ | subscribeWeb _ | unsubscribeWeb _
  | conversationList _ | messages _ | listConversationMessages _ _ =>
      rw [route] at handed
      exact absurd handed (answerValid_silent fun _ => answer_silent fun _ => rfl)
  | listAdmins _ | listUsers _ | listUserConversations _ _ =>
      rw [route] at handed
      exact absurd handed (answerValid_silent fun _ => List.not_mem_nil)
  | me =>
      rw [route] at handed
      exact absurd handed (answer_silent fun _ => rfl)
  | refresh =>
      rw [route] at handed
      cases handed
  | logout =>
      rw [route] at handed
      exact absurd handed logout_silent
  | deleteMessages _ =>
      rw [route] at handed
      exact absurd handed (answerValid_silent fun _ => deleteMessages_silent)
  | download _ =>
      rw [route] at handed
      exact absurd handed (answerValid_silent fun _ => downloadAttachment_silent)
  | userCode _ =>
      rw [route] at handed
      refine absurd handed (answerValid_silent fun code => ?_)
      split <;> exact List.not_mem_nil

end Messinger
