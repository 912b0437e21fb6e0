import Messinger.Proof.Registrations

namespace Messinger
open Library SessionRepository

/-- These are the errors with which a guard refuses a request. -/
inductive Refusal : Exception → Prop where
  | unauthorized (message : String) : Refusal (.unauthorized message)
  | forbidden (message : String) : Refusal (.forbidden message)
  | validation (message : String) : Refusal (.validation message)

/-- The middleware lets a request with these claims through. -/
def Middleware.Passes (request : Request) (locals : Locals) : Middleware → Prop
  | .authenticate => False
  | .authorize allowed => ∃ role ∈ locals.roles, role ∈ allowed
  | .validateDTO => request.route.accepted = true

/-- These are the tokens that the middleware writes to the answer. -/
def Authentication.tokens (authentication : Authentication) : List Text :=
  authentication.cookies.texts ++ authentication.headers.toList.flatMap Tokens.texts

/-- The middleware hands out no tokens and rotates no session. -/
structure Authentication.Quiet (store : Store) (authentication : Authentication) : Prop where
  tokens : authentication.tokens = []
  others : authentication.store = { store with sessions := authentication.store.sessions }
  undisturbed : Undisturbed store authentication.store

/-- The middleware rotates the session of a refresh token that verifies, or repeats its rotation. -/
def Authentication.Rotates (platform : Platform) (env : Env) (cookies : Cookies) (headers : Headers)
    (store : Store) (authentication : Authentication) : Prop :=
  ∃ (refreshToken : Text) (session : Session) (payload : Payload) (tokens : Tokens) (next : Store),
    truthyCookie (getRefreshToken cookies headers) = some (.text refreshToken) ∧
    platform.jwtVerify refreshToken platform.jwtRefreshSecret env.now = .payload payload ∧
    rotateSession platform (env.succeeds 3) env.now session.id payload.roles refreshToken store =
      (.ok (some tokens), next) ∧
    authentication = accept headers payload tokens next

section Rotation
variable {platform : Platform} {commits : Bool} {now : Nat} {sessionId : Uuid} {roles : List UserRole}
  {refreshToken : Text} {store next : Store}

theorem rotateSession_error {exception : Exception}
    (failed : rotateSession platform commits now sessionId roles refreshToken store =
      (.error exception, next)) : next = store := by
  obtain ⟨other, same⟩ | ⟨value, after, -, -, done⟩ :=
    transaction_cases commits store (rotateSessionBody platform now sessionId roles refreshToken)
  · rw [rotateSession, same] at failed
    cases failed
    rfl
  · rw [rotateSession, done] at failed
    cases failed

theorem rotateSession_none
    (missed : rotateSession platform commits now sessionId roles refreshToken store = (.ok none, next)) :
    next = store := by
  obtain ⟨exception, failed⟩ | ⟨value, after, body, -, done⟩ :=
    transaction_cases commits store (rotateSessionBody platform now sessionId roles refreshToken)
  · rw [rotateSession, failed] at missed
    cases missed
  · rw [rotateSession, done] at missed
    cases missed
    unfold rotateSessionBody at body
    split at body
    · cases body
      rfl
    · simp only at body
      split at body
      · cases body
      · split at body
        · cases body
          rfl
        · split at body <;> cases body

end Rotation

section Authenticate
variable {platform : Platform} {env : Env} {cookies : Cookies} {headers : Headers} {store : Store}

namespace Authentication

theorem Quiet.unchanged {authentication : Authentication} (tokens : authentication.tokens = [])
    (same : authentication.store = store) : Quiet store authentication where
  tokens := tokens
  others := by rw [same]
  undisturbed := by
    rw [same]
    exact .refl store

/-- Revoking sessions rotates none of them. -/
theorem Quiet.revoked {authentication : Authentication} {matching : Session → Bool}
    {change : Session → Session} (tokens : authentication.tokens = [])
    (keeps : ∀ session, (change session).id = session.id ∧ (change session).rotation = session.rotation)
    (same : authentication.store = { store with sessions := updateWhere matching change store.sessions }) :
    Quiet store authentication where
  tokens := tokens
  others := by rw [same]
  undisturbed := by
    rw [same]
    exact .updateSessions matching change keeps store

theorem caught_quiet (sessionId : Uuid) (reason : SessionRevokeReason) :
    Quiet store (caught env sessionId reason store) := by
  unfold caught
  split
  · refine .revoked rfl ?_ rfl
    intro session
    exact ⟨rfl, rfl⟩
  · exact .unchanged rfl rfl

theorem withPayload_effect (refreshToken : Text) (session : Session) (payload : Payload) :
    Quiet store (withPayload platform env headers refreshToken session payload store) ∨
      ∃ tokens next, rotateSession platform (env.succeeds 3) env.now session.id payload.roles refreshToken
          store = (.ok (some tokens), next) ∧
        withPayload platform env headers refreshToken session payload store =
          accept headers payload tokens next := by
  unfold withPayload
  split
  · split
    · refine .inl (.revoked rfl ?_ rfl)
      intro session
      exact ⟨rfl, rfl⟩
    · exact .inl (caught_quiet ..)
  · split
    · split
      · refine .inl (.revoked rfl ?_ rfl)
        intro session
        exact ⟨rfl, rfl⟩
      · exact .inl (caught_quiet ..)
    · split
      · next failed =>
          rw [rotateSession_error failed]
          exact .inl (caught_quiet ..)
      · next missed => exact .inl (.unchanged rfl (rotateSession_none missed))
      · next tokens next done => exact .inr ⟨tokens, next, done, rfl⟩

theorem refresh_effect :
    Quiet store (refresh platform env cookies headers store) ∨
      Rotates platform env cookies headers store (refresh platform env cookies headers store) := by
  unfold refresh
  split
  · exact .inl (.unchanged rfl rfl)
  · exact .inl (.unchanged rfl rfl)
  · next refreshToken presented =>
      split
      · split
        · exact .inl (.unchanged rfl rfl)
        · next session found =>
            unfold withSession
            split
            · next payload verified =>
                obtain quiet | ⟨tokens, next, done, same⟩ := withPayload_effect refreshToken session payload
                · exact .inl quiet
                · exact .inr ⟨refreshToken, session, payload, tokens, next, presented, verified, done, same⟩
            · exact .inl (caught_quiet ..)
            · exact .inl (caught_quiet ..)
      · exact .inl (.unchanged rfl rfl)

end Authentication

variable (platform env cookies headers store)

open Authentication in
/-- The authentication is quiet or rotates. -/
theorem authenticate_effect :
    Quiet store (authenticate platform env cookies headers store) ∨
      Rotates platform env cookies headers store (authenticate platform env cookies headers store) := by
  unfold authenticate
  split
  · exact refresh_effect
  · split
    · exact .inl (.unchanged rfl rfl)
    · exact refresh_effect
    · exact .inl (.unchanged rfl rfl)

open Authentication in
/-- The authentication writes no table but the sessions. -/
theorem authenticate_store :
    (authenticate platform env cookies headers store).store =
      { store with sessions := (authenticate platform env cookies headers store).store.sessions } := by
  obtain quiet | ⟨refreshToken, session, payload, tokens, next, -, -, rotates, same⟩ :=
    authenticate_effect platform env cookies headers store
  · exact quiet.others
  · rw [same]
    obtain ⟨row, -, ⟨-, unchanged, -⟩ | ⟨-, -, -, replaced⟩⟩ := rotateSession_cases rotates
    · change next = { store with sessions := next.sessions }
      rw [unchanged]
    · change next = { store with sessions := next.sessions }
      rw [replaced]
      rfl

variable {platform env cookies headers store}

/-- The roles of a request come from a token that it presents. -/
theorem authenticate_roles {locals : Locals}
    (passes : (authenticate platform env cookies headers store).result = .ok locals) :
    ∃ token secret payload,
      (getAccessToken cookies headers = some (.text token) ∧ secret = platform.jwtSecret ∨
        truthyCookie (getRefreshToken cookies headers) = some (.text token) ∧
          secret = platform.jwtRefreshSecret) ∧
      platform.jwtVerify token secret env.now = .payload payload ∧ locals.roles = payload.roles := by
  obtain ⟨payload, ⟨accessToken, present, verified⟩, same⟩ | ⟨-, same⟩ := authenticate_cases passes
  · rw [same] at passes
    cases passes
    obtain ⟨token, rfl, signed⟩ := CookieValue.verify_payload verified
    exact ⟨token, _, payload, .inl ⟨present, rfl⟩, signed, rfl⟩
  · rw [same] at passes
    obtain ⟨refreshToken, session, payload, tokens, next, present, -, verified, -, accepted⟩ :=
      Authentication.refresh_cases passes
    rw [accepted] at passes
    cases passes
    exact ⟨refreshToken, _, payload, .inr ⟨present, rfl⟩, verified, rfl⟩

end Authenticate

section Chains
variable {platform : Platform} {env : Env} {request : Request}

/-- What each middleware keeps is kept by the chain, whether or not it is interrupted. -/
theorem runChain_invariant (holds : Progress → Prop)
    (kept : ∀ progress middleware, holds progress →
      holds (runMiddleware platform env request progress middleware).2)
    (chain : List Middleware) (progress : Progress) (initial : holds progress) :
    holds (runChain platform env request chain progress).2 := by
  induction chain generalizing progress with
  | nil => exact initial
  | cons middleware rest ih =>
      have next := kept progress middleware initial
      unfold runChain
      split
      · next failed =>
          rw [failed] at next
          exact next
      · next passed =>
          rw [passed] at next
          exact ih _ next

variable (platform env request) in
/-- A middleware leaves the progress, or it writes what the authentication writes. -/
theorem runMiddleware_progress (progress : Progress) (middleware : Middleware) :
    (runMiddleware platform env request progress middleware).2 = progress ∨
      ((runMiddleware platform env request progress middleware).2.store =
          (authenticate platform env request.cookies request.headers progress.store).store ∧
        (runMiddleware platform env request progress middleware).2.cookies =
          (authenticate platform env request.cookies request.headers progress.store).cookies ∧
        (runMiddleware platform env request progress middleware).2.headers =
          (authenticate platform env request.cookies request.headers progress.store).headers) := by
  cases middleware with
  | authenticate =>
      refine .inr ?_
      unfold runMiddleware
      simp only
      split <;> exact ⟨rfl, rfl, rfl⟩
  | authorize allowed => exact .inl rfl
  | validateDTO =>
      refine .inl ?_
      unfold runMiddleware
      simp only
      split <;> rfl

variable (platform env request) in
/-- The middlewares write no table but the sessions. -/
theorem runChain_store (chain : List Middleware) (store : Store) :
    ∃ sessions, (runChain platform env request chain { store }).2.store = { store with sessions } := by
  apply runChain_invariant (fun progress => ∃ sessions, progress.store = { store with sessions })
  · rintro progress middleware ⟨sessions, same⟩
    obtain unchanged | ⟨written, -, -⟩ := runMiddleware_progress platform env request progress middleware
    · rw [unchanged]
      exact ⟨sessions, same⟩
    · refine ⟨(authenticate platform env request.cookies request.headers progress.store).store.sessions, ?_⟩
      rw [written, authenticate_store, same]
  · exact ⟨store.sessions, rfl⟩

/-- A request ends in its middlewares, or its controller runs after them. -/
theorem handle_cases (platform : Platform) (middlewareEnv env : Env) (request : Request) (store : Store) :
    (∃ exception progress,
        runChain platform middlewareEnv request request.route.chain { store } =
          (.error exception, progress) ∧
        handle platform middlewareEnv env request store =
          (progress.finish (Reply.ofException exception), progress.store)) ∨
      ∃ progress,
        runChain platform middlewareEnv request request.route.chain { store } = (.ok (), progress) ∧
        handle platform middlewareEnv env request store =
          (progress.finish (controller platform env request
              ((progress.locals.map Locals.userId).getD 0) progress.store).1,
            (controller platform env request ((progress.locals.map Locals.userId).getD 0)
              progress.store).2) := by
  unfold handle
  split
  · next exception progress failed => exact .inl ⟨exception, progress, failed, rfl⟩
  · next progress passed => exact .inr ⟨progress, passed, rfl⟩

/-- What the middlewares and then the controller keep holds after the request. -/
theorem handle_keeps {middlewareEnv : Env} {store : Store} {holds : Store → Prop}
    (chain : holds (runChain platform middlewareEnv request request.route.chain { store }).2.store)
    (controlled : ∀ userId between, holds between → holds (controller platform env request userId between).2) :
    holds (handle platform middlewareEnv env request store).2 := by
  obtain ⟨exception, progress, failed, same⟩ | ⟨progress, passed, same⟩ :=
    handle_cases platform middlewareEnv env request store
  · rw [failed] at chain
    rw [same]
    exact chain
  · rw [passed] at chain
    rw [same]
    exact controlled _ _ chain

theorem authorize_cases (allowed : List UserRole) (locals : Locals) :
    (authorize allowed (some locals.roles) = .ok () ∧ ∃ role ∈ locals.roles, role ∈ allowed) ∨
      ((∃ message, authorize allowed (some locals.roles) = .error (.forbidden message)) ∧
        ¬ ∃ role ∈ locals.roles, role ∈ allowed) := by
  unfold authorize
  split
  · next missing => cases missing
  · next none =>
      refine .inr ⟨⟨_, rfl⟩, ?_⟩
      rintro ⟨role, inside, -⟩
      rw [Option.some.inj none] at inside
      cases inside
  · next roles _ present =>
      rw [Option.some.inj present]
      split
      · next permitted =>
          obtain ⟨role, inside, allows⟩ := List.any_eq_true.mp permitted
          exact .inl ⟨rfl, role, inside, List.contains_iff_mem.mp allows⟩
      · next denied =>
          refine .inr ⟨⟨_, rfl⟩, ?_⟩
          rintro ⟨role, inside, allows⟩
          exact denied (List.any_eq_true.mpr ⟨role, inside, List.contains_iff_mem.mpr allows⟩)

/-- A later middleware leaves the progress and passes the request or refuses it. -/
theorem runMiddleware_later {progress : Progress} {locals : Locals} (known : progress.locals = some locals)
    {middleware : Middleware} (later : middleware ≠ .authenticate) :
    (runMiddleware platform env request progress middleware = (.ok (), progress) ∧
        middleware.Passes request locals) ∨
      ((∃ exception, runMiddleware platform env request progress middleware = (.error exception, progress) ∧
        Refusal exception) ∧ ¬ middleware.Passes request locals) := by
  cases middleware with
  | authenticate => exact absurd rfl later
  | authorize allowed =>
      have ran : runMiddleware platform env request progress (.authorize allowed) =
          (authorize allowed (some locals.roles), progress) := by
        unfold runMiddleware
        rw [known]
        rfl
      rw [ran]
      obtain ⟨passed, permitted⟩ | ⟨⟨message, refused⟩, denied⟩ := authorize_cases allowed locals
      · rw [passed]
        exact .inl ⟨rfl, permitted⟩
      · rw [refused]
        exact .inr ⟨⟨_, rfl, .forbidden message⟩, denied⟩
  | validateDTO =>
      unfold runMiddleware
      cases accepted : request.route.accepted with
      | true => exact .inl ⟨rfl, accepted⟩
      | false => exact .inr ⟨⟨_, rfl, .validation _⟩, fun passes => Bool.noConfusion (accepted.symm.trans passes)⟩

/-- The middlewares behind the authentication pass a request together, or one of them refuses it. -/
theorem runChain_later {progress : Progress} {locals : Locals} (known : progress.locals = some locals)
    (chain : List Middleware) (later : .authenticate ∉ chain) :
    (runChain platform env request chain progress = (.ok (), progress) ∧
        ∀ middleware ∈ chain, middleware.Passes request locals) ∨
      ((∃ exception, runChain platform env request chain progress = (.error exception, progress) ∧
        Refusal exception) ∧ ¬ ∀ middleware ∈ chain, middleware.Passes request locals) := by
  induction chain with
  | nil => exact .inl ⟨rfl, fun _ inside => by cases inside⟩
  | cons middleware rest ih =>
      have apart : middleware ≠ .authenticate := fun same => later (same ▸ List.mem_cons_self)
      rw [List.forall_mem_cons]
      unfold runChain
      obtain ⟨passed, passes⟩ | ⟨⟨exception, refused, kind⟩, stops⟩ :=
        @runMiddleware_later platform env request progress locals known middleware apart
      · rw [passed]
        obtain ⟨done, all⟩ | ⟨failed, notAll⟩ := ih fun inside => later (List.mem_cons_of_mem _ inside)
        · exact .inl ⟨done, passes, all⟩
        · exact .inr ⟨failed, fun both => notAll both.2⟩
      · rw [refused]
        exact .inr ⟨⟨exception, rfl, kind⟩, fun both => stops both.1⟩

theorem runChain_unauthenticated {store : Store} {exception : Exception}
    (refused : (authenticate platform env request.cookies request.headers store).result = .error exception)
    (later : List Middleware) :
    ∃ progress, runChain platform env request (.authenticate :: later) { store } =
      (.error exception, progress) := by
  unfold runChain runMiddleware
  simp only
  rw [refused]
  exact ⟨_, rfl⟩

theorem runChain_authenticated {store : Store} {locals : Locals}
    (passed : (authenticate platform env request.cookies request.headers store).result = .ok locals)
    (later : List Middleware) :
    ∃ progress : Progress, progress.locals = some locals ∧
      progress.store = (authenticate platform env request.cookies request.headers store).store ∧
      runChain platform env request (.authenticate :: later) { store } =
        runChain platform env request later progress := by
  refine ⟨(runMiddleware platform env request { store } .authenticate).2, ?_, ?_, ?_⟩
  · unfold runMiddleware
    simp only
    rw [passed]
  · unfold runMiddleware
    simp only
    rw [passed]
  · rw [runChain]
    unfold runMiddleware
    simp only
    rw [passed]

/-- A request that passes the chain is authenticated with one of the roles that it allows. -/
theorem runChain_ok {allowed : List UserRole} {store : Store} {nothing : Unit} {progress : Progress}
    (passes : runChain platform env request [.authenticate, .authorize allowed, .validateDTO] { store } =
      (.ok nothing, progress)) :
    ∃ locals,
      (authenticate platform env request.cookies request.headers store).result = .ok locals ∧
      (∃ role ∈ locals.roles, role ∈ allowed) ∧ progress.locals = some locals ∧
      progress.store = (authenticate platform env request.cookies request.headers store).store := by
  cases result : (authenticate platform env request.cookies request.headers store).result with
  | error exception =>
      obtain ⟨next, refuses⟩ := runChain_unauthenticated result [.authorize allowed, .validateDTO]
      cases refuses.symm.trans passes
  | ok locals =>
      obtain ⟨next, known, stored, continues⟩ := runChain_authenticated result [.authorize allowed, .validateDTO]
      obtain ⟨done, all⟩ | ⟨⟨exception, throws, -⟩, -⟩ :=
        @runChain_later platform env request next locals known [.authorize allowed, .validateDTO] (by simp)
      · cases (continues.trans done).symm.trans passes
        exact ⟨locals, rfl, all _ List.mem_cons_self, known, stored⟩
      · cases (continues.trans throws).symm.trans passes

/-- An authenticated request with an allowed role and accepted fields passes the chain. -/
theorem runChain_passes {allowed : List UserRole} {store : Store} {locals : Locals}
    (passes : (authenticate platform env request.cookies request.headers store).result = .ok locals)
    (permitted : ∃ role ∈ locals.roles, role ∈ allowed) (accepted : request.route.accepted = true) :
    ∃ progress, runChain platform env request [.authenticate, .authorize allowed, .validateDTO] { store } =
      (.ok (), progress) := by
  obtain ⟨next, known, -, continues⟩ := runChain_authenticated passes [.authorize allowed, .validateDTO]
  obtain ⟨done, -⟩ | ⟨-, stops⟩ :=
    @runChain_later platform env request next locals known [.authorize allowed, .validateDTO] (by simp)
  · exact ⟨next, continues.trans done⟩
  · refine absurd ?_ stops
    rw [List.forall_mem_cons, List.forall_mem_singleton]
    exact ⟨permitted, accepted⟩

end Chains

end Messinger
