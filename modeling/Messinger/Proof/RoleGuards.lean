import Messinger.Proof.Middlewares
import Messinger.Proof.TokenFaults

namespace Messinger
open Library SessionRepository

/-- The handler is reached by exactly the requests that all guards let through, and the others are refused. -/
structure GuardsWork (platform : Platform) (env : Env) (request : Request) (store : Store)
    (allowed : List UserRole) : Prop where
  reached : (∃ progress, runChain platform env request request.route.chain { store } = (.ok (), progress)) ↔
    (∃ locals, (authenticate platform env request.cookies request.headers store).result = .ok locals ∧
      ∃ role ∈ locals.roles, role ∈ allowed) ∧ request.route.accepted = true
  refused : ∀ exception progress, runChain platform env request request.route.chain { store } =
    (.error exception, progress) → Refusal exception

/-- What the authentication does with the verified claims throws: a database call fails. -/
inductive PayloadThrows (platform : Platform) (env : Env) (store : Store) (refreshToken : Text)
    (session : Session) (payload : Payload) : Prop where
  | revoked : session.isRevoked = true → env.succeeds 1 = false →
      PayloadThrows platform env store refreshToken session payload
  | expired : session.isRevoked = false → getTime session.expiresAt < getTime env.now → env.succeeds 2 = false →
      PayloadThrows platform env store refreshToken session payload
  | rotation : session.isRevoked = false → getTime env.now ≤ getTime session.expiresAt →
      RotationAborts platform env store refreshToken session payload →
      PayloadThrows platform env store refreshToken session payload

/-- What the authentication does with the row throws: its token does not verify, or a database call fails. -/
def SessionThrows (platform : Platform) (env : Env) (store : Store) (refreshToken : Text)
    (session : Session) : Prop :=
  ∀ payload, platform.jwtVerify refreshToken platform.jwtRefreshSecret env.now = .payload payload →
    PayloadThrows platform env store refreshToken session payload

/-- The refresh path throws outside its `try` block or in its `catch` block: a JSON cookie has no hash, or the lookup
of the session or the last update fails. -/
inductive RefreshThrows (platform : Platform) (env : Env) (store : Store) : CookieValue → Prop where
  | json : RefreshThrows platform env store .json
  | lookup (refreshToken : Text) : env.succeeds 0 = false → RefreshThrows platform env store (.text refreshToken)
  | caught (refreshToken : Text) (session : Session) :
      findByEitherHash env.scan store (platform.sha256 refreshToken) = some session →
        SessionThrows platform env store refreshToken session → env.succeeds 4 = false →
          RefreshThrows platform env store (.text refreshToken)

/-- The request takes the refresh path, and that throws. -/
def AuthenticationThrows (platform : Platform) (env : Env) (request : Request) (store : Store) : Prop :=
  (∀ accessToken, getAccessToken request.cookies request.headers = some accessToken →
      accessToken.verify platform platform.jwtSecret env.now = .expired) ∧
    ∃ refreshToken, refreshTokenOf request = some refreshToken ∧ RefreshThrows platform env store refreshToken

section Failures
variable {platform : Platform} {env : Env} {headers : Headers} {store : Store} {refreshToken : Text}
  {session : Session} {payload : Payload} {exception : Exception}

/-- The authentication neither passes the request on nor refuses it. -/
def Authentication.Throws (authentication : Authentication) : Prop :=
  ∃ exception, authentication.result = .error exception ∧ ¬ Refusal exception

namespace Authentication

theorem throws_of_unlisted {exception : Exception} (unlisted : ¬ Refusal exception) :
    Throws { result := .error exception, store } :=
  ⟨exception, rfl, unlisted⟩

theorem not_throws_of_ok {authentication : Authentication} {locals : Locals}
    (passes : authentication.result = .ok locals) : ¬ authentication.Throws := by
  rintro ⟨exception, throws, -⟩
  cases passes.symm.trans throws

theorem refuse_not_throws (message : String) (cookies : CookieChange) :
    ¬ (refuse message cookies store).Throws := by
  rintro ⟨exception, throws, unlisted⟩
  cases throws
  exact unlisted (.unauthorized message)

theorem caught_throws_iff (sessionId : Uuid) (reason : SessionRevokeReason) :
    (caught env sessionId reason store).Throws ↔ env.succeeds 4 = false := by
  unfold caught
  cases written : env.succeeds 4 with
  | true => exact iff_of_false (refuse_not_throws _ _) (Bool.noConfusion ·)
  | false => exact iff_of_true (throws_of_unlisted nofun) rfl

/-- A verified token throws when its handling does and the update of the `catch` block fails as well. -/
theorem withPayload_throws_iff (found : findById store session.id = some session) :
    (withPayload platform env headers refreshToken session payload store).Throws ↔
      PayloadThrows platform env store refreshToken session payload ∧ env.succeeds 4 = false := by
  unfold withPayload
  cases revoked : session.isRevoked with
  | true =>
      rw [if_pos rfl]
      cases written : env.succeeds 1 with
      | true =>
          refine iff_of_false (refuse_not_throws _ _) ?_
          rintro ⟨⟨-, failed⟩ | ⟨active, -⟩ | ⟨active, -⟩, -⟩
          · cases written.symm.trans failed
          · cases revoked.symm.trans active
          · cases revoked.symm.trans active
      | false =>
          rw [if_neg Bool.false_ne_true, caught_throws_iff, iff_and_self]
          exact fun _ => .revoked revoked written
  | false =>
      rw [if_neg Bool.false_ne_true]
      by_cases past : getTime session.expiresAt < getTime env.now
      · rw [if_pos past]
        cases written : env.succeeds 2 with
        | true =>
            refine iff_of_false (refuse_not_throws _ _) ?_
            rintro ⟨⟨gone, -⟩ | ⟨-, -, failed⟩ | ⟨-, current, -⟩, -⟩
            · cases revoked.symm.trans gone
            · cases written.symm.trans failed
            · exact Nat.not_lt_of_le current past
        | false =>
            rw [if_neg Bool.false_ne_true, caught_throws_iff, iff_and_self]
            exact fun _ => .expired revoked past written
      · rw [if_neg past]
        have current := Nat.le_of_not_lt past
        have aborts : PayloadThrows platform env store refreshToken session payload ↔
            RotationAborts platform env store refreshToken session payload := by
          constructor
          · rintro (⟨gone, -⟩ | ⟨-, late, -⟩ | ⟨-, -, aborts⟩)
            · cases revoked.symm.trans gone
            · exact absurd late past
            · exact aborts
          · exact .rotation revoked current
        rw [aborts, ← rotateSession_throws_iff found]
        cases outcome : rotateSession platform (env.succeeds 3) env.now session.id payload.roles refreshToken
            store with
        | mk result next =>
            cases result with
            | error exception =>
                simp only
                rw [caught_throws_iff, iff_and_self]
                exact fun _ => ⟨exception, rfl⟩
            | ok answer =>
                refine iff_of_false ?_ ?_
                · cases answer with
                  | none => exact refuse_not_throws _ _
                  | some tokens => exact not_throws_of_ok rfl
                · rintro ⟨⟨exception, failed⟩, -⟩
                  cases failed

theorem withSession_throws_iff (found : findById store session.id = some session) :
    (withSession platform env headers refreshToken session store).Throws ↔
      SessionThrows platform env store refreshToken session ∧ env.succeeds 4 = false := by
  unfold withSession SessionThrows
  cases verified : platform.jwtVerify refreshToken platform.jwtRefreshSecret env.now with
  | payload payload =>
      rw [withPayload_throws_iff found]
      refine and_congr_left' ⟨?_, fun throws => throws payload rfl⟩
      rintro throws _ same
      cases same
      exact throws
  | expired =>
      rw [caught_throws_iff, iff_and_self]
      rintro - _ same
      cases same
  | invalid =>
      rw [caught_throws_iff, iff_and_self]
      rintro - _ same
      cases same

theorem refresh_throws_iff {request : Request} (ids : (store.sessions.map Session.id).Nodup) :
    (refresh platform env request.cookies request.headers store).Throws ↔
      ∃ refreshToken, refreshTokenOf request = some refreshToken ∧
        RefreshThrows platform env store refreshToken := by
  unfold refresh refreshTokenOf
  cases presented : truthyCookie (getRefreshToken request.cookies request.headers) with
  | none =>
      refine iff_of_false (refuse_not_throws _ _) ?_
      rintro ⟨refreshToken, same, -⟩
      cases same
  | some cookie =>
      simp only [Option.some.injEq, exists_eq_left']
      cases cookie with
      | json => exact iff_of_true (throws_of_unlisted nofun) .json
      | text refreshToken =>
          cases reached : env.succeeds 0 with
          | false => exact iff_of_true (throws_of_unlisted nofun) (.lookup refreshToken reached)
          | true =>
              simp only [reduceIte]
              cases found : findByEitherHash env.scan store (platform.sha256 refreshToken) with
              | none =>
                  refine iff_of_false (refuse_not_throws _ _) ?_
                  rintro (_ | ⟨_, failed⟩ | ⟨_, session, same, -, -⟩)
                  · cases reached.symm.trans failed
                  · cases found.symm.trans same
              | some session =>
                  have inside := (List.mem_filter.mp (pickRow_mem found)).1
                  refine (withSession_throws_iff (findById_of_mem ids inside)).trans ?_
                  constructor
                  · rintro ⟨throws, failed⟩
                    exact .caught refreshToken session found throws failed
                  · rintro (_ | ⟨_, failed⟩ | ⟨_, row, same, throws, failed⟩)
                    · cases reached.symm.trans failed
                    · cases found.symm.trans same
                      exact ⟨throws, failed⟩

end Authentication

open Authentication in
theorem authenticate_throws_iff {request : Request} (ids : (store.sessions.map Session.id).Nodup) :
    (authenticate platform env request.cookies request.headers store).Throws ↔
      AuthenticationThrows platform env request store := by
  unfold authenticate AuthenticationThrows
  rw [← refresh_throws_iff ids]
  cases present : getAccessToken request.cookies request.headers with
  | none =>
      refine (and_iff_right ?_).symm
      intro accessToken same
      cases same
  | some accessToken =>
      simp only [Option.some.injEq, forall_eq']
      cases verified : accessToken.verify platform platform.jwtSecret env.now with
      | payload payload =>
          refine iff_of_false (not_throws_of_ok rfl) fun conditions => ?_
          cases conditions.1
      | expired => exact (and_iff_right rfl).symm
      | invalid =>
          refine iff_of_false (refuse_not_throws _ _) fun conditions => ?_
          cases conditions.1

end Failures

section Guards
variable {platform : Platform} {env : Env} {request : Request}

/-- Every guarded route but one authenticates first, and checks the roles and the fields in some order. -/
theorem guarded_chain {route : Route} {allowed : List UserRole} (guarded : .authorize allowed ∈ route.chain)
    (placed : ∀ conversationId, route ≠ .leaveGroup conversationId) :
    route.chain = [.authenticate, .authorize allowed, .validateDTO] ∨
      route.chain = [.authenticate, .validateDTO, .authorize allowed] := by
  cases route <;> simp_all [Route.chain, userChain, adminChain]

theorem guarded_later {route : Route} {allowed : List UserRole} (guarded : .authorize allowed ∈ route.chain)
    (placed : ∀ conversationId, route ≠ .leaveGroup conversationId) :
    ∃ later, route.chain = .authenticate :: later ∧ .authenticate ∉ later ∧ ∀ middleware,
      middleware ∈ later ↔ middleware = .authorize allowed ∨ middleware = .validateDTO := by
  obtain same | same := guarded_chain guarded placed
  · exact ⟨_, same, by simp, by simp⟩
  · exact ⟨_, same, by simp, by simp [or_comm]⟩

/-- The roles are read before the authentication has written them. -/
theorem leaveGroup_throws (conversationId : Option Uuid) (store : Store)
    (same : request.route = .leaveGroup conversationId) :
    ∃ progress, runChain platform env request request.route.chain { store } = (.error .typeError, progress) := by
  rw [same]
  exact ⟨_, rfl⟩

end Guards

/-- The guards of a route work exactly when it authenticates first and the authentication does not throw. -/
theorem role_guards_work_iff {platform : Platform} {env : Env} {request : Request} {store : Store}
    {allowed : List UserRole} (ids : (store.sessions.map Session.id).Nodup)
    (guarded : .authorize allowed ∈ request.route.chain) :
    GuardsWork platform env request store allowed ↔
      (∀ conversationId, request.route ≠ .leaveGroup conversationId) ∧
        ¬ AuthenticationThrows platform env request store := by
  rw [← authenticate_throws_iff ids]
  constructor
  · intro work
    have placed : ∀ conversationId, request.route ≠ .leaveGroup conversationId := by
      intro conversationId same
      obtain ⟨progress, throws⟩ := @leaveGroup_throws platform env request conversationId store same
      have kind := work.refused .typeError progress throws
      cases kind
    refine ⟨placed, ?_⟩
    rintro ⟨exception, result, unlisted⟩
    obtain ⟨later, chain, -, -⟩ := guarded_later guarded placed
    obtain ⟨progress, throws⟩ := runChain_unauthenticated result later
    rw [← chain] at throws
    exact unlisted (work.refused exception progress throws)
  · rintro ⟨placed, runs⟩
    obtain ⟨later, chain, apart, listed⟩ := guarded_later guarded placed
    cases result : (authenticate platform env request.cookies request.headers store).result with
    | error exception =>
        obtain ⟨progress, refuses⟩ := runChain_unauthenticated result later
        rw [← chain] at refuses
        constructor
        · rw [refuses, result]
          refine iff_of_false ?_ ?_
          · rintro ⟨next, passes⟩
            cases passes
          · rintro ⟨⟨locals, passes, -⟩, -⟩
            cases passes
        · intro other next throws
          cases refuses.symm.trans throws
          by_contra unlisted
          exact runs ⟨exception, result, unlisted⟩
    | ok locals =>
        obtain ⟨progress, known, -, continues⟩ := runChain_authenticated result later
        rw [← chain] at continues
        obtain ⟨done, all⟩ | ⟨⟨exception, throws, kind⟩, stops⟩ :=
          @runChain_later platform env request progress locals known later apart
        · have roles := all _ ((listed (.authorize allowed)).mpr (.inl rfl))
          have fields := all _ ((listed .validateDTO).mpr (.inr rfl))
          rw [done] at continues
          refine ⟨iff_of_true ⟨progress, continues⟩ ⟨⟨locals, result, roles⟩, fields⟩, ?_⟩
          intro other next failed
          cases continues.symm.trans failed
        · rw [throws] at continues
          constructor
          · refine iff_of_false ?_ ?_
            · rintro ⟨next, passes⟩
              cases continues.symm.trans passes
            · rintro ⟨⟨other, same, roles⟩, fields⟩
              cases result.symm.trans same
              refine stops ?_
              intro middleware inside
              obtain rfl | rfl := (listed middleware).mp inside
              · exact roles
              · exact fields
          · intro other next failed
            cases continues.symm.trans failed
            exact kind

/-- User 1 asks with the access token of a running session to leave group 10. -/
def leaveRequest : Request :=
  { cookies := { accessToken := some (.text (plainPlatform.jwtSign { sub := 1, roles := [.user], sid := 3 }
      plainPlatform.jwtSecret plainPlatform.jwtExpiresIn 0)) }
    route := .leaveGroup (some 10) }

/-- User 1 asks with the refresh token of the session to delete group 10. -/
def deleteRequest : Request :=
  { cookies := { refreshToken := some (.text activeToken) }
    route := .deleteGroup (some 10) }

theorem deleteRequest_guards_work :
    GuardsWork plainPlatform { now := 0 } deleteRequest activeStore [.user] := by
  refine (role_guards_work_iff (by decide) (by decide)).mpr ⟨fun _ => nofun, ?_⟩
  rintro ⟨-, refreshToken, presented, throws⟩
  cases presented
  obtain - | ⟨-, failed⟩ | ⟨-, -, -, -, failed⟩ := throws
  · cases failed
  · cases failed

/-- A JSON cookie has no hash. -/
example : (authenticate plainPlatform { now := 0 } { refreshToken := some .json } {} activeStore).result =
    .error .typeError := rfl

/-- The guard of the route throws a `TypeError` for a user with the role that it allows. -/
theorem leaveRequest_throws : ¬ GuardsWork plainPlatform { now := 0 } leaveRequest activeStore [.user] := by
  intro work
  obtain ⟨progress, throws⟩ :=
    @leaveGroup_throws plainPlatform { now := 0 } leaveRequest (some 10) activeStore rfl
  have kind := work.refused .typeError progress throws
  cases kind

end Messinger
