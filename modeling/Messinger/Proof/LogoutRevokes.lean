import Messinger.Proof.Revocations

namespace Messinger
open Library SessionRepository Controllers

/-- The lookup of the token finds a session that was rotated away from it within the grace period. -/
def RotatedJustNow (platform : Platform) (env : Env) (store : Store) (refreshToken : Text) : Prop :=
  ∃ session, findByEitherHash env.scan store (platform.sha256 refreshToken) = some session ∧
    inGracePeriod env.now session (platform.sha256 refreshToken) = true

/-- A logout that is answered 204 has passed the authentication. -/
theorem handle_logout_of_answered {platform : Platform} {middlewareEnv env : Env} {request : Request}
    {store : Store} (route : request.route = .logout)
    (answered : (handle platform middlewareEnv env request store).1.status = 204) :
    ∃ locals,
      (authenticate platform middlewareEnv request.cookies request.headers store).result = .ok locals ∧
      (Controllers.logout platform env request
        (authenticate platform middlewareEnv request.cookies request.headers store).store).1.status = 204 ∧
      (handle platform middlewareEnv env request store).2 =
        (Controllers.logout platform env request
          (authenticate platform middlewareEnv request.cookies request.headers store).store).2 := by
  unfold handle at answered ⊢
  rw [route] at answered ⊢
  unfold Route.chain runChain runMiddleware at answered ⊢
  simp only at answered ⊢
  cases result : (authenticate platform middlewareEnv request.cookies request.headers store).result with
  | error exception =>
      rw [result] at answered
      exact absurd answered (httpCode_ne_noContent exception)
  | ok locals =>
      rw [result] at answered
      unfold runChain controller at answered ⊢
      rw [route] at answered ⊢
      exact ⟨locals, rfl, answered, rfl⟩

section Requests
variable {platform : Platform} {middlewareEnv env : Env} {request : Request} {store : Store}

/-- Passing the authentication leaves the store, or gives the session of the token a new token. -/
theorem authenticate_rotates {locals : Locals} (ids : (store.sessions.map Session.id).Nodup)
    (passes : (authenticate platform middlewareEnv request.cookies request.headers store).result = .ok locals) :
    ((∃ payload, AccessAccepted platform middlewareEnv.now request.cookies request.headers payload) ∧
        (authenticate platform middlewareEnv request.cookies request.headers store).store = store) ∨
    ∃ refreshToken, refreshTokenOf request = some (.text refreshToken) ∧
      (¬ ∃ payload, AccessAccepted platform middlewareEnv.now request.cookies request.headers payload) ∧
      ((RotatedJustNow platform middlewareEnv store refreshToken ∧
          (authenticate platform middlewareEnv request.cookies request.headers store).store = store) ∨
        (¬ RotatedJustNow platform middlewareEnv store refreshToken ∧
          ∃ session payload, session ∈ store.sessions ∧
            session.refreshTokenHash = platform.sha256 refreshToken ∧
            (authenticate platform middlewareEnv request.cookies request.headers store).store =
              updateSession session.id
                (rotated platform middlewareEnv.now (signTokens platform middlewareEnv.now payload)) store)) := by
  obtain ⟨payload, accepted, same⟩ | ⟨refused, same⟩ := authenticate_cases passes
  · exact .inl ⟨⟨payload, accepted⟩, by rw [same]⟩
  · rw [same] at passes ⊢
    obtain ⟨refreshToken, session, payload, tokens, next, presented, found, -, rotates, accepted⟩ :=
      Authentication.refresh_cases passes
    have inside : session ∈ store.sessions := (List.mem_filter.mp (pickRow_mem found)).1
    obtain ⟨row, located, cases⟩ := rotateSession_cases rotates
    rw [findById_of_mem ids inside] at located
    cases located
    refine .inr ⟨refreshToken, presented, fun ⟨payload, accepted⟩ => refused payload accepted, ?_⟩
    rw [accepted]
    obtain ⟨recent, unchanged, -⟩ | ⟨late, current, signed, replaced⟩ := cases
    · exact .inl ⟨⟨session, found, recent⟩, unchanged⟩
    · refine .inr ⟨?_, session, _, inside, current, by rw [← signed]; exact replaced⟩
      rintro ⟨other, same, recent⟩
      rw [found] at same
      cases same
      rw [late] at recent
      cases recent

/-- After the rotation no lookup with an old token finds the session of the rotated token. -/
theorem not_revoked_of_rotated_logout {now : Nat} {payload : Payload} {session rotatedSession : Session}
    {refreshToken presented : Text} (injective : Function.Injective platform.sha256)
    (ids : (store.sessions.map Session.id).Nodup)
    (hashes : (store.sessions.map Session.refreshTokenHash).Nodup)
    (inside : session ∈ store.sessions) (present : rotatedSession ∈ store.sessions)
    (active : session.isRevoked = false)
    (current : session.refreshTokenHash = platform.sha256 refreshToken)
    (hash : rotatedSession.refreshTokenHash = platform.sha256 presented)
    (sent : refreshTokenOf request = some (.text presented))
    (fresh : logoutToken request.cookies request.headers ≠
      some (.text (signTokens platform now payload).refreshToken)) :
    ¬ Revoked (Controllers.logout platform env request
      (updateSession rotatedSession.id (rotated platform now (signTokens platform now payload)) store)).2
      session.id := by
  have image : (if (session.id == rotatedSession.id) = true then
      rotated platform now (signTokens platform now payload) session else session) ∈
        (updateSession rotatedSession.id (rotated platform now (signTokens platform now payload))
          store).sessions :=
    mem_updateWhere.mpr ⟨session, inside, rfl⟩
  have nextIds : ((updateSession rotatedSession.id
      (rotated platform now (signTokens platform now payload)) store).sessions.map Session.id).Nodup := by
    rw [map_id_updateSession store rotatedSession.id
      (rotated platform now (signTokens platform now payload)) fun _ => rfl]
    exact ids
  by_cases selected : (session.id == rotatedSession.id) = true
  · rw [if_pos selected] at image
    change ¬ Revoked _ (rotated platform now (signTokens platform now payload) session).id
    refine not_revoked_of_logout nextIds image active ?_
    intro other read equal
    rw [← injective equal] at read
    exact fresh read
  · rw [if_neg selected] at image
    refine not_revoked_of_logout nextIds image active ?_
    intro other read equal
    rw [← injective (current.symm.trans equal)] at read
    have middleware := refreshTokenOf_of_logoutToken read
    have sameToken : presented = refreshToken :=
      CookieValue.text.inj (Option.some.inj (sent.symm.trans middleware))
    rw [sameToken, ← current] at hash
    have one := List.inj_on_of_nodup_map hashes present inside hash
    rw [one] at selected
    exact selected (beq_self_eq_true session.id)

/-- A logout that is answered 204 revokes the session of the current token exactly when the handler
reads this token and the middleware has not replaced it. -/
theorem logout_revokes_iff {session : Session} {refreshToken : Text}
    (injective : Function.Injective platform.sha256)
    (ids : (store.sessions.map Session.id).Nodup)
    (hashes : (store.sessions.map Session.refreshTokenHash).Nodup)
    (inside : session ∈ store.sessions) (active : session.isRevoked = false)
    (current : session.refreshTokenHash = platform.sha256 refreshToken)
    (fresh : ∀ payload, logoutToken request.cookies request.headers ≠
      some (.text (signTokens platform middlewareEnv.now payload).refreshToken))
    (route : request.route = .logout)
    (answered : (handle platform middlewareEnv env request store).1.status = 204) :
    Revoked (handle platform middlewareEnv env request store).2 session.id ↔
      logoutToken request.cookies request.headers = some (.text refreshToken) ∧
        ((∃ payload, AccessAccepted platform middlewareEnv.now request.cookies request.headers payload) ∨
          RotatedJustNow platform middlewareEnv store refreshToken) := by
  obtain ⟨locals, passes, done, after⟩ := handle_logout_of_answered route answered
  rw [after]
  -- without a change of the store the two lookups see the same current token
  have unchanged : (authenticate platform middlewareEnv request.cookies request.headers store).store = store →
      (Revoked (Controllers.logout platform env request
          (authenticate platform middlewareEnv request.cookies request.headers store).store).2 session.id ↔
        logoutToken request.cookies request.headers = some (.text refreshToken)) := by
    intro same
    rw [same] at done ⊢
    constructor
    · intro revoked
      by_contra different
      refine not_revoked_of_logout ids inside active ?_ revoked
      intro other read equal
      rw [read, ← injective (current.symm.trans equal)] at different
      exact different rfl
    · intro read
      exact revoked_of_logout hashes inside active current read done
  obtain ⟨accepted, same⟩ | ⟨presented, sent, refused, cases⟩ := authenticate_rotates ids passes
  · rw [unchanged same]
    exact ⟨fun read => ⟨read, .inl accepted⟩, fun both => both.1⟩
  · have sameToken : logoutToken request.cookies request.headers = some (.text refreshToken) →
        presented = refreshToken := by
      intro read
      have middleware := refreshTokenOf_of_logoutToken read
      exact CookieValue.text.inj (Option.some.inj (sent.symm.trans middleware))
    obtain ⟨recent, same⟩ | ⟨late, rotatedSession, payload, present, hash, replaced⟩ := cases
    · rw [unchanged same]
      refine ⟨fun read => ⟨read, .inr ?_⟩, fun both => both.1⟩
      rw [← sameToken read]
      exact recent
    · rw [replaced]
      constructor
      · intro revoked
        exact absurd revoked (not_revoked_of_rotated_logout injective ids hashes inside present active current
          hash sent (fresh payload))
      · rintro ⟨read, accepted | recent⟩
        · exact absurd accepted refused
        · rw [sameToken read] at late
          exact absurd recent late

/-- User 1 has signed in at time 0, and its session has the identifier 2. -/
def signedIn : Outcome Tokens :=
  createSession plainPlatform { now := 0 } { userId := 1, roles := [.user], userAgent := [], ipAddress := none }
    { users := [{ id := 1, role := .user, createdAt := 0 }], nextId := 2 }

def signedInTokens : Tokens := signTokens plainPlatform 0 { sub := 1, roles := [.user], sid := 2 }

def signedInSession : Session where
  id := 2
  userId := 1
  refreshTokenHash := signedInTokens.refreshToken
  expiresAt := 604800 * 1000000

def logoutRequest (accessToken : Option Text) : Request where
  cookies := { accessToken := accessToken.map .text, refreshToken := some (.text signedInTokens.refreshToken) }
  route := .logout

theorem signedInTokens_fresh (accessToken : Option Text) (payload : Payload) :
    logoutToken (logoutRequest accessToken).cookies (logoutRequest accessToken).headers ≠
      some (.text (signTokens plainPlatform 1000000 payload).refreshToken) := by
  intro equal
  have letters : signedInTokens.refreshToken = (signTokens plainPlatform 1000000 payload).refreshToken :=
    CookieValue.text.inj (Option.some.inj equal)
  have issued : some (Char.ofNat 0) = some (Char.ofNat 1) := congrArg (fun token => token[3]?) letters
  exact absurd issued (by decide)

theorem valid_logout_revokes :
    Revoked (handle plainPlatform { now := 1000000 } { now := 1000000 }
      (logoutRequest (some signedInTokens.accessToken)) signedIn.2).2 signedInSession.id := by
  have accepted : AccessAccepted plainPlatform 1000000 (logoutRequest (some signedInTokens.accessToken)).cookies {}
      { sub := 1, roles := [.user], sid := 2 } :=
    ⟨.text signedInTokens.accessToken, rfl, by decide⟩
  exact (logout_revokes_iff (fun _ _ same => same) (by decide) (by decide)
    (by decide : signedInSession ∈ signedIn.2.sessions) rfl rfl
    (signedInTokens_fresh (some signedInTokens.accessToken)) rfl (by decide)).mpr ⟨rfl, .inl ⟨_, accepted⟩⟩

/-- Without an access token the middleware replaces the token, so the logout ends no session. -/
theorem logout_without_access_token_keeps_session :
    signedInSession ∈ signedIn.2.sessions ∧
      signedInSession.isRevoked = false ∧
      getTime 1000000 < getTime signedInSession.expiresAt ∧
      signedInSession.refreshTokenHash = plainPlatform.sha256 signedInTokens.refreshToken ∧
      (logoutRequest none).cookies.refreshToken = some (.text signedInTokens.refreshToken) ∧
      (handle plainPlatform { now := 1000000 } { now := 1000000 } (logoutRequest none) signedIn.2).1.status =
        204 ∧
      ¬ Revoked (handle plainPlatform { now := 1000000 } { now := 1000000 } (logoutRequest none)
        signedIn.2).2 signedInSession.id := by
  refine ⟨by decide, rfl, by decide, rfl, rfl, by decide, ?_⟩
  unfold Revoked
  decide

end Requests

end Messinger
