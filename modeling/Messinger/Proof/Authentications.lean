import Messinger.Model.Router

namespace Messinger
open Library SessionRepository

/-- Only texts verify. -/
theorem CookieValue.verify_payload {platform : Platform} {secret : Text} {now : Nat} {token : CookieValue}
    {payload : Payload} (verified : token.verify platform secret now = .payload payload) :
    ∃ text, token = .text text ∧ platform.jwtVerify text secret now = .payload payload := by
  cases token with
  | text value => exact ⟨value, rfl, verified⟩
  | json => cases verified

/-- The request brings an access token that verifies. -/
def AccessAccepted (platform : Platform) (now : Nat) (cookies : Cookies) (headers : Headers)
    (payload : Payload) : Prop :=
  ∃ accessToken, getAccessToken cookies headers = some accessToken ∧
    accessToken.verify platform platform.jwtSecret now = .payload payload

/-- The middlewares read the refresh token of the request like this. -/
def refreshTokenOf (request : Request) : Option CookieValue :=
  truthyCookie (getRefreshToken request.cookies request.headers)

section Rotation
variable {platform : Platform} {commits : Bool} {now : Nat} {sessionId : Uuid} {roles : List UserRole}
  {refreshToken : Text} {store next : Store} {tokens : Tokens}

/-- A rotation that hands out tokens repeats a recent one or replaces the current token. -/
theorem rotateSession_cases
    (rotates : rotateSession platform commits now sessionId roles refreshToken store = (.ok (some tokens), next)) :
    ∃ session, findById store sessionId = some session ∧
      ((inGracePeriod now session (platform.sha256 refreshToken) = true ∧ next = store ∧
          tokens = ⟨session.rotatedAccessToken.getD [], session.rotatedRefreshToken.getD []⟩) ∨
        (inGracePeriod now session (platform.sha256 refreshToken) = false ∧
          session.refreshTokenHash = platform.sha256 refreshToken ∧
          tokens = signTokens platform now { sub := session.userId, roles, sid := session.id } ∧
          next = updateSession session.id (rotated platform now tokens) store)) := by
  obtain ⟨exception, failed⟩ | ⟨value, after, body, -, done⟩ :=
    transaction_cases commits store (rotateSessionBody platform now sessionId roles refreshToken)
  · rw [rotateSession, failed] at rotates
    cases rotates
  · rw [rotateSession, done] at rotates
    cases rotates
    unfold rotateSessionBody at body
    split at body
    · cases body
    · next session found =>
        refine ⟨session, found, ?_⟩
        simp only at body
        split at body
        · next recent =>
            cases body
            exact .inl ⟨recent, rfl, rfl⟩
        · next late =>
            split at body
            · cases body
            · next same =>
                split at body
                · cases body
                · cases body
                  exact .inr ⟨by simpa using late, of_not_not same, rfl, rfl⟩

end Rotation

section Authenticate
variable {platform : Platform} {env : Env} {cookies : Cookies} {headers : Headers} {store : Store}
  {locals : Locals}

namespace Authentication

theorem caught_refuses {sessionId : Uuid} {reason : SessionRevokeReason} :
    (caught env sessionId reason store).result ≠ .ok locals := by
  unfold caught
  split
  · intro passes
    cases passes
  · intro passes
    cases passes

/-- A verified refresh token passes by a rotation of its active session. -/
theorem withPayload_cases {refreshToken : Text} {session : Session} {payload : Payload}
    (passes : (withPayload platform env headers refreshToken session payload store).result = .ok locals) :
    session.isRevoked = false ∧ getTime env.now ≤ getTime session.expiresAt ∧
      ∃ tokens next,
        rotateSession platform (env.succeeds 3) env.now session.id payload.roles refreshToken store =
          (.ok (some tokens), next) ∧
        withPayload platform env headers refreshToken session payload store =
          accept headers payload tokens next := by
  unfold withPayload at passes ⊢
  split at passes
  · split at passes
    · cases passes
    · exact absurd passes caught_refuses
  · next active =>
      split at passes
      · split at passes
        · cases passes
        · exact absurd passes caught_refuses
      · next unexpired =>
          rw [if_neg active, if_neg unexpired]
          refine ⟨by simpa using active, Nat.le_of_not_lt unexpired, ?_⟩
          split at passes
          · exact absurd passes caught_refuses
          · cases passes
          · next tokens next done => exact ⟨tokens, next, done, rfl⟩

theorem withSession_cases {refreshToken : Text} {session : Session}
    (passes : (withSession platform env headers refreshToken session store).result = .ok locals) :
    ∃ payload, platform.jwtVerify refreshToken platform.jwtRefreshSecret env.now = .payload payload ∧
      withSession platform env headers refreshToken session store =
        withPayload platform env headers refreshToken session payload store := by
  unfold withSession at passes ⊢
  split at passes
  · next payload verified => exact ⟨payload, verified, rfl⟩
  · exact absurd passes caught_refuses
  · exact absurd passes caught_refuses

/-- The refresh path passes a request by a rotation of the session that its token belongs to. -/
theorem refresh_cases (passes : (refresh platform env cookies headers store).result = .ok locals) :
    ∃ refreshToken session payload tokens next,
      truthyCookie (getRefreshToken cookies headers) = some (.text refreshToken) ∧
      findByEitherHash env.scan store (platform.sha256 refreshToken) = some session ∧
      platform.jwtVerify refreshToken platform.jwtRefreshSecret env.now = .payload payload ∧
      rotateSession platform (env.succeeds 3) env.now session.id payload.roles refreshToken store =
        (.ok (some tokens), next) ∧
      refresh platform env cookies headers store = accept headers payload tokens next := by
  unfold refresh at passes ⊢
  split at passes
  · cases passes
  · cases passes
  · next refreshToken presented =>
      split at passes
      · next reached =>
          rw [if_pos reached]
          split at passes
          · cases passes
          · next session found =>
              obtain ⟨payload, verified, same⟩ := withSession_cases passes
              rw [same] at passes
              obtain ⟨-, -, tokens, next, done, accepted⟩ := withPayload_cases passes
              exact ⟨refreshToken, session, payload, tokens, next, presented, found, verified, done,
                same.trans accepted⟩
      · cases passes

end Authentication

open Authentication in
/-- A request passes by its access token, which changes nothing, or by a rotation. -/
theorem authenticate_cases
    (passes : (authenticate platform env cookies headers store).result = .ok locals) :
    (∃ payload, AccessAccepted platform env.now cookies headers payload ∧
        authenticate platform env cookies headers store =
          { result := .ok { userId := payload.sub, roles := payload.roles }, store }) ∨
      ((∀ payload, ¬ AccessAccepted platform env.now cookies headers payload) ∧
        authenticate platform env cookies headers store = refresh platform env cookies headers store) := by
  unfold authenticate at passes ⊢
  split at passes
  · next missing =>
      refine .inr ⟨?_, rfl⟩
      rintro payload ⟨accessToken, present, -⟩
      rw [missing] at present
      cases present
  · next accessToken present =>
      split at passes
      · next payload verified =>
          exact .inl ⟨payload, ⟨accessToken, present, verified⟩, rfl⟩
      · next expired =>
          refine .inr ⟨?_, rfl⟩
          rintro payload ⟨other, same, verified⟩
          rw [present] at same
          cases same
          rw [expired] at verified
          cases verified
      · cases passes

end Authenticate

end Messinger
