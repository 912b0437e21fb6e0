import Messinger.Proof.Authentications

namespace Messinger
open Library SessionRepository Controllers

/-- The session is revoked in the store. -/
def Revoked (store : Store) (sessionId : Uuid) : Prop :=
  ∃ row ∈ store.sessions, row.id = sessionId ∧ row.isRevoked = true

theorem httpCode_ne_noContent (exception : Exception) : exception.httpCode ≠ 204 := by
  cases exception <;> simp [Exception.httpCode]

section Rows
variable {store : Store}

theorem findById_of_mem (ids : (store.sessions.map Session.id).Nodup) {session : Session}
    (inside : session ∈ store.sessions) : findById store session.id = some session :=
  lookup_of_mem Session.id ids inside

variable (store) in
theorem map_id_updateSession (sessionId : Uuid) (change : Session → Session)
    (keeps : ∀ session, (change session).id = session.id) :
    (updateSession sessionId change store).sessions.map Session.id = store.sessions.map Session.id :=
  map_updateWhere Session.id _ change keeps store.sessions

/-- Revoking one session leaves the others as they are. -/
theorem revoked_revokeSession {sessionId other : Uuid} {reason : SessionRevokeReason}
    (apart : other ≠ sessionId) :
    Revoked (revokeSession sessionId reason store) other ↔ Revoked store other := by
  constructor
  · rintro ⟨row, inside, same, revoked⟩
    obtain ⟨old, present, equal⟩ := mem_updateWhere.mp inside
    split at equal
    · next selected =>
        rw [equal] at same
        exact absurd (same.symm.trans (by simpa using selected)) apart
    · exact ⟨old, present, by rw [← equal]; exact same, by rw [← equal]; exact revoked⟩
  · rintro ⟨row, inside, same, revoked⟩
    refine ⟨row, mem_updateWhere.mpr ⟨row, inside, ?_⟩, same, revoked⟩
    rw [if_neg]
    rw [same]
    simpa using apart

theorem revoked_of_revokeSession {session : Session} (inside : session ∈ store.sessions)
    (reason : SessionRevokeReason) : Revoked (revokeSession session.id reason store) session.id := by
  refine ⟨{ session with isRevoked := true, revokedReason := some reason },
    mem_updateWhere.mpr ⟨session, inside, ?_⟩, rfl, rfl⟩
  rw [if_pos (beq_self_eq_true session.id)]

theorem not_revoked_of_mem (ids : (store.sessions.map Session.id).Nodup) {session : Session}
    (inside : session ∈ store.sessions) (active : session.isRevoked = false) :
    ¬ Revoked store session.id := by
  rintro ⟨row, present, same, revoked⟩
  rw [List.inj_on_of_nodup_map ids present inside same, active] at revoked
  cases revoked

end Rows

section Service
variable {platform : Platform} {env : Env} {cookies : Cookies} {headers : Headers} {store : Store}
  {request : Request}

/-- A logout with another token leaves the session active. -/
theorem not_revoked_of_logout (ids : (store.sessions.map Session.id).Nodup) {session : Session}
    (inside : session ∈ store.sessions) (active : session.isRevoked = false)
    (other : ∀ refreshToken, logoutToken request.cookies request.headers = some (.text refreshToken) →
      session.refreshTokenHash ≠ platform.sha256 refreshToken) :
    ¬ Revoked (Controllers.logout platform env request store).2 session.id := by
  have kept := not_revoked_of_mem ids inside active
  unfold Controllers.logout
  cases read : logoutToken request.cookies request.headers with
  | none => exact kept
  | some cookie =>
      cases cookie with
      | json => exact kept
      | text refreshToken =>
          simp only
          unfold AuthService.logout
          cases found : findByRefreshTokenHash store (platform.sha256 refreshToken) with
          | none => exact kept
          | some row =>
              obtain ⟨present, same⟩ := lookup_mem Session.refreshTokenHash found
              have apart : session.id ≠ row.id := by
                intro equal
                rw [List.inj_on_of_nodup_map ids inside present equal] at other
                exact other refreshToken read same
              simp only
              split
              · exact kept
              · split
                · exact fun revoked => kept ((revoked_revokeSession apart).mp revoked)
                · exact kept

/-- A successful logout with the current token of an active session revokes it. -/
theorem revoked_of_logout (hashes : (store.sessions.map Session.refreshTokenHash).Nodup)
    {session : Session} {refreshToken : Text} (inside : session ∈ store.sessions)
    (active : session.isRevoked = false)
    (current : session.refreshTokenHash = platform.sha256 refreshToken)
    (read : logoutToken request.cookies request.headers = some (.text refreshToken))
    (answered : (Controllers.logout platform env request store).1.status = 204) :
    Revoked (Controllers.logout platform env request store).2 session.id := by
  have found : findByRefreshTokenHash store (platform.sha256 refreshToken) = some session := by
    rw [← current]
    exact lookup_of_mem Session.refreshTokenHash hashes inside
  unfold Controllers.logout AuthService.logout at answered ⊢
  simp only [read, found, active, Bool.false_eq_true, if_false] at answered ⊢
  split at answered
  · next done =>
      rw [if_pos done]
      exact revoked_of_revokeSession inside .logout
  · exact absurd answered (httpCode_ne_noContent .failedCall)

/-- The handler reads only tokens that the middleware reads, too. -/
theorem refreshTokenOf_of_logoutToken {refreshToken : CookieValue}
    (read : logoutToken cookies headers = some refreshToken) :
    truthyCookie (getRefreshToken cookies headers) = some refreshToken := by
  unfold logoutToken at read
  unfold getRefreshToken
  cases cookie : cookies.refreshToken with
  | some value =>
      rw [cookie, Option.some_or] at read
      rw [read]
      obtain ⟨same, nonempty⟩ := Option.filter_eq_some_iff.mp read
      cases same
      exact Option.filter_eq_some_iff.mpr ⟨rfl, nonempty⟩
  | none =>
      rw [cookie, Option.none_or] at read
      cases header : headers.xRefreshToken with
      | none =>
          rw [header] at read
          cases read
      | some value =>
          rw [header] at read
          cases value with
          | one value => exact read
          | many values => cases read

end Service

end Messinger
