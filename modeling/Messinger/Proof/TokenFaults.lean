import Messinger.Proof.Calls
import Messinger.Proof.RevokedRotations
import Messinger.Proof.Revocations

namespace Messinger
open Library SessionRepository

/-- The request leads to the row: its access token is missing or expired, and its refresh token has the hash. -/
structure Finds (platform : Platform) (env : Env) (cookies : Cookies) (headers : Headers) (store : Store)
    (refreshToken : Text) (session : Session) : Prop where
  access : ∀ accessToken, getAccessToken cookies headers = some accessToken →
    accessToken.verify platform platform.jwtSecret env.now = .expired
  presented : truthyCookie (getRefreshToken cookies headers) = some (.text refreshToken)
  reached : env.succeeds 0 = true
  found : findByEitherHash env.scan store (platform.sha256 refreshToken) = some session

/-- The refresh token does not verify, or its row is past its expiry. -/
def TokenFault (platform : Platform) (env : Env) (refreshToken : Text) (session : Session) : Prop :=
  (∀ payload, platform.jwtVerify refreshToken platform.jwtRefreshSecret env.now ≠ .payload payload) ∨
    getTime session.expiresAt < getTime env.now

/-- The request comes to the rotation of the active row with the claims of its token. -/
structure ComesToRotation (platform : Platform) (env : Env) (refreshToken : Text) (session : Session)
    (payload : Payload) : Prop where
  active : session.isRevoked = false
  verified : platform.jwtVerify refreshToken platform.jwtRefreshSecret env.now = .payload payload
  unexpired : getTime env.now ≤ getTime session.expiresAt

/-- The rotation that the request comes to throws. -/
def RotationThrows (platform : Platform) (env : Env) (store : Store) (refreshToken : Text)
    (session : Session) : Prop :=
  ∃ payload, ComesToRotation platform env refreshToken session payload ∧
    ∃ exception, (rotateSession platform (env.succeeds 3) env.now session.id payload.roles refreshToken
      store).1 = .error exception

/-- Only a fault of the token revokes the row, and a rotation that throws leaves the row and a retry alone. -/
structure OnlyFaultsRevoke (platform : Platform) (env : Env) (cookies : Cookies) (headers : Headers)
    (store : Store) (refreshToken : Text) (session : Session) : Prop where
  revokes : session.isRevoked = false →
    Revoked (authenticate platform env cookies headers store).store session.id →
      TokenFault platform env refreshToken session
  unchanged : RotationThrows platform env store refreshToken session →
    ∀ row ∈ (authenticate platform env cookies headers store).store.sessions, row.id = session.id → row = session
  retry : RotationThrows platform env store refreshToken session →
    ∀ again, (authenticate platform again cookies headers
        (authenticate platform env cookies headers store).store).result =
      (authenticate platform again cookies headers store).result

/-- Another row has the hash of the token that a rotation of this row would sign. -/
def hashTaken (platform : Platform) (now : Nat) (payload : Payload) (session : Session) (store : Store) : Bool :=
  store.sessions.any fun other => other.id != session.id && other.refreshTokenHash ==
    platform.sha256 (signTokens platform now
      { sub := session.userId, roles := payload.roles, sid := session.id }).refreshToken

/-- The database aborts the rotation, or the unique index on the hash rejects the new token. -/
def RotationAborts (platform : Platform) (env : Env) (store : Store) (refreshToken : Text) (session : Session)
    (payload : Payload) : Prop :=
  env.succeeds 3 = false ∨
    (inGracePeriod env.now session (platform.sha256 refreshToken) = false ∧
      session.refreshTokenHash = platform.sha256 refreshToken ∧
      hashTaken platform env.now payload session store = true)

section Faults
variable {platform : Platform} {env : Env} {cookies : Cookies} {headers : Headers} {store : Store}
  {refreshToken : Text} {session : Session} {payload : Payload}

theorem Finds.authenticate_eq (finds : Finds platform env cookies headers store refreshToken session) :
    authenticate platform env cookies headers store =
      Authentication.withSession platform env headers refreshToken session store := by
  have refreshed : Authentication.refresh platform env cookies headers store =
      Authentication.withSession platform env headers refreshToken session store := by
    unfold Authentication.refresh
    rw [finds.presented]
    simp only
    rw [if_pos finds.reached, finds.found]
  unfold authenticate
  cases present : getAccessToken cookies headers with
  | none => exact refreshed
  | some accessToken =>
      simp only
      rw [finds.access accessToken present]
      exact refreshed

theorem rotateSessionBody_throws_iff {now : Nat} (found : findById store session.id = some session) :
    (∃ exception, rotateSessionBody platform now session.id payload.roles refreshToken store =
        .error exception) ↔
      inGracePeriod now session (platform.sha256 refreshToken) = false ∧
        session.refreshTokenHash = platform.sha256 refreshToken ∧
        hashTaken platform now payload session store = true := by
  unfold rotateSessionBody
  rw [found]
  simp only
  cases recent : inGracePeriod now session (platform.sha256 refreshToken) with
  | true =>
      refine iff_of_false ?_ fun conditions => Bool.noConfusion conditions.1
      rintro ⟨exception, failed⟩
      cases failed
  | false =>
      rw [if_neg Bool.false_ne_true]
      by_cases current : session.refreshTokenHash = platform.sha256 refreshToken
      · rw [if_neg (not_not_intro current)]
        change (∃ exception, (if hashTaken platform now payload session store = true then _ else _) = _) ↔ _
        by_cases taken : hashTaken platform now payload session store = true
        · rw [if_pos taken]
          exact iff_of_true ⟨_, rfl⟩ ⟨rfl, current, taken⟩
        · rw [if_neg taken]
          refine iff_of_false ?_ fun conditions => taken conditions.2.2
          rintro ⟨exception, failed⟩
          cases failed
      · rw [if_pos current]
        refine iff_of_false ?_ fun conditions => current conditions.2.1
        rintro ⟨exception, failed⟩
        cases failed

/-- The conditions of an abort are those under which the rotation throws. -/
theorem rotateSession_throws_iff (found : findById store session.id = some session) :
    (∃ exception, (rotateSession platform (env.succeeds 3) env.now session.id payload.roles refreshToken
        store).1 = .error exception) ↔
      RotationAborts platform env store refreshToken session payload := by
  unfold rotateSession RotationAborts
  rw [transaction_throws_iff, rotateSessionBody_throws_iff found]

/-- A request that comes to its rotation answers with its outcome. -/
theorem ComesToRotation.authenticate_eq
    (comes : ComesToRotation platform env refreshToken session payload)
    (finds : Finds platform env cookies headers store refreshToken session) :
    authenticate platform env cookies headers store =
      match rotateSession platform (env.succeeds 3) env.now session.id payload.roles refreshToken store with
      | (.error _, next) => Authentication.caught env session.id .invalid next
      | (.ok none, next) => Authentication.refuse "UNABLE_TO_ROTATE_SESSION" .unchanged next
      | (.ok (some tokens), next) => Authentication.accept headers payload tokens next := by
  have active : ¬ session.isRevoked = true := comes.active ▸ Bool.false_ne_true
  rw [finds.authenticate_eq, Authentication.withSession, comes.verified]
  change Authentication.withPayload platform env headers refreshToken session payload store = _
  unfold Authentication.withPayload
  exact (if_neg active).trans (if_neg (Nat.not_lt_of_le comes.unexpired))

theorem Finds.mem (finds : Finds platform env cookies headers store refreshToken session) :
    session ∈ store.sessions :=
  (List.mem_filter.mp (pickRow_mem finds.found)).1

/-- A rotation that throws revokes the row exactly when the update of the `catch` block succeeds. -/
theorem ComesToRotation.store_of_throws (comes : ComesToRotation platform env refreshToken session payload)
    (finds : Finds platform env cookies headers store refreshToken session)
    (throws : ∃ exception, (rotateSession platform (env.succeeds 3) env.now session.id payload.roles
      refreshToken store).1 = .error exception) :
    (authenticate platform env cookies headers store).store =
      if env.succeeds 4 then revokeSession session.id .invalid store else store := by
  obtain ⟨exception, failed⟩ := throws
  rw [comes.authenticate_eq finds]
  cases outcome : rotateSession platform (env.succeeds 3) env.now session.id payload.roles refreshToken store with
  | mk result next =>
      rw [outcome] at failed
      cases failed
      obtain rfl := rotateSession_error outcome
      unfold Authentication.caught
      simp only
      cases env.succeeds 4 <;> rfl

/-- A rotation that does not throw revokes no row. -/
theorem ComesToRotation.revoked_of_returns (comes : ComesToRotation platform env refreshToken session payload)
    (finds : Finds platform env cookies headers store refreshToken session)
    (returns : ¬ ∃ exception, (rotateSession platform (env.succeeds 3) env.now session.id payload.roles
      refreshToken store).1 = .error exception)
    (revoked : Revoked (authenticate platform env cookies headers store).store session.id) :
    Revoked store session.id := by
  have only := revokesOnly_rotateSession platform store (env.succeeds 3) env.now session.id payload.roles
    refreshToken
  rw [comes.authenticate_eq finds] at revoked
  cases outcome : rotateSession platform (env.succeeds 3) env.now session.id payload.roles refreshToken store with
  | mk result next =>
      rw [outcome] at returns only revoked
      have same : Revoked next session.id := by
        cases result with
        | error exception => exact absurd ⟨exception, rfl⟩ returns
        | ok answer => cases answer <;> exact revoked
      obtain before | ⟨row, -, selected, -⟩ := only.revoked session.id same
      · exact before
      · cases selected

/-- Without a fault of the token the request for an active row comes to the rotation. -/
theorem comesToRotation_of_no_fault (active : session.isRevoked = false)
    (sound : ¬ TokenFault platform env refreshToken session) :
    ∃ payload, ComesToRotation platform env refreshToken session payload := by
  obtain ⟨verifies, current⟩ := not_or.mp sound
  obtain ⟨payload, verified⟩ := not_forall.mp verifies
  exact ⟨payload, active, not_not.mp verified, Nat.le_of_not_lt current⟩

theorem ComesToRotation.no_fault (comes : ComesToRotation platform env refreshToken session payload) :
    ¬ TokenFault platform env refreshToken session := by
  rintro (fails | expired)
  · exact fails payload comes.verified
  · exact Nat.not_lt_of_le comes.unexpired expired

end Faults

/-- Only token faults revoke the row exactly unless a rotation aborts and the `catch` block writes. -/
theorem token_faults_revoke_iff {platform : Platform} {env : Env} {cookies : Cookies} {headers : Headers}
    {store : Store} {refreshToken : Text} {session : Session} (ids : (store.sessions.map Session.id).Nodup)
    (finds : Finds platform env cookies headers store refreshToken session) :
    OnlyFaultsRevoke platform env cookies headers store refreshToken session ↔
      ¬ ∃ payload, ComesToRotation platform env refreshToken session payload ∧
        RotationAborts platform env store refreshToken session payload ∧ env.succeeds 4 = true := by
  have stored := findById_of_mem ids finds.mem
  constructor
  · rintro only ⟨payload, comes, aborts, written⟩
    have throws := (rotateSession_throws_iff stored).mpr aborts
    have after := comes.store_of_throws finds throws
    rw [if_pos written] at after
    refine comes.no_fault (only.revokes comes.active ?_)
    rw [after]
    exact revoked_of_revokeSession finds.mem .invalid
  · intro spared
    have kept : RotationThrows platform env store refreshToken session →
        (authenticate platform env cookies headers store).store = store := by
      rintro ⟨payload, comes, throws⟩
      rw [comes.store_of_throws finds throws, if_neg]
      exact fun written => spared ⟨payload, comes, (rotateSession_throws_iff stored).mp throws, written⟩
    constructor
    · intro active revoked
      by_contra sound
      obtain ⟨payload, comes⟩ := comesToRotation_of_no_fault active sound
      have untouched : ¬ Revoked store session.id := not_revoked_of_mem ids finds.mem active
      by_cases throws : ∃ exception, (rotateSession platform (env.succeeds 3) env.now session.id payload.roles
          refreshToken store).1 = .error exception
      · rw [kept ⟨payload, comes, throws⟩] at revoked
        exact untouched revoked
      · exact untouched (comes.revoked_of_returns finds throws revoked)
    · intro throws row inside same
      rw [kept throws] at inside
      exact List.inj_on_of_nodup_map ids inside finds.mem same
    · intro throws again
      rw [kept throws]

/-- This is the row that the sign-in of user 1 wrote. -/
def activeSession : Session :=
  { id := 3, userId := 1, refreshTokenHash := activeToken
    expiresAt := parseExpiry plainPlatform.jwtRefreshExpiresIn * 1000000 }

/-- The request brings the refresh token alone. -/
def refreshCookies : Cookies := { refreshToken := some (.text activeToken) }

/-- The database answers the first read of the request and nothing after it. -/
def lostEnv : Env := { now := 0, succeeds := fun call => call == 0 }

/-- The rotation throws, the write of the `catch` block fails as well, and the session lives on. -/
theorem lostEnv_token_faults :
    OnlyFaultsRevoke plainPlatform lostEnv refreshCookies {} activeStore activeToken activeSession := by
  have finds : Finds plainPlatform lostEnv refreshCookies {} activeStore activeToken activeSession :=
    { access := fun _ present => by cases present
      presented := by decide
      reached := rfl
      found := by decide }
  refine (token_faults_revoke_iff (by decide) finds).mpr ?_
  rintro ⟨payload, -, -, written⟩
  cases written

/-- The database aborts the transaction of the rotation and nothing else. -/
def abortingEnv : Env := { now := 0, succeeds := fun call => call != 3 }

/-- The aborted rotation revokes a session whose token is good. -/
theorem aborted_rotation_revokes :
    ¬ OnlyFaultsRevoke plainPlatform abortingEnv refreshCookies {} activeStore activeToken activeSession := by
  intro only
  have comes : ComesToRotation plainPlatform abortingEnv activeToken activeSession
      { sub := 1, roles := [.user], sid := 3 } := ⟨rfl, by decide, by decide⟩
  have revoked : Revoked (authenticate plainPlatform abortingEnv refreshCookies {} activeStore).store
      activeSession.id := ⟨_, List.mem_singleton_self _, rfl, rfl⟩
  exact comes.no_fault (only.revokes rfl revoked)

end Messinger
