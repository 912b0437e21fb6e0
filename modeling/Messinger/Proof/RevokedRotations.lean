import Messinger.Proof.Rotations
import Messinger.Model.SessionTasks

namespace Messinger
open Library SessionRepository

/-- A rotation that locks a revoked row hands out no tokens. -/
def refusesRevoked (platform : Platform) (progress : Library.Progress Store AuthTask) : AuthTask → Env → Prop
  | .rotateSession session payload refreshToken, env =>
      Revoked progress.state session.id → ∀ tokens,
        (rotateSession platform (env.succeeds 3) env.now session.id payload.roles refreshToken
          progress.state).1 ≠ .ok (some tokens)
  | _, _ => True

/-- The commit of the task revokes the row. -/
def AuthTask.revokes (task : AuthTask) (env : Env) (row : Session) : Bool :=
  match task with
  | .rotateSession _ _ _ => false
  | .revokeAllSessions _ payload => env.succeeds 1 && (row.userId == payload.sub && !row.isRevoked)
  | .expireSession session => env.succeeds 2 && row.id == session.id
  | .caught sessionId _ => env.succeeds 4 && row.id == sessionId
  | .revokeSession sessionId => env.succeeds 0 && row.id == sessionId

/-- The task is a rotation of the session that waits for its turn. -/
def AuthTask.rotates (sessionId : Uuid) : AuthTask → Bool
  | .rotateSession session _ _ => session.id == sessionId
  | _ => false

/-- No rotation waits for a row that the commit revokes. -/
def revokesAlone (progress : Library.Progress Store AuthTask) (task : AuthTask) (env : Env) : Prop :=
  ∀ row ∈ progress.state.sessions, task.revokes env row = true →
    ∀ other ∈ progress.pending, other.rotates row.id = false

instance (progress : Library.Progress Store AuthTask) (task : AuthTask) (env : Env) :
    Decidable (revokesAlone progress task env) :=
  inferInstanceAs (Decidable (∀ row ∈ progress.state.sessions, task.revokes env row = true →
    ∀ other ∈ progress.pending, other.rotates row.id = false))

/-- No rotation waits for a revoked row. -/
structure RotationsLive (progress : Library.Progress Store AuthTask) : Prop where
  ids : (progress.state.sessions.map Session.id).Nodup
  live : ∀ session payload refreshToken, .rotateSession session payload refreshToken ∈ progress.pending →
    ¬ Revoked progress.state session.id

section Steps
variable {platform : Platform} {store next : Store}

/-- The next store keeps the identifiers and revokes no more than the selected rows. -/
structure RevokesOnly (selected : Session → Bool) (store next : Store) : Prop where
  ids : next.sessions.map Session.id = store.sessions.map Session.id
  revoked : ∀ sessionId, Revoked next sessionId →
    Revoked store sessionId ∨ ∃ row ∈ store.sessions, selected row = true ∧ row.id = sessionId

theorem RevokesOnly.refl (selected : Session → Bool) (store : Store) : RevokesOnly selected store store :=
  ⟨rfl, fun _ => .inl⟩

theorem RevokesOnly.updateWhere (matching selected : Session → Bool) (change : Session → Session)
    (keeps : ∀ session, (change session).id = session.id)
    (known : ∀ session, matching session = true → (change session).isRevoked = true →
      session.isRevoked = true ∨ selected session = true) :
    RevokesOnly selected store { store with sessions := updateWhere matching change store.sessions } := by
  refine ⟨map_updateWhere Session.id matching change keeps store.sessions, ?_⟩
  rintro sessionId ⟨row, inside, id, revoked⟩
  obtain ⟨old, present, same⟩ := mem_updateWhere.mp inside
  split at same
  · next matched =>
      rw [same] at id revoked
      rw [keeps] at id
      obtain before | now := known old matched revoked
      · exact .inl ⟨old, present, id, before⟩
      · exact .inr ⟨old, present, now, id⟩
  · rw [same] at id revoked
    exact .inl ⟨old, present, id, revoked⟩

variable (platform store) in
theorem revokesOnly_rotateSession (commits : Bool) (now : Nat) (sessionId : Uuid) (roles : List UserRole)
    (refreshToken : Text) :
    RevokesOnly (fun _ => false) store
      (rotateSession platform commits now sessionId roles refreshToken store).2 := by
  cases outcome : rotateSession platform commits now sessionId roles refreshToken store with
  | mk result next =>
      cases result with
      | error exception =>
          obtain rfl := rotateSession_error outcome
          exact .refl _ _
      | ok answer =>
          cases answer with
          | none =>
              obtain rfl := rotateSession_none outcome
              exact .refl _ _
          | some tokens =>
              obtain ⟨session, -, ⟨-, rfl, -⟩ | ⟨-, -, -, rfl⟩⟩ := rotateSession_cases outcome
              · exact .refl _ _
              · exact .updateWhere _ _ _ (fun _ => rfl) fun _ _ => .inl

theorem revokesOnly_revokeSession {selected : Session → Bool} (sessionId : Uuid) (reason : SessionRevokeReason)
    (known : ∀ session, session.id = sessionId → selected session = true) :
    RevokesOnly selected store (revokeSession sessionId reason store) := by
  refine .updateWhere _ _ _ (fun _ => rfl) ?_
  exact fun session same _ => .inr (known session (beq_iff_eq.mp same))

variable (platform store) in
/-- A resumed task revokes no more than its rows. -/
theorem resume_revokesOnly (task : AuthTask) (env : Env) :
    RevokesOnly (task.revokes env) store (AuthTask.resume platform store task env).1 := by
  unfold AuthTask.resume
  cases task with
  | rotateSession session payload refreshToken =>
      have only := revokesOnly_rotateSession platform store (env.succeeds 3) env.now
        session.id payload.roles refreshToken
      simp only
      generalize rotateSession platform (env.succeeds 3) env.now session.id payload.roles refreshToken store =
        outcome at only ⊢
      obtain ⟨result, next⟩ := outcome
      cases result with
      | error exception => exact only
      | ok answer => exact only
  | revokeAllSessions session payload =>
      simp only
      split
      · next committed =>
          refine .updateWhere _ _ _ (fun _ => rfl) ?_
          intro row matched _
          rw [AuthTask.revokes, committed, Bool.true_and]
          exact .inr matched
      · exact .refl _ store
  | expireSession session =>
      simp only
      split
      · next committed =>
          refine revokesOnly_revokeSession session.id .expired ?_
          intro row same
          rw [AuthTask.revokes, committed, same, beq_self_eq_true, Bool.and_self]
      · exact .refl _ store
  | caught sessionId reason =>
      simp only
      split
      · next committed =>
          refine revokesOnly_revokeSession sessionId reason ?_
          intro row same
          rw [AuthTask.revokes, committed, same, beq_self_eq_true, Bool.and_self]
      · exact .refl _ store
  | revokeSession sessionId =>
      simp only
      split
      · next committed =>
          refine revokesOnly_revokeSession sessionId .logout ?_
          intro row same
          rw [AuthTask.revokes, committed, same, beq_self_eq_true, Bool.and_self]
      · exact .refl _ store

/-- No step of a request leads to a rotation. -/
theorem resume_not_rotation (task : AuthTask) (env : Env) (session : Session) (payload : Payload)
    (refreshToken : Text) :
    (AuthTask.resume platform store task env).2 ≠ some (.rotateSession session payload refreshToken) := by
  unfold AuthTask.resume
  cases task with
  | rotateSession row claims token =>
      simp only
      generalize rotateSession platform (env.succeeds 3) env.now row.id claims.roles token store = outcome
      obtain ⟨result, next⟩ := outcome
      cases result with
      | error exception => exact nofun
      | ok answer => exact nofun
  | revokeAllSessions row claims =>
      simp only
      split <;> exact nofun
  | expireSession row =>
      simp only
      split <;> exact nofun
  | caught sessionId reason =>
      simp only
      split <;> exact nofun
  | revokeSession sessionId =>
      simp only
      split <;> exact nofun

/-- A request that waits for a rotation has read an active row. -/
theorem refresh_rotation {env : Env} {cookies : Cookies} {headers : Headers} {session : Session}
    {payload : Payload} {refreshToken : Text}
    (waits : AuthTask.refresh platform env cookies headers store =
      some (.rotateSession session payload refreshToken)) :
    session ∈ store.sessions ∧ session.isRevoked = false := by
  unfold AuthTask.refresh at waits
  split at waits
  · cases waits
  · cases waits
  · split at waits
    · obtain ⟨row, found, decided⟩ := Option.map_eq_some_iff.mp waits
      have inside := (List.mem_filter.mp (pickRow_mem found)).1
      unfold AuthTask.withSession at decided
      split at decided
      · split at decided
        · cases decided
        · next active =>
            split at decided
            · cases decided
            · cases decided
              exact ⟨inside, Bool.eq_false_iff.mpr active⟩
      · cases decided
      · cases decided
    · cases waits

theorem authenticate_rotation {env : Env} {cookies : Cookies} {headers : Headers} {session : Session}
    {payload : Payload} {refreshToken : Text}
    (waits : AuthTask.authenticate platform env cookies headers store =
      some (.rotateSession session payload refreshToken)) :
    session ∈ store.sessions ∧ session.isRevoked = false := by
  unfold AuthTask.authenticate at waits
  split at waits
  · exact refresh_rotation waits
  · split at waits
    · cases waits
    · exact refresh_rotation waits
    · cases waits

end Steps

section Turns
variable {platform : Platform} {progress : Library.Progress Store AuthTask}

theorem RotationsLive.start (live : RotationsLive progress) (call : Env × AuthCall) :
    RotationsLive (waiting progress.pending (AuthTask.start platform progress.state call)) := by
  obtain ⟨env, call⟩ := call
  cases call with
  | authenticate cookies headers =>
      refine ⟨live.ids, ?_⟩
      intro session payload refreshToken inside
      obtain old | new := mem_waiting.mp inside
      · exact live.live session payload refreshToken old
      · obtain ⟨present, active⟩ := authenticate_rotation new
        exact not_revoked_of_mem live.ids present active
  | logout refreshToken =>
      refine ⟨live.ids, ?_⟩
      intro session payload token inside
      obtain old | new := mem_waiting.mp inside
      · exact live.live session payload token old
      · obtain ⟨row, -, decided⟩ := Option.bind_eq_some_iff.mp new
        split at decided
        · cases decided
        · cases decided

theorem RotationsLive.resume (live : RotationsLive progress) {position : Nat} {task : AuthTask} {env : Env}
    (alone : revokesAlone progress task env) :
    RotationsLive (waiting (progress.pending.eraseIdx position)
      (AuthTask.resume platform progress.state task env)) := by
  have only := resume_revokesOnly platform progress.state task env
  refine ⟨only.ids ▸ live.ids, ?_⟩
  intro session payload refreshToken inside revoked
  obtain old | new := mem_waiting.mp inside
  · have waits := List.mem_of_mem_eraseIdx old
    obtain before | ⟨row, present, selected, id⟩ := only.revoked session.id revoked
    · exact live.live session payload refreshToken waits before
    · have apart := alone row present selected _ waits
      rw [AuthTask.rotates, id, beq_self_eq_true] at apart
      cases apart
  · exact resume_not_rotation task env session payload refreshToken new

end Turns

/-- While every revocation commits without a waiting rotation of its row, no revoked row is rotated. -/
theorem revoked_session_issues_nothing {platform : Platform} {store : Store}
    (ids : (store.sessions.map Session.id).Nodup) (turns : List (Turn (Env × AuthCall) Env))
    (meets : Meets (authSystem platform).advance (OnResume revokesAlone) ⟨store, []⟩ turns) :
    Meets (authSystem platform).advance (OnResume (refusesRevoked platform)) ⟨store, []⟩ turns := by
  have live (position : Nat) :
      RotationsLive (stateAt (authSystem platform).advance ⟨store, []⟩ turns position) := by
    apply meets.invariant (authSystem platform).advance RotationsLive
    · exact ⟨ids, fun _ _ _ inside => absurd inside List.not_mem_nil⟩
    · intro progress turn held alone
      refine (authSystem platform).advance_keeps RotationsLive held ?_ ?_
      · rintro call rfl
        exact held.start call
      · rintro place env task rfl resuming
        exact held.resume (alone task resuming)
  intro position turn present
  cases turn with
  | call call => exact trivial
  | resume place env =>
      intro task resuming
      cases task with
      | rotateSession session payload refreshToken =>
          intro revoked
          exact absurd revoked
            ((live position).live session payload refreshToken (List.mem_of_getElem? resuming))
      | revokeAllSessions session payload => exact trivial
      | expireSession session => exact trivial
      | caught sessionId reason => exact trivial
      | revokeSession sessionId => exact trivial

/-- User 1 has signed in at time 0. -/
def activeStore : Store :=
  (createSession plainPlatform { now := 0 }
    { userId := 1, roles := [.user], userAgent := [], ipAddress := none }
    { users := [{ id := 1, role := .user, createdAt := 0 }], nextId := 3 }).2

/-- This is the refresh token of the session. -/
def activeToken : Text := (signTokens plainPlatform 0 { sub := 1, roles := [.user], sid := 3 }).refreshToken

/-- The logout has read the row while the first request waits for its rotation, and the second request starts and
ends between the two; the revocation commits after both rotations. -/
def refreshThenLogout : List (Turn (Env × AuthCall) Env) :=
  [.call ({ now := 0 }, .authenticate { refreshToken := some (.text activeToken) } {}),
    .call ({ now := 1 }, .logout activeToken), .resume 0 { now := 1 },
    .call ({ now := 1 }, .authenticate { refreshToken := some (.text activeToken) } {}), .resume 1 { now := 2 },
    .resume 0 { now := 2 },
    .call ({ now := 3 }, .authenticate { refreshToken := some (.text activeToken) } {}), .resume 0 { now := 3 }]

theorem refreshThenLogout_issues_nothing :
    Meets (authSystem plainPlatform).advance (OnResume (refusesRevoked plainPlatform)) ⟨activeStore, []⟩
      refreshThenLogout :=
  revoked_session_issues_nothing (by decide) refreshThenLogout (by decide)

/-- The logout revokes the session between the read and the rotation of the request. -/
def logoutDuringRefresh : List (Turn (Env × AuthCall) Env) :=
  [.call ({ now := 0 }, .authenticate { refreshToken := some (.text activeToken) } {}),
    .call ({ now := 1 }, .logout activeToken), .resume 1 { now := 1 }, .resume 0 { now := 2 }]

/-- The rotation locks the revoked row and hands out a new pair. -/
theorem logoutDuringRefresh_issues_tokens :
    ¬ Meets (authSystem plainPlatform).advance (OnResume (refusesRevoked plainPlatform)) ⟨activeStore, []⟩
      logoutDuringRefresh := by
  intro refuses
  have revoked : Revoked (stateAt (authSystem plainPlatform).advance ⟨activeStore, []⟩ logoutDuringRefresh 3).state 3 :=
    ⟨_, List.mem_singleton_self _, rfl, rfl⟩
  exact refuses 3 _ rfl _ rfl revoked _ rfl

end Messinger
