import Messinger.Model.SessionTasks

namespace Messinger
open Library SessionRepository

section Turns
variable {platform : Platform} {env : Env} {store : Store}

theorem resume_caught_alone (sessionId : Uuid) (reason : SessionRevokeReason) :
    (authSystem platform).advance ⟨store, [.caught sessionId reason]⟩ (.resume 0 env) =
      ⟨(Authentication.caught env sessionId reason store).store, []⟩ := by
  have resumed : (authSystem platform).resume store (.caught sessionId reason) env =
      AuthTask.resume platform store (.caught sessionId reason) env := rfl
  rw [Cooperative.advance_resume_alone, resumed]
  unfold AuthTask.resume Authentication.caught
  cases env.succeeds 4 <;> rfl

theorem withPayload_alone (headers : Headers) (refreshToken : Text) (session : Session) (payload : Payload) :
    [Turn.resume 0 env, .resume 0 env].foldl (authSystem platform).advance
        ⟨store, [if session.isRevoked then .revokeAllSessions session payload
          else if getTime session.expiresAt < getTime env.now then .expireSession session
          else .rotateSession session payload refreshToken]⟩ =
      ⟨(Authentication.withPayload platform env headers refreshToken session payload store).store, []⟩ := by
  have resumed (task : AuthTask) : (authSystem platform).resume store task env =
      AuthTask.resume platform store task env := rfl
  rw [List.foldl_cons, List.foldl_cons, List.foldl_nil, Cooperative.advance_resume_alone, resumed]
  unfold Authentication.withPayload
  by_cases revoked : session.isRevoked = true
  · rw [if_pos revoked, if_pos revoked]
    unfold AuthTask.resume
    cases env.succeeds 1 with
    | true => rfl
    | false => exact resume_caught_alone session.id .invalid
  · rw [if_neg revoked, if_neg revoked]
    by_cases expired : getTime session.expiresAt < getTime env.now
    · rw [if_pos expired, if_pos expired]
      unfold AuthTask.resume
      cases env.succeeds 2 with
      | true => rfl
      | false => exact resume_caught_alone session.id .invalid
    · rw [if_neg expired, if_neg expired]
      unfold AuthTask.resume
      simp only
      generalize rotateSession platform (env.succeeds 3) env.now session.id payload.roles refreshToken store =
        outcome
      obtain ⟨result, next⟩ := outcome
      cases result with
      | error exception => exact resume_caught_alone session.id .invalid
      | ok answer =>
          cases answer with
          | none => rfl
          | some tokens => rfl

theorem withSession_alone (headers : Headers) (refreshToken : Text) (session : Session) :
    [Turn.resume 0 env, .resume 0 env].foldl (authSystem platform).advance
        ⟨store, [AuthTask.withSession platform env refreshToken session]⟩ =
      ⟨(Authentication.withSession platform env headers refreshToken session store).store, []⟩ := by
  have caught (reason : SessionRevokeReason) :
      [Turn.resume 0 env, .resume 0 env].foldl (authSystem platform).advance
        ⟨store, [.caught session.id reason]⟩ =
      ⟨(Authentication.caught env session.id reason store).store, []⟩ := by
    rw [List.foldl_cons, resume_caught_alone]
    rfl
  unfold AuthTask.withSession Authentication.withSession
  cases platform.jwtVerify refreshToken platform.jwtRefreshSecret env.now with
  | payload payload => exact withPayload_alone headers refreshToken session payload
  | expired => exact caught .expired
  | invalid => exact caught .invalid

/-- A request that runs alone does what `authenticate` does. -/
theorem authenticate_alone (cookies : Cookies) (headers : Headers) :
    [Turn.call (env, .authenticate cookies headers), .resume 0 env, .resume 0 env].foldl
        (authSystem platform).advance ⟨store, []⟩ =
      ⟨(authenticate platform env cookies headers store).store, []⟩ := by
  have idle : [Turn.resume 0 env, .resume 0 env].foldl (authSystem platform).advance ⟨store, []⟩ = ⟨store, []⟩ :=
    rfl
  have refreshes : [Turn.resume 0 env, .resume 0 env].foldl (authSystem platform).advance
      ⟨store, (AuthTask.refresh platform env cookies headers store).toList⟩ =
        ⟨(Authentication.refresh platform env cookies headers store).store, []⟩ := by
    unfold AuthTask.refresh Authentication.refresh
    cases truthyCookie (getRefreshToken cookies headers) with
    | none => exact idle
    | some cookie =>
        cases cookie with
        | json => exact idle
        | text refreshToken =>
            cases env.succeeds 0 with
            | false =>
                simp only [Bool.false_eq_true, if_false]
                exact idle
            | true =>
                simp only [if_true]
                cases findByEitherHash env.scan store (platform.sha256 refreshToken) with
                | none => exact idle
                | some session => exact withSession_alone headers refreshToken session
  have begins : (authSystem platform).start store (env, .authenticate cookies headers) =
      (store, AuthTask.authenticate platform env cookies headers store) := rfl
  rw [List.foldl_cons, Cooperative.advance_call_alone, begins, waiting, List.nil_append]
  unfold AuthTask.authenticate Messinger.authenticate
  cases getAccessToken cookies headers with
  | none => exact refreshes
  | some accessToken =>
      simp only
      cases accessToken.verify platform platform.jwtSecret env.now with
      | payload payload => exact idle
      | expired => exact refreshes
      | invalid => exact idle

/-- A logout that runs alone does what `logout` does. -/
theorem logout_alone (refreshToken : Text) :
    [Turn.call (env, .logout refreshToken), .resume 0 env].foldl (authSystem platform).advance ⟨store, []⟩ =
      ⟨(AuthService.logout platform env refreshToken store).2, []⟩ := by
  have begins : (authSystem platform).start store (env, .logout refreshToken) =
      AuthTask.start platform store (env, .logout refreshToken) := rfl
  have resumed (task : AuthTask) : (authSystem platform).resume store task env =
      AuthTask.resume platform store task env := rfl
  rw [List.foldl_cons, Cooperative.advance_call_alone, begins]
  unfold AuthTask.start AuthService.logout
  simp only
  cases findByRefreshTokenHash store (platform.sha256 refreshToken) with
  | none => rfl
  | some session =>
      simp only [Option.bind_some]
      cases session.isRevoked with
      | true => rfl
      | false =>
          simp only [Bool.false_eq_true, if_false, waiting_some]
          rw [List.foldl_cons, List.foldl_nil, Cooperative.advance_resume_alone, resumed]
          unfold AuthTask.resume
          cases env.succeeds 0 <;> rfl

end Turns

end Messinger
