import Messinger.Model.SessionCalls
import Messinger.Proof.Middlewares
import Messinger.Proof.Revocations

namespace Messinger
open Library SessionRepository

/-- Different texts have different hashes, and a signed token carries its claims. -/
structure Platform.SignsClaims (platform : Platform) : Prop where
  hashes : Function.Injective platform.sha256
  claims : ∀ payload other secret expiresIn now later,
    platform.jwtSign payload secret expiresIn now = platform.jwtSign other secret expiresIn later → payload = other

/-- Every session has its own identifier and meets the condition. -/
structure SessionsMeet (condition : Session → Prop) (store : Store) : Prop where
  identified : SessionsIdentified store
  each : ∀ session ∈ store.sessions, condition session

namespace SessionsMeet
variable {platform : Platform} {store : Store} {condition : Session → Prop}

theorem updateWhere (meets : SessionsMeet condition store) (matching : Session → Bool)
    (change : Session → Session) (keeps : ∀ session, (change session).id = session.id)
    (kept : ∀ session ∈ store.sessions, matching session = true → condition session → condition (change session)) :
    SessionsMeet condition { store with sessions := updateWhere matching change store.sessions } := by
  refine ⟨meets.identified.updateWhere matching change keeps, ?_⟩
  intro session inside
  obtain ⟨old, present, same⟩ := mem_updateWhere.mp inside
  split at same
  · next selected =>
      rw [same]
      exact kept old present selected (meets.each old present)
  · rw [same]
    exact meets.each old present

/-- A rotation keeps the condition when the rotated row meets it. -/
theorem rotateSession (meets : SessionsMeet condition store) (commits : Bool) (now : Nat)
    (sessionId : Uuid) (roles : List UserRole) (refreshToken : Text)
    (rotates : ∀ session tokens, findById store sessionId = some session → condition session →
      tokens = signTokens platform now { sub := session.userId, roles, sid := session.id } →
      (rotateSession platform commits now sessionId roles refreshToken store).1 = .ok (some tokens) →
      condition (rotated platform now tokens session)) :
    SessionsMeet condition (rotateSession platform commits now sessionId roles refreshToken store).2 := by
  cases outcome : SessionRepository.rotateSession platform commits now sessionId roles refreshToken store with
  | mk result next =>
      cases result with
      | error exception => exact rotateSession_error outcome ▸ meets
      | ok answer =>
          cases answer with
          | none => exact rotateSession_none outcome ▸ meets
          | some tokens =>
              obtain ⟨session, found, ⟨-, same, -⟩ | ⟨-, -, signed, rfl⟩⟩ := rotateSession_cases outcome
              · exact same ▸ meets
              · refine meets.updateWhere _ _ (fun _ => rfl) ?_
                intro row inside selected before
                obtain ⟨present, -⟩ := lookup_mem Session.id found
                have same : row = session := List.inj_on_of_nodup_map meets.identified.distinct inside present
                  (beq_iff_eq.mp selected)
                subst same
                exact rotates row tokens found before signed (congrArg Prod.fst outcome)

theorem createSession (meets : SessionsMeet condition store) (env : Env) (params : CreateSessionParams)
    (creates : (createSession platform env params store).1 = .ok (openedTokens platform env params store) →
      condition (openedSession platform env params store)) :
    SessionsMeet condition (createSession platform env params store).2 := by
  refine ⟨(Undisturbed.createSession platform env params store).identified meets.identified, ?_⟩
  obtain failed | created := createSession_cases platform env params store
  · rw [failed]
    exact meets.each
  · rw [created] at creates ⊢
    intro session inside
    obtain old | new := List.mem_append.mp inside
    · exact meets.each session old
    · rw [List.mem_singleton.mp new]
      exact creates rfl

/-- Each call keeps a condition that new, rotated and revoked rows meet. -/
theorem run (meets : SessionsMeet condition store) (action : Env × SessionCall)
    (revokes : ∀ session reason, condition session →
      condition { session with isRevoked := true, revokedReason := some reason })
    (creates : ∀ params, action.2 = .createSession params →
      (SessionRepository.createSession platform action.1 params store).1 =
        .ok (openedTokens platform action.1 params store) →
      condition (openedSession platform action.1 params store))
    (rotates : ∀ sessionId roles refreshToken session tokens,
      action.2 = .rotateSession sessionId roles refreshToken →
      findById store sessionId = some session → condition session →
      tokens = signTokens platform action.1.now { sub := session.userId, roles, sid := session.id } →
      (SessionRepository.rotateSession platform (action.1.succeeds 0) action.1.now sessionId roles refreshToken
        store).1 = .ok (some tokens) →
      condition (rotated platform action.1.now tokens session)) :
    SessionsMeet condition (runSession platform store action) := by
  obtain ⟨env, call⟩ := action
  cases call with
  | createSession params => exact meets.createSession env params (creates params rfl)
  | rotateSession sessionId roles refreshToken =>
      exact meets.rotateSession (env.succeeds 0) env.now sessionId roles refreshToken
        fun session tokens => rotates sessionId roles refreshToken session tokens rfl
  | revokeSession sessionId reason =>
      unfold runSession
      simp only
      split
      · exact meets.updateWhere _ _ (fun _ => rfl) fun session _ _ => revokes session reason
      · exact meets
  | revokeAllSessions userId =>
      unfold runSession
      simp only
      split
      · exact meets.updateWhere _ _ (fun _ => rfl) fun session _ _ => revokes session .suspicious
      · exact meets
  | deleteUser userId =>
      unfold runSession
      simp only
      split
      · exact ⟨(Undisturbed.deleteUsers _ store).identified meets.identified,
          fun session inside => meets.each session (List.mem_filter.mp inside).1⟩
      · exact meets

end SessionsMeet

/-- The hash is that of a refresh token that was signed for the session. -/
def Session.owned (platform : Platform) (session : Session) : Prop :=
  ∃ now payload, payload.sid = session.id ∧
    session.refreshTokenHash = platform.sha256 (signTokens platform now payload).refreshToken

/-- Every session has its own identifier and the hash of its own token. -/
structure TokensOwned (platform : Platform) (store : Store) : Prop where
  identified : SessionsIdentified store
  owned : ∀ session ∈ store.sessions, session.owned platform

section Rows
variable {platform : Platform} {store next : Store}

theorem tokensOwned_iff : TokensOwned platform store ↔ SessionsMeet (Session.owned platform) store :=
  ⟨fun owned => ⟨owned.identified, owned.owned⟩, fun meets => ⟨meets.identified, meets.each⟩⟩

/-- A rotation signs the new token for the row that it locks. -/
theorem owned_rotated {now : Nat} {session : Session} {roles : List UserRole} {tokens : Tokens}
    (signed : tokens = signTokens platform now { sub := session.userId, roles, sid := session.id }) :
    (rotated platform now tokens session).owned platform :=
  ⟨now, _, rfl, congrArg (fun pair : Tokens => platform.sha256 pair.refreshToken) signed⟩

theorem TokensOwned.rotateSession (owned : TokensOwned platform store) (commits : Bool) (now : Nat)
    (sessionId : Uuid) (roles : List UserRole) (refreshToken : Text) :
    TokensOwned platform (rotateSession platform commits now sessionId roles refreshToken store).2 := by
  apply tokensOwned_iff.mpr
  apply (tokensOwned_iff.mp owned).rotateSession
  intro session tokens _ _ signed _
  exact owned_rotated signed

theorem TokensOwned.createSession (owned : TokensOwned platform store) (env : Env)
    (params : CreateSessionParams) : TokensOwned platform (createSession platform env params store).2 :=
  tokensOwned_iff.mpr ((tokensOwned_iff.mp owned).createSession env params fun _ => ⟨env.now, _, rfl, rfl⟩)

theorem TokensOwned.run (owned : TokensOwned platform store) (action : Env × SessionCall) :
    TokensOwned platform (runSession platform store action) := by
  apply tokensOwned_iff.mpr
  apply (tokensOwned_iff.mp owned).run action
  · exact fun session reason before => before
  · exact fun params _ _ => ⟨action.1.now, _, rfl, rfl⟩
  · exact fun sessionId roles refreshToken session tokens _ _ _ signed _ => owned_rotated signed

theorem SessionsReached.tokensOwned (reached : SessionsReached platform store) : TokensOwned platform store := by
  obtain ⟨start, actions, empty, rfl⟩ := reached
  apply run_invariant (runSession platform) (TokensOwned platform) fun _ action owned => owned.run action
  refine ⟨⟨?_, ?_⟩, ?_⟩ <;> simp [empty]

end Rows

end Messinger
