import Messinger.Library.Runs
import Messinger.Proof.SessionTokens

namespace Messinger
open Library SessionRepository

/-- The pair that a call signs when it rotates the row. -/
def RotateCall.tokens (call : RotateCall) (platform : Platform) (session : Session) : Tokens :=
  signTokens platform call.now { sub := session.userId, roles := call.roles, sid := session.id }

section Calls
variable {platform : Platform} {store : Store} {session : Session} {sessionId : Uuid} {call : RotateCall}

/-- A call that presents the previous token within the grace period gets the pair of the rotation. -/
theorem RotateCall.run_recent (found : findById store sessionId = some session)
    (recent : inGracePeriod call.now session (platform.sha256 call.refreshToken) = true) :
    call.run platform sessionId store =
      (.ok (some ⟨session.rotatedAccessToken.getD [], session.rotatedRefreshToken.getD []⟩), store) := by
  unfold run rotateSession transaction rotateSessionBody
  rw [found]
  simp only [recent, if_true]

/-- A call that presents neither the current nor a recent token gets nothing. -/
theorem RotateCall.run_rejected (found : findById store sessionId = some session)
    (late : inGracePeriod call.now session (platform.sha256 call.refreshToken) = false)
    (other : session.refreshTokenHash ≠ platform.sha256 call.refreshToken) :
    call.run platform sessionId store = (.ok none, store) := by
  unfold run rotateSession transaction rotateSessionBody
  rw [found]
  simp only [late, Bool.false_eq_true, if_false]
  rw [if_pos other]
  rfl

/-- No other row has the hash of a token that is signed for this row. -/
theorem hash_unique (signs : platform.SignsClaims) (owned : TokensOwned platform store) (session : Session)
    (call : RotateCall) :
    ¬ (store.sessions.any fun other => other.id != session.id &&
      other.refreshTokenHash == platform.sha256 (call.tokens platform session).refreshToken) = true := by
  intro taken
  obtain ⟨other, inside, same⟩ := List.any_eq_true.mp taken
  obtain ⟨apart, hash⟩ := Bool.and_eq_true_iff.mp same
  obtain ⟨now, payload, sid, signed⟩ := owned.owned other inside
  have tokens := signs.hashes (signed.symm.trans (beq_iff_eq.mp hash))
  have claims := signs.claims _ _ _ _ _ _ tokens
  rw [claims] at sid
  exact bne_iff_ne.mp apart sid.symm

/-- A call that presents the current token rotates the row. -/
theorem RotateCall.run_current (signs : platform.SignsClaims) (owned : TokensOwned platform store)
    (found : findById store sessionId = some session)
    (late : inGracePeriod call.now session (platform.sha256 call.refreshToken) = false)
    (current : session.refreshTokenHash = platform.sha256 call.refreshToken) :
    call.run platform sessionId store =
      (.ok (some (call.tokens platform session)),
        updateSession session.id (rotated platform call.now (call.tokens platform session)) store) := by
  have unique := hash_unique signs owned session call
  unfold run rotateSession transaction rotateSessionBody
  rw [found]
  simp only [late, Bool.false_eq_true, if_false]
  rw [if_neg (not_not_intro current)]
  unfold RotateCall.tokens at unique ⊢
  rw [if_neg unique]
  rfl

/-- The call runs the update of the row. -/
def Rotates (platform : Platform) (sessionId : Uuid) (store : Store) (call : RotateCall) : Prop :=
  ∃ session tokens, findById store sessionId = some session ∧
    inGracePeriod call.now session (platform.sha256 call.refreshToken) = false ∧
    session.refreshTokenHash = platform.sha256 call.refreshToken ∧
    (call.run platform sessionId store).1 = .ok (some tokens)

theorem findById_updateSession {change : Session → Session} (keeps : ∀ session, (change session).id = session.id)
    (found : findById store sessionId = some session) :
    findById (updateSession session.id change store) sessionId = some (change session) := by
  have id := (lookup_mem Session.id found).2
  unfold findById updateSession at *
  rw [lookup_updateWhere Session.id sessionId _ change keeps, found, Option.map_some, if_pos (beq_self_eq_true _)]

/-- A call rotates the row, repeats a recent rotation or leaves the store. -/
theorem RotateCall.run_cases (call : RotateCall) (signs : platform.SignsClaims) (owned : TokensOwned platform store)
    (found : findById store sessionId = some session) :
    (inGracePeriod call.now session (platform.sha256 call.refreshToken) = false ∧
        session.refreshTokenHash = platform.sha256 call.refreshToken ∧
        call.run platform sessionId store =
          (.ok (some (call.tokens platform session)),
            updateSession session.id (rotated platform call.now (call.tokens platform session)) store)) ∨
      (¬ Rotates platform sessionId store call ∧ (call.run platform sessionId store).2 = store) := by
  cases late : inGracePeriod call.now session (platform.sha256 call.refreshToken) with
  | true =>
      refine .inr ⟨?_, ?_⟩
      · rintro ⟨row, tokens, again, other, -⟩
        rw [found] at again
        cases again
        rw [late] at other
        cases other
      · rw [run_recent found late]
  | false =>
      by_cases current : session.refreshTokenHash = platform.sha256 call.refreshToken
      · exact .inl ⟨rfl, current, run_current signs owned found late current⟩
      · refine .inr ⟨?_, ?_⟩
        · rintro ⟨row, tokens, again, -, hash, -⟩
          rw [found] at again
          cases again
          exact current hash
        · rw [run_rejected found late current]

end Calls

end Messinger
