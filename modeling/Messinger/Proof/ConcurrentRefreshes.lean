import Messinger.Proof.Rotations
import Messinger.Proof.SigningPlatform

namespace Messinger
open Library SessionRepository

/-- This is the store when the call at the given position has obtained the row lock. -/
def lockedStore (platform : Platform) (sessionId : Uuid) (store : Store) (calls : List RotateCall)
    (position : Nat) : Store :=
  stateAt (fun current call => (RotateCall.run call platform sessionId current).2) store calls position

/-- All calls return the pair, the first one alone rotates the row, and the row has the hash of its token. -/
structure RefreshesAgree (platform : Platform) (sessionId : Uuid) (store : Store) (calls : List RotateCall)
    (tokens : Tokens) : Prop where
  answers : ∀ position (call : RotateCall), calls[position]? = some call →
    (call.run platform sessionId (lockedStore platform sessionId store calls position)).1 = .ok (some tokens)
  once : ∀ position (call : RotateCall), calls[position]? = some call →
    (Rotates platform sessionId (lockedStore platform sessionId store calls position) call ↔ position = 0)
  stored : ∃ row, findById (lockedStore platform sessionId store calls calls.length) sessionId = some row ∧
    row.refreshTokenHash = platform.sha256 tokens.refreshToken

section Agreement
variable {platform : Platform} {store : Store} {session : Session} {sessionId : Uuid}

/-- A rotation is recent for the token that it replaces during the next five seconds. -/
theorem inGracePeriod_rotated {first later : Nat} (tokens : Tokens) {refreshToken : Text}
    (current : session.refreshTokenHash = platform.sha256 refreshToken) (within : getTime later ≤ getTime first + 5000) :
    inGracePeriod later (rotated platform first tokens session) (platform.sha256 refreshToken) = true := by
  have whole : getTime (jsDate first) = getTime first := by
    unfold getTime jsDate
    exact Nat.mul_div_cancel _ (by decide)
  unfold inGracePeriod rotated rotationGracePeriod
  simp only [Option.any_some, whole, current, beq_self_eq_true, Bool.and_true, decide_eq_true_eq]
  exact within

/-- All calls that present the current token of a row within five seconds after the first one that locks the
row return the same pair, and only the first one rotates the row. -/
theorem concurrent_refreshes_agree (signs : platform.SignsClaims) (reached : SessionsReached platform store)
    (found : findById store sessionId = some session) {refreshToken : Text}
    (current : session.refreshTokenHash = platform.sha256 refreshToken)
    (other : session.previousRefreshTokenHash ≠ some (platform.sha256 refreshToken))
    (first : RotateCall) (rest : List RotateCall)
    (present : ∀ call ∈ first :: rest, call.refreshToken = refreshToken)
    (within : ∀ call ∈ rest, getTime call.now ≤ getTime first.now + 5000) :
    ∃ tokens, RefreshesAgree platform sessionId store (first :: rest) tokens := by
  have owned := reached.tokensOwned
  have firstToken := present first List.mem_cons_self
  have late : inGracePeriod first.now session (platform.sha256 first.refreshToken) = false := by
    unfold inGracePeriod
    rw [firstToken, beq_eq_false_iff_ne.mpr other, Bool.and_false]
  have ran := RotateCall.run_current signs owned found late (firstToken ▸ current)
  -- every later call finds the row as the first one has left it
  let row := rotated platform first.now (first.tokens platform session) session
  let next := updateSession session.id (rotated platform first.now (first.tokens platform session)) store
  have stored : findById next sessionId = some row := findById_updateSession (fun _ => rfl) found
  have recent : ∀ call ∈ rest, inGracePeriod call.now row (platform.sha256 call.refreshToken) = true := by
    intro call inside
    rw [present call (List.mem_cons_of_mem _ inside)]
    exact inGracePeriod_rotated (first.tokens platform session) current (within call inside)
  have repeats : ∀ call ∈ rest,
      call.run platform sessionId next = (.ok (some (first.tokens platform session)), next) :=
    fun call inside => RotateCall.run_recent stored (recent call inside)
  have after (position : Nat) : lockedStore platform sessionId store (first :: rest) (position + 1) = next := by
    unfold lockedStore
    rw [stateAt_cons, ran]
    refine stateAt_fixed _ ?_ position
    intro call inside
    rw [repeats call inside]
  refine ⟨first.tokens platform session, ?_, ?_, ?_⟩
  · intro position call listed
    cases position with
    | zero =>
        cases listed
        exact congrArg Prod.fst ran
    | succ position =>
        rw [after, repeats call (List.mem_of_getElem? listed)]
  · intro position call listed
    cases position with
    | zero =>
        cases listed
        exact iff_of_true ⟨session, _, found, late, firstToken ▸ current, congrArg Prod.fst ran⟩ rfl
    | succ position =>
        refine iff_of_false ?_ (Nat.succ_ne_zero position)
        rintro ⟨again, tokens, locked, unrecent, -, -⟩
        rw [after, stored] at locked
        cases locked
        rw [recent call (List.mem_of_getElem? listed)] at unrecent
        cases unrecent
  · exact ⟨row, by rw [List.length_cons, after]; exact stored, rfl⟩

end Agreement

/-- The first call falls in the second of the sign-in, where it signs the same token again. -/
theorem signedInStore_refreshes_agree :
    ∃ tokens, RefreshesAgree signingPlatform 5 signedInStore
      (⟨500000, [.user], firstRefreshToken⟩ :: [⟨500000, [.user], firstRefreshToken⟩,
        ⟨5500000, [.user], firstRefreshToken⟩]) tokens :=
  concurrent_refreshes_agree signingPlatform_signs.toSignsClaims signedInStore_reached rfl rfl (by decide) _ _
    (by decide) (by decide)

end Messinger
