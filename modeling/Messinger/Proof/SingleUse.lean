import Messinger.Proof.ConcurrentRefreshes

namespace Messinger
open Library SessionRepository

/-- The refresh token was issued in the second of the clock reading. -/
def IssuedInSecond (platform : Platform) (now : Nat) (refreshToken : Text) : Prop :=
  ∃ payload issued, issued / 1000000 = now / 1000000 ∧
    refreshToken = (signTokens platform issued payload).refreshToken

/-- The call does not present the current token of the session in the second of its issue. -/
def PresentsLater (platform : Platform) (sessionId : Uuid) (store : Store) (call : RotateCall) : Prop :=
  ∀ session, findById store sessionId = some session →
    session.refreshTokenHash = platform.sha256 call.refreshToken →
    ¬ IssuedInSecond platform call.now call.refreshToken

/-- A call gets nothing for a token that an earlier call has rotated away more than five seconds before. -/
def SingleUse (platform : Platform) (sessionId : Uuid) (store : Store) (calls : List RotateCall) : Prop :=
  ∀ (earlier later : Nat) (first second : RotateCall), earlier < later →
    calls[earlier]? = some first → calls[later]? = some second →
    Rotates platform sessionId (lockedStore platform sessionId store calls earlier) first →
    second.refreshToken = first.refreshToken → getTime first.now + 5000 < getTime second.now →
    (second.run platform sessionId (lockedStore platform sessionId store calls later)).1 = .ok none

/-- The clock readings of the sign-in and of the calls do not go back. -/
def ClockForward (start : Nat) (calls : List RotateCall) : Prop :=
  (start :: calls.map RotateCall.now).Pairwise fun first second => getTime first ≤ getTime second

theorem ClockForward.start_le {start : Nat} {calls : List RotateCall} (clock : ClockForward start calls)
    {position : Nat} {call : RotateCall} (present : calls[position]? = some call) :
    getTime start ≤ getTime call.now :=
  (List.pairwise_cons.mp clock).1 _ (List.mem_map_of_mem (List.mem_of_getElem? present))

theorem ClockForward.le {start : Nat} {calls : List RotateCall} (clock : ClockForward start calls)
    {earlier later : Nat} {first second : RotateCall} (ordered : earlier < later)
    (here : calls[earlier]? = some first) (there : calls[later]? = some second) :
    getTime first.now ≤ getTime second.now := by
  have pairs := List.pairwise_map.mp (List.pairwise_cons.mp clock).2
  obtain ⟨inside, rfl⟩ := List.getElem?_eq_some_iff.mp here
  obtain ⟨below, rfl⟩ := List.getElem?_eq_some_iff.mp there
  exact List.pairwise_iff_getElem.mp pairs earlier later inside below ordered

theorem second_le {first second : Nat} (ordered : getTime first ≤ getTime second) :
    first / 1000000 ≤ second / 1000000 := by
  unfold getTime at ordered
  omega

section Run
variable {platform : Platform} {store : Store} {sessionId : Uuid} {calls : List RotateCall}

/-- The current token of the session was issued no later than the coming calls. -/
def IssuedBefore (platform : Platform) (sessionId : Uuid) (calls : List RotateCall) (position : Nat)
    (store : Store) : Prop :=
  ∃ session payload issued, findById store sessionId = some session ∧
    session.refreshTokenHash = platform.sha256 (signTokens platform issued payload).refreshToken ∧
    ∀ later (call : RotateCall), position ≤ later → calls[later]? = some call → getTime issued ≤ getTime call.now

/-- The token is not current any more, and at most the rotation at the given time has replaced it. -/
structure Retired (platform : Platform) (sessionId : Uuid) (refreshToken : Text) (time : Nat) (store : Store) :
    Prop where
  row : ∃ session, findById store sessionId = some session ∧
    session.refreshTokenHash ≠ platform.sha256 refreshToken ∧
    (session.previousRefreshTokenHash = some (platform.sha256 refreshToken) →
      ∃ rotatedAt, session.rotatedAt = some rotatedAt ∧ getTime rotatedAt ≤ getTime time)
  issued : ∃ payload issued, refreshToken = (signTokens platform issued payload).refreshToken ∧
    issued / 1000000 < time / 1000000

theorem lockedStore_succ {position : Nat} {call : RotateCall} (present : calls[position]? = some call) :
    lockedStore platform sessionId store calls (position + 1) =
      (call.run platform sessionId (lockedStore platform sessionId store calls position)).2 :=
  stateAt_succ _ present

theorem lockedStore_succ_of_none {position : Nat} (absent : calls[position]? = none) :
    lockedStore platform sessionId store calls (position + 1) =
      lockedStore platform sessionId store calls position :=
  stateAt_succ_of_none _ absent

theorem TokensOwned.lockedStore (owned : TokensOwned platform store) (sessionId : Uuid) (calls : List RotateCall)
    (position : Nat) : TokensOwned platform (lockedStore platform sessionId store calls position) := by
  induction position with
  | zero => exact owned
  | succ position ih =>
      cases present : calls[position]? with
      | none => exact lockedStore_succ_of_none present ▸ ih
      | some call =>
          rw [lockedStore_succ present]
          exact ih.rotateSession true call.now sessionId call.roles call.refreshToken

theorem issuedBefore_lockedStore (signs : platform.SignsClaims) (owned : TokensOwned platform store)
    {start : Nat} (clock : ClockForward start calls)
    (initial : IssuedBefore platform sessionId calls 0 store) (position : Nat) :
    IssuedBefore platform sessionId calls position (lockedStore platform sessionId store calls position) := by
  induction position with
  | zero => exact initial
  | succ position ih =>
      obtain ⟨session, payload, issued, found, hash, before⟩ := ih
      cases present : calls[position]? with
      | none =>
          rw [lockedStore_succ_of_none present]
          exact ⟨session, payload, issued, found, hash, fun later call after => before later call (Nat.le_of_succ_le after)⟩
      | some call =>
          rw [lockedStore_succ present]
          obtain ⟨-, -, ran⟩ | ⟨-, same⟩ := call.run_cases signs (owned.lockedStore sessionId calls position) found
          · rw [ran]
            refine ⟨_, _, call.now, findById_updateSession (fun _ => rfl) found, rfl, ?_⟩
            intro later other after listed
            exact clock.le after present listed
          · rw [same]
            exact ⟨session, payload, issued, found, hash, fun later call after => before later call (Nat.le_of_succ_le after)⟩

/-- A rotation in a later second than the issue of its token retires the token. -/
theorem Retired.of_rotates (signs : platform.SignsSeconds) (owned : TokensOwned platform store) {call : RotateCall}
    (issued : ∃ session payload issued, findById store sessionId = some session ∧
      session.refreshTokenHash = platform.sha256 (signTokens platform issued payload).refreshToken ∧
      getTime issued ≤ getTime call.now)
    (rotates : Rotates platform sessionId store call) (fresh : PresentsLater platform sessionId store call) :
    Retired platform sessionId call.refreshToken call.now (call.run platform sessionId store).2 := by
  obtain ⟨session, payload, issued, found, hash, before⟩ := issued
  obtain ⟨-, current, ran⟩ | ⟨idle, -⟩ := call.run_cases signs.toSignsClaims owned found
  · have token : call.refreshToken = (signTokens platform issued payload).refreshToken :=
      signs.hashes (current.symm.trans hash)
    have apart : issued / 1000000 ≠ call.now / 1000000 :=
      fun same => fresh session found current ⟨payload, issued, same, token⟩
    have sooner : issued / 1000000 < call.now / 1000000 := Nat.lt_of_le_of_ne (second_le before) apart
    rw [ran]
    refine ⟨⟨_, findById_updateSession (fun _ => rfl) found, ?_, ?_⟩, payload, issued, token, sooner⟩
    · intro again
      have signed := signs.hashes again
      rw [token] at signed
      exact apart (signs.seconds _ _ _ _ _ _ signed).symm
    · intro _
      refine ⟨jsDate call.now, rfl, ?_⟩
      unfold getTime jsDate
      rw [Nat.mul_div_cancel _ (by decide)]
  · exact absurd rotates idle

/-- A retired token stays retired, whatever later calls present. -/
theorem Retired.run (signs : platform.SignsSeconds) (owned : TokensOwned platform store) {refreshToken : Text}
    {time : Nat} (retired : Retired platform sessionId refreshToken time store) {call : RotateCall}
    (after : getTime time ≤ getTime call.now) :
    Retired platform sessionId refreshToken time (call.run platform sessionId store).2 := by
  obtain ⟨⟨session, found, apart, previous⟩, payload, issued, token, sooner⟩ := retired
  obtain ⟨-, current, ran⟩ | ⟨-, same⟩ := call.run_cases signs.toSignsClaims owned found
  · rw [ran]
    refine ⟨⟨_, findById_updateSession (fun _ => rfl) found, ?_, ?_⟩, payload, issued, token, sooner⟩
    · intro again
      have signed := signs.hashes again
      rw [token] at signed
      have seconds := signs.seconds _ _ _ _ _ _ signed
      exact absurd (second_le after) (Nat.not_le_of_lt (seconds ▸ sooner))
    · exact fun again => absurd (Option.some.inj again) apart
  · rw [same]
    exact ⟨⟨session, found, apart, previous⟩, payload, issued, token, sooner⟩

/-- A retired token gets nothing more than five seconds later. -/
theorem Retired.refused {refreshToken : Text} {time : Nat}
    (retired : Retired platform sessionId refreshToken time store) {call : RotateCall}
    (presents : call.refreshToken = refreshToken) (late : getTime time + 5000 < getTime call.now) :
    (call.run platform sessionId store).1 = .ok none := by
  obtain ⟨⟨session, found, apart, previous⟩, -⟩ := retired
  rw [← presents] at apart previous
  have expired : inGracePeriod call.now session (platform.sha256 call.refreshToken) = false := by
    cases recent : inGracePeriod call.now session (platform.sha256 call.refreshToken) with
    | false => rfl
    | true =>
        obtain ⟨within, same⟩ := Bool.and_eq_true_iff.mp recent
        obtain ⟨rotatedAt, stored, early⟩ := previous (beq_iff_eq.mp same)
        rw [stored, Option.any_some, decide_eq_true_eq, rotationGracePeriod] at within
        omega
  rw [RotateCall.run_rejected found expired apart]

end Run

/-- A sign-in opens a session whose current token was issued at the sign-in. -/
theorem issuedBefore_createSession {platform : Platform} {store opened : Store}
    (identified : SessionsIdentified store) {env : Env} {params : CreateSessionParams} {tokens : Tokens}
    (created : createSession platform env params store = (.ok tokens, opened)) {calls : List RotateCall}
    (clock : ClockForward env.now calls) : IssuedBefore platform store.nextId calls 0 opened := by
  obtain ⟨session, sessions, id, hash⟩ : ∃ session, opened.sessions = store.sessions ++ [session] ∧
      session.id = store.nextId ∧ session.refreshTokenHash = platform.sha256 (signTokens platform env.now
        { sub := params.userId, roles := params.roles, sid := store.nextId }).refreshToken := by
    rcases createSession_cases platform env params store with failed | stored
    · rw [failed] at created
      cases created
    · rw [stored] at created
      cases created
      exact ⟨openedSession platform env params store, rfl, rfl, rfl⟩
  have free : lookup Session.id store.nextId store.sessions = none := by
    rw [lookup_eq_none]
    exact fun session inside same => absurd (identified.known session inside) (same ▸ Nat.lt_irrefl _)
  have found : findById opened store.nextId = some session := by
    unfold findById
    rw [sessions, lookup_append, free, Option.none_or, ← id]
    exact lookup_of_mem Session.id (List.nodup_singleton _) (List.mem_singleton_self session)
  exact ⟨session, _, env.now, found, hash, fun _ _ _ listed => clock.start_le listed⟩

/-- In a run of rotations that follows the sign-in, and in which no call presents the current token in the
second of its issue, every rotated token is refused when its grace period is over. -/
theorem refresh_tokens_single_use {platform : Platform} (signs : platform.SignsSeconds) {store opened : Store}
    (reached : SessionsReached platform store) {env : Env} {params : CreateSessionParams} {tokens : Tokens}
    (created : createSession platform env params store = (.ok tokens, opened)) (calls : List RotateCall)
    (clock : ClockForward env.now calls)
    (meets : Meets (fun current call => (RotateCall.run call platform store.nextId current).2)
      (PresentsLater platform store.nextId) opened calls) :
    SingleUse platform store.nextId opened calls := by
  have identified := reached.tokensOwned.identified
  have initial := issuedBefore_createSession identified created clock
  have owned : TokensOwned platform opened := by
    have next := reached.tokensOwned.createSession env params
    rw [created] at next
    exact next
  intro earlier later first second ordered here there rotates presents late
  have ownedHere := owned.lockedStore store.nextId calls
  have retired : ∀ position, earlier < position → Retired platform store.nextId first.refreshToken first.now
      (lockedStore platform store.nextId opened calls position) := by
    intro position after
    induction after with
    | refl =>
        obtain ⟨session, payload, issued, found, hash, before⟩ :=
          issuedBefore_lockedStore signs.toSignsClaims owned clock initial earlier
        rw [lockedStore_succ here]
        exact .of_rotates signs (ownedHere earlier)
          ⟨session, payload, issued, found, hash, before earlier first (Nat.le_refl _) here⟩ rotates
          (meets earlier first here)
    | @step position after ih =>
        cases present : calls[position]? with
        | none => exact lockedStore_succ_of_none present ▸ ih
        | some call =>
            rw [lockedStore_succ present]
            exact ih.run signs (ownedHere position) (clock.le after here present)
  exact (retired later ordered).refused presents late

/-- The first token is rotated in a later second, and it comes back after the grace period. -/
def laterRotation : List RotateCall := [⟨2000000, [.user], firstRefreshToken⟩, ⟨8000000, [.user], firstRefreshToken⟩]

theorem laterRotation_single_use : SingleUse signingPlatform 5 signedInStore laterRotation := by
  have created : createSession signingPlatform { now := 0 } signInParams signedOutStore =
      (.ok (signTokens signingPlatform 0 { sub := 1, roles := [.user], sid := 5 }), signedInStore) := rfl
  have clock : ClockForward 0 laterRotation := by
    unfold ClockForward
    decide
  refine refresh_tokens_single_use signingPlatform_signs signedOutStore_reached created laterRotation clock ?_
  rintro position call present session - - ⟨payload, issued, second, token⟩
  have inside := List.mem_of_getElem? present
  simp only [laterRotation, List.mem_cons, List.not_mem_nil, or_false] at inside
  obtain rfl | rfl := inside
  · have later : issued / 1000000 = 2 := second
    have first := signingPlatform_signs.seconds _ _ _ _ _ _ token
    omega
  · have later : issued / 1000000 = 8 := second
    have first := signingPlatform_signs.seconds _ _ _ _ _ _ token
    omega

/-- The first rotation falls in the second of the sign-in and signs the same token again. -/
def sameSecondRotation : List RotateCall :=
  [⟨500000, [.user], firstRefreshToken⟩, ⟨6000000, [.user], firstRefreshToken⟩]

/-- The token is rotated away at 500 ms and is accepted at 6000 ms. -/
theorem sameSecondRotation_not_single_use : ¬ SingleUse signingPlatform 5 signedInStore sameSecondRotation := by
  intro single
  have rotates : Rotates signingPlatform 5
      (lockedStore signingPlatform 5 signedInStore sameSecondRotation 0)
      ⟨500000, [.user], firstRefreshToken⟩ :=
    ⟨_, _, rfl, rfl, rfl, rfl⟩
  have refused := single 0 1 _ _ Nat.zero_lt_one rfl rfl rotates rfl (by decide)
  cases refused

end Messinger
