import Messinger.Library.History
import Messinger.Proof.SigningPlatform

namespace Messinger
open Library SessionRepository

/-- Verifying a signed token returns the claims that it was signed with. -/
structure Platform.ReturnsClaims (platform : Platform) : Prop extends Platform.SignsClaims platform where
  verified : ∀ payload secret expiresIn issued now claims,
    platform.jwtVerify (platform.jwtSign payload secret expiresIn issued) secret now = .payload claims →
      claims = payload

/-- A successful call hands the refresh token out for a session of the user. -/
def Issues (platform : Platform) (store : Store) (action : Env × SessionCall) (token : Uuid × Text) : Prop :=
  match action.2 with
  | .createSession params => params.userId = token.1 ∧
      ∃ tokens, (createSession platform action.1 params store).1 = .ok tokens ∧ tokens.refreshToken = token.2
  | .rotateSession sessionId roles refreshToken => ∃ session tokens,
      findById store sessionId = some session ∧ session.userId = token.1 ∧
        (rotateSession platform (action.1.succeeds 0) action.1.now sessionId roles refreshToken store).1 =
          .ok (some tokens) ∧ tokens.refreshToken = token.2
  | _ => False

/-- A call of the run before the position issues the refresh token to the user. -/
def IssuedTo (platform : Platform) (start : Store) (actions : List (Env × SessionCall)) (position : Nat)
    (userId : Uuid) (refreshToken : Text) : Prop :=
  Happened (runSession platform) (Issues platform) start actions position (userId, refreshToken)

/-- Both tokens are signed with the user and the identifier of the session. -/
def Tokens.Name (platform : Platform) (tokens : Tokens) (session : Session) : Prop :=
  ∃ now payload, payload.sub = session.userId ∧ payload.sid = session.id ∧
    tokens = signTokens platform now payload

section Rows
variable {platform : Platform} {issued known : Uuid × Text → Prop} {session : Session} {hash : Text}

/-- The hash is that of a refresh token that names the session and was issued to its user. -/
def HashIssued (platform : Platform) (issued : Uuid × Text → Prop) (session : Session) (hash : Text) : Prop :=
  ∃ tokens : Tokens, tokens.Name platform session ∧ issued (session.userId, tokens.refreshToken) ∧
    hash = platform.sha256 tokens.refreshToken

/-- The hashes of a session are those of its own tokens, and so are the tokens of its last rotation. -/
structure Session.Bound (platform : Platform) (issued : Uuid × Text → Prop) (session : Session) : Prop where
  current : HashIssued platform issued session session.refreshTokenHash
  previous : ∀ hash, session.previousRefreshTokenHash = some hash → HashIssued platform issued session hash
  rotation : ∀ rotatedAt, session.rotatedAt = some rotatedAt → ∃ tokens : Tokens, tokens.Name platform session ∧
    session.rotatedAccessToken = some tokens.accessToken ∧ session.rotatedRefreshToken = some tokens.refreshToken

theorem HashIssued.weaken (hashed : HashIssued platform issued session hash)
    (weaker : ∀ token, issued token → known token) : HashIssued platform known session hash := by
  obtain ⟨tokens, names, given, same⟩ := hashed
  exact ⟨tokens, names, weaker _ given, same⟩

theorem Session.Bound.weaken (bound : session.Bound platform issued) (weaker : ∀ token, issued token → known token) :
    session.Bound platform known where
  current := bound.current.weaken weaker
  previous hash same := (bound.previous hash same).weaken weaker
  rotation := bound.rotation

/-- A rotation moves the current hash to the previous one, and both hashes stay with the session. -/
theorem Session.Bound.rotated (bound : session.Bound platform issued) {now : Nat} {tokens : Tokens}
    (names : tokens.Name platform session) (given : issued (session.userId, tokens.refreshToken)) :
    (SessionRepository.rotated platform now tokens session).Bound platform issued where
  current := ⟨tokens, names, given, rfl⟩
  previous hash same := by
    cases same
    exact bound.current
  rotation _ _ := ⟨tokens, names, rfl, rfl⟩

/-- The pair of a recent rotation names the session. -/
theorem Session.Bound.recent (bound : session.Bound platform issued) {now : Nat}
    (recent : inGracePeriod now session hash = true) :
    Tokens.Name platform ⟨session.rotatedAccessToken.getD [], session.rotatedRefreshToken.getD []⟩ session := by
  obtain ⟨timely, -⟩ := Bool.and_eq_true_iff.mp recent
  obtain ⟨rotatedAt, same, -⟩ := (Option.any_eq_true _ _).mp timely
  obtain ⟨tokens, names, access, refresh⟩ := bound.rotation rotatedAt same
  rw [access, refresh]
  exact names

/-- Each call keeps the sessions bound when the tokens that it issues count as issued. -/
theorem SessionsMeet.issue {store : Store} (meets : SessionsMeet (Session.Bound platform issued) store)
    (action : Env × SessionCall) (issues : ∀ token, Issues platform store action token → issued token) :
    SessionsMeet (Session.Bound platform issued) (runSession platform store action) := by
  obtain ⟨env, call⟩ := action
  apply meets.run
  · exact fun session reason bound => ⟨bound.current, bound.previous, bound.rotation⟩
  · intro params called created
    simp only at called
    subst called
    refine ⟨⟨openedTokens platform env params store, ⟨env.now, _, rfl, rfl, rfl⟩, ?_, rfl⟩, ?_, ?_⟩
    · exact issues (params.userId, _) ⟨rfl, _, created, rfl⟩
    · intro hash same
      cases same
    · intro rotatedAt same
      cases same
  · intro sessionId roles refreshToken session tokens called found bound signed done
    simp only at called
    subst called
    apply bound.rotated ⟨env.now, _, rfl, rfl, signed⟩
    exact issues (session.userId, _) ⟨session, tokens, found, rfl, done, rfl⟩

end Rows

/-- The hashes and tokens of every session are bound to it in every state of a run. -/
theorem sessions_bound (platform : Platform) {start : Store} (empty : start.sessions = [])
    (actions : List (Env × SessionCall)) (position : Nat) :
    SessionsMeet (Session.Bound platform fun token => IssuedTo platform start actions position token.1 token.2)
      (stateAt (runSession platform) start actions position) := by
  apply stateAt_recorded (runSession platform) (Issues platform)
    fun issued store => SessionsMeet (Session.Bound platform issued) store
  · exact fun issued known store weaker meets =>
      ⟨meets.identified, fun session inside => (meets.each session inside).weaken weaker⟩
  · refine ⟨⟨?_, ?_⟩, ?_⟩ <;> simp [empty]
  · exact fun issued store action meets issues => meets.issue action issues

/-- Every session row stays as it is, but for rows of the user, which stay rows of the user. -/
def ChangesOnly (userId : Uuid) (store next : Store) : Prop :=
  List.Forall₂ (fun old new : Session => new = old ∨ new.id = old.id ∧ new.userId = old.userId ∧ old.userId = userId)
    store.sessions next.sessions

section Changes
variable {platform : Platform} {env : Env} {headers : Headers} {store next : Store} {session : Session}
  {refreshToken : Text}

theorem ChangesOnly.refl (userId : Uuid) (store : Store) : ChangesOnly userId store store :=
  List.forall₂_same.mpr fun _ _ => .inl rfl

theorem changesOnly_updateWhere {userId : Uuid} {matching : Session → Bool} {change : Session → Session}
    (keeps : ∀ row, (change row).id = row.id ∧ (change row).userId = row.userId)
    (own : ∀ row ∈ store.sessions, matching row = true → row.userId = userId) :
    ChangesOnly userId store { store with sessions := updateWhere matching change store.sessions } := by
  apply List.forall₂_map_right_iff.mpr
  apply List.forall₂_same.mpr
  intro row inside
  split
  · next selected => exact .inr ⟨(keeps row).1, (keeps row).2, own row inside selected⟩
  · exact .inl rfl

/-- An update of the session changes only a row of its user. -/
theorem changesOnly_updateSession (identified : SessionsIdentified store) (inside : session ∈ store.sessions)
    {change : Session → Session} (keeps : ∀ row, (change row).id = row.id ∧ (change row).userId = row.userId) :
    ChangesOnly session.userId store (updateSession session.id change store) := by
  apply changesOnly_updateWhere keeps
  intro row present selected
  rw [List.inj_on_of_nodup_map identified.distinct present inside (beq_iff_eq.mp selected)]

theorem changesOnly_revokeSession (identified : SessionsIdentified store) (inside : session ∈ store.sessions)
    (reason : SessionRevokeReason) : ChangesOnly session.userId store (revokeSession session.id reason store) :=
  changesOnly_updateSession identified inside fun _ => ⟨rfl, rfl⟩

theorem changesOnly_caught (identified : SessionsIdentified store) (inside : session ∈ store.sessions)
    (reason : SessionRevokeReason) :
    ChangesOnly session.userId store (Authentication.caught env session.id reason store).store := by
  unfold Authentication.caught
  split
  · exact changesOnly_revokeSession identified inside reason
  · exact .refl session.userId store

theorem changesOnly_revokeAllSessions (userId : Uuid) (store : Store) :
    ChangesOnly userId store (revokeAllSessions userId store) := by
  apply changesOnly_updateWhere
  · exact fun _ => ⟨rfl, rfl⟩
  · intro row _ selected
    exact beq_iff_eq.mp (Bool.and_eq_true_iff.mp selected).1

/-- A verified token of the user of the session changes only rows of that user. -/
theorem changesOnly_withPayload (identified : SessionsIdentified store) (inside : session ∈ store.sessions)
    {payload : Payload} (same : payload.sub = session.userId) :
    ChangesOnly session.userId store
      (Authentication.withPayload platform env headers refreshToken session payload store).store := by
  unfold Authentication.withPayload
  split
  · split
    · rw [same]
      exact changesOnly_revokeAllSessions session.userId store
    · exact changesOnly_caught identified inside .invalid
  · split
    · split
      · exact changesOnly_revokeSession identified inside .expired
      · exact changesOnly_caught identified inside .invalid
    · split
      · next failed =>
          rw [rotateSession_error failed]
          exact changesOnly_caught identified inside .invalid
      · next missed =>
          rw [rotateSession_none missed]
          exact .refl session.userId store
      · next tokens next done =>
          change ChangesOnly session.userId store next
          obtain ⟨row, found, ⟨-, unchanged, -⟩ | ⟨-, -, -, replaced⟩⟩ := rotateSession_cases done
          · rw [unchanged]
            exact .refl session.userId store
          · rw [findById_of_mem identified.distinct inside] at found
            cases found
            rw [replaced]
            exact changesOnly_updateSession identified inside fun _ => ⟨rfl, rfl⟩

end Changes

section Requests
variable {platform : Platform} {store : Store} {issued : Uuid × Text → Prop} {env : Env} {refreshToken : Text}
  {session : Session}

/-- Both ways in which a rotation hands out tokens name the session that it locks. -/
theorem rotation_names (meets : SessionsMeet (Session.Bound platform issued) store) {commits : Bool} {now : Nat}
    {roles : List UserRole} {sessionId : Uuid} {tokens : Tokens} (found : findById store sessionId = some session)
    (done : (rotateSession platform commits now sessionId roles refreshToken store).1 = .ok (some tokens)) :
    tokens.Name platform session := by
  obtain ⟨row, again, ⟨recent, -, same⟩ | ⟨-, -, signed, -⟩⟩ := rotateSession_cases (Prod.ext done rfl)
  · rw [found] at again
    cases again
    rw [same]
    exact (meets.each session (lookup_mem Session.id found).1).recent recent
  · rw [found] at again
    cases again
    exact ⟨now, _, rfl, rfl, signed⟩

/-- An issued refresh token is signed for the user that it is issued to. -/
theorem issues_signed (meets : SessionsMeet (Session.Bound platform issued) store) {action : Env × SessionCall}
    {userId : Uuid} (issues : Issues platform store action (userId, refreshToken)) :
    ∃ now payload, payload.sub = userId ∧ refreshToken = (signTokens platform now payload).refreshToken := by
  obtain ⟨env, call⟩ := action
  cases call with
  | createSession params =>
      obtain ⟨user, tokens, created, same⟩ := issues
      rcases createSession_cases platform env params store with failed | opened
      · rw [failed] at created
        cases created
      · rw [opened] at created
        cases created
        exact ⟨env.now, _, user, same.symm⟩
  | rotateSession sessionId roles presented =>
      obtain ⟨session, tokens, found, user, done, same⟩ := issues
      obtain ⟨now, payload, sub, -, signed⟩ := rotation_names meets found done
      refine ⟨now, payload, sub.trans user, ?_⟩
      rw [← signed]
      exact same.symm
  | revokeSession sessionId reason => exact issues.elim
  | revokeAllSessions userId => exact issues.elim
  | deleteUser userId => exact issues.elim

/-- A presented token that finds a session was issued to its user with a payload that names both. -/
theorem presented_names (signs : platform.SignsClaims) (meets : SessionsMeet (Session.Bound platform issued) store)
    (found : findByEitherHash env.scan store (platform.sha256 refreshToken) = some session) :
    session ∈ store.sessions ∧ issued (session.userId, refreshToken) ∧
      ∃ tokens : Tokens, tokens.Name platform session ∧ tokens.refreshToken = refreshToken := by
  obtain ⟨inside, matching⟩ := List.mem_filter.mp (pickRow_mem found)
  have bound := meets.each session inside
  have hashed : HashIssued platform issued session (platform.sha256 refreshToken) := by
    rw [Bool.or_eq_true, beq_iff_eq, beq_iff_eq] at matching
    rcases matching with current | previous
    · rw [← current]
      exact bound.current
    · exact bound.previous _ previous
  obtain ⟨tokens, names, given, same⟩ := hashed
  obtain rfl := signs.hashes same
  exact ⟨inside, given, tokens, names, rfl⟩

/-- What verifies as the refresh token of a session names the user of the session. -/
theorem verified_sub (returns : platform.ReturnsClaims) {tokens : Tokens} (names : tokens.Name platform session)
    {payload : Payload}
    (verified : platform.jwtVerify tokens.refreshToken platform.jwtRefreshSecret env.now = .payload payload) :
    payload.sub = session.userId := by
  obtain ⟨now, claims, sub, -, rfl⟩ := names
  rw [returns.verified _ _ _ _ _ _ verified]
  exact sub

/-- The refresh path changes nothing, or only rows of the user to whom the presented token was issued. -/
theorem refresh_changesOnly (returns : platform.ReturnsClaims)
    (meets : SessionsMeet (Session.Bound platform issued) store) (cookies : Cookies) (headers : Headers) :
    (Authentication.refresh platform env cookies headers store).store = store ∨
      ∃ refreshToken userId, truthyCookie (getRefreshToken cookies headers) = some (.text refreshToken) ∧
        issued (userId, refreshToken) ∧
        ChangesOnly userId store (Authentication.refresh platform env cookies headers store).store := by
  unfold Authentication.refresh
  split
  · exact .inl rfl
  · exact .inl rfl
  · next refreshToken presented =>
      split
      · split
        · exact .inl rfl
        · next session found =>
            obtain ⟨inside, given, tokens, names, rfl⟩ := presented_names returns.toSignsClaims meets found
            refine .inr ⟨_, session.userId, presented, given, ?_⟩
            unfold Authentication.withSession
            split
            · next payload verified =>
                exact changesOnly_withPayload meets.identified inside (verified_sub returns names verified)
            · exact changesOnly_caught meets.identified inside .expired
            · exact changesOnly_caught meets.identified inside .invalid
      · exact .inl rfl

theorem authenticate_changesOnly (returns : platform.ReturnsClaims)
    (meets : SessionsMeet (Session.Bound platform issued) store) (cookies : Cookies) (headers : Headers) :
    (authenticate platform env cookies headers store).store = store ∨
      ∃ refreshToken userId, truthyCookie (getRefreshToken cookies headers) = some (.text refreshToken) ∧
        issued (userId, refreshToken) ∧
        ChangesOnly userId store (authenticate platform env cookies headers store).store := by
  unfold authenticate
  split
  · exact refresh_changesOnly returns meets cookies headers
  · split
    · exact .inl rfl
    · exact refresh_changesOnly returns meets cookies headers
    · exact .inl rfl

/-- A request that passes on the refresh path acts as the user of the session that it finds. -/
theorem refresh_identifies (returns : platform.ReturnsClaims)
    (meets : SessionsMeet (Session.Bound platform issued) store) {cookies : Cookies} {headers : Headers}
    {locals : Locals} (passes : (Authentication.refresh platform env cookies headers store).result = .ok locals) :
    ∃ refreshToken session tokens, truthyCookie (getRefreshToken cookies headers) = some (.text refreshToken) ∧
      findByEitherHash env.scan store (platform.sha256 refreshToken) = some session ∧
      locals.userId = session.userId ∧ Tokens.Name platform tokens session ∧
      (Authentication.refresh platform env cookies headers store).tokens = tokens.texts := by
  obtain ⟨refreshToken, session, payload, tokens, next, presented, found, verified, done, same⟩ :=
    Authentication.refresh_cases passes
  obtain ⟨inside, -, own, names, rfl⟩ := presented_names returns.toSignsClaims meets found
  have located := findById_of_mem meets.identified.distinct inside
  refine ⟨_, session, tokens, presented, found, ?_, rotation_names meets located (congrArg Prod.fst done), ?_⟩
  · rw [same] at passes
    cases passes
    exact verified_sub returns names verified
  · rw [same]
    unfold Authentication.accept Authentication.tokens
    cases isBearerClient headers
    · exact List.append_nil tokens.texts
    · exact List.append_nil tokens.texts

end Requests

theorem issuedTo_unique {platform : Platform} (signs : platform.SignsClaims) {start : Store}
    (empty : start.sessions = []) {actions : List (Env × SessionCall)} {position : Nat} {userId other : Uuid}
    {refreshToken : Text} (first : IssuedTo platform start actions position userId refreshToken)
    (second : IssuedTo platform start actions position other refreshToken) : userId = other := by
  have signed (user : Uuid) (given : IssuedTo platform start actions position user refreshToken) :
      ∃ now payload, payload.sub = user ∧ refreshToken = (signTokens platform now payload).refreshToken := by
    obtain ⟨earlier, -, action, -, issues⟩ := given
    exact issues_signed (sessions_bound platform empty actions earlier) issues
  obtain ⟨now, payload, rfl, same⟩ := signed userId first
  obtain ⟨later, claims, rfl, again⟩ := signed other second
  exact congrArg Payload.sub (signs.claims _ _ _ _ _ _ (same.symm.trans again))

/-- The refresh path tells the user of the session that it finds and hands out tokens of that session, and no
request changes a session of another user than the only one to whom its refresh token was issued. -/
theorem refresh_keeps_identity {platform : Platform} (returns : platform.ReturnsClaims) {start : Store}
    (empty : start.sessions = []) (actions : List (Env × SessionCall)) (position : Nat) (env : Env)
    (cookies : Cookies) (headers : Headers) :
    let store := stateAt (runSession platform) start actions position
    let authentication := authenticate platform env cookies headers store
    (∀ locals, authentication.result = .ok locals →
      (∀ payload, ¬ AccessAccepted platform env.now cookies headers payload) →
        ∃ refreshToken session tokens, truthyCookie (getRefreshToken cookies headers) = some (.text refreshToken) ∧
          findByEitherHash env.scan store (platform.sha256 refreshToken) = some session ∧
          locals.userId = session.userId ∧ Tokens.Name platform tokens session ∧
          authentication.tokens = tokens.texts) ∧
      (authentication.store = store ∨
        ∃ refreshToken userId, truthyCookie (getRefreshToken cookies headers) = some (.text refreshToken) ∧
          IssuedTo platform start actions position userId refreshToken ∧
          (∀ other, IssuedTo platform start actions position other refreshToken → userId = other) ∧
          ChangesOnly userId store authentication.store) := by
  intro store authentication
  have meets := sessions_bound platform empty actions position
  refine ⟨?_, ?_⟩
  · intro locals passes refused
    obtain ⟨payload, accepted, -⟩ | ⟨-, same⟩ := authenticate_cases passes
    · exact absurd accepted (refused payload)
    · have refreshes : (Authentication.refresh platform env cookies headers store).result = .ok locals :=
        same ▸ passes
      obtain ⟨refreshToken, session, tokens, presented, found, user, names, texts⟩ :=
        refresh_identifies returns meets refreshes
      exact ⟨refreshToken, session, tokens, presented, found, user, names, (congrArg _ same).trans texts⟩
  · obtain same | ⟨refreshToken, userId, presented, given, changes⟩ :=
      authenticate_changesOnly returns meets cookies headers
    · exact .inl same
    · exact .inr ⟨refreshToken, userId, presented, given,
        fun other again => issuedTo_unique returns.toSignsClaims empty given again, changes⟩

/-- The signature is the secret, and a token is read back from its six fields. -/
def readToken (token secret : Text) (now : Nat) : Verification :=
  match token.splitOn '.' with
  | [sub, roles, sid, issued, expiresIn, signature] =>
      if signature = secret then
        if now / 1000000 < Nat.ofDigitChars 10 issued 0 + parseExpiry expiresIn then
          .payload
            { sub := Nat.ofDigitChars 10 sub 0, roles := roles.flatMap letterRoles
              sid := Nat.ofDigitChars 10 sid 0 }
        else .expired
      else .invalid
  | _ => .invalid

def checkingPlatform : Platform := { signingPlatform with jwtVerify := readToken }

theorem letterRoles_roleChar (roles : List UserRole) : (roles.map roleChar).flatMap letterRoles = roles := by
  induction roles with
  | nil => rfl
  | cons role rest ih =>
      rw [List.map_cons, List.flatMap_cons, ih]
      cases role <;> rfl

theorem checkingPlatform_returns : checkingPlatform.ReturnsClaims where
  hashes := signingPlatform_signs.hashes
  claims := signingPlatform_signs.claims
  verified payload secret expiresIn issued now claims verified := by
    have fields : (checkingPlatform.jwtSign payload secret expiresIn issued).splitOn '.' =
        tokenFields payload issued ++ (expiresIn ++ '.' :: secret).splitOn '.' := by
      change (['.'].intercalate (tokenFields payload issued) ++ '.' :: (expiresIn ++ '.' :: secret)).splitOn '.' = _
      rw [List.splitOn_append_cons_self,
        List.splitOn_intercalate '.' (dot_not_mem_tokenFields payload issued) (List.cons_ne_nil _ _)]
    change readToken _ _ _ = _ at verified
    unfold readToken at verified
    rw [fields] at verified
    split at verified
    · next sub roles sid second lifetime signature same =>
        simp only [tokenFields, List.cons_append, List.cons.injEq] at same
        obtain ⟨rfl, rfl, rfl, -⟩ := same
        split at verified
        · split at verified
          · cases verified
            rw [Nat.ofDigitChars_ten_toDigits, Nat.ofDigitChars_ten_toDigits, letterRoles_roleChar]
          · cases verified
        · cases verified
    · cases verified

/-- Twenty minutes after the sign-in the access token of user 1 has expired. -/
def lateCookies : Cookies :=
  let tokens := signTokens checkingPlatform 0 { sub := 1, roles := [.user], sid := 5 }
  { accessToken := some (.text tokens.accessToken), refreshToken := some (.text tokens.refreshToken) }

theorem late_refresh_identifies :
    ∃ refreshToken session tokens, truthyCookie (getRefreshToken lateCookies {}) = some (.text refreshToken) ∧
      findByEitherHash 0 (runSession checkingPlatform signedOutStore ({ now := 0 }, .createSession signInParams))
        refreshToken = some session ∧
      1 = session.userId ∧ Tokens.Name checkingPlatform tokens session ∧
      (authenticate checkingPlatform { now := 1200000000 } lateCookies {}
        (runSession checkingPlatform signedOutStore ({ now := 0 }, .createSession signInParams))).tokens =
        tokens.texts := by
  have empty : signedOutStore.sessions = [] := rfl
  have result := (refresh_keeps_identity checkingPlatform_returns empty
    [({ now := 0 }, .createSession signInParams)] 1 { now := 1200000000 } lateCookies {}).1
  refine result { userId := 1, roles := [.user] } (by decide) ?_
  rintro payload ⟨accessToken, present, verified⟩
  cases present
  have expired : checkingPlatform.jwtVerify (signTokens checkingPlatform 0 { sub := 1, roles := [.user], sid := 5 }).accessToken
      checkingPlatform.jwtSecret 1200000000 = .expired := by decide
  cases expired.symm.trans verified

end Messinger
