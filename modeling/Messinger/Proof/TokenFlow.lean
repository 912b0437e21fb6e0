import Messinger.Proof.Middlewares

namespace Messinger
open Library SessionRepository

/-- A token verifies for one set of claims, whose roles it was signed with, and hashes are distinct. -/
structure Platform.Authentic (platform : Platform) : Prop where
  signed : ∀ payload secret expiresIn now other later claims,
    platform.jwtVerify (platform.jwtSign payload secret expiresIn now) other later = .payload claims →
      ∀ role ∈ claims.roles, role ∈ payload.roles
  timeless : ∀ token secret now later claims others,
    platform.jwtVerify token secret now = .payload claims →
      platform.jwtVerify token secret later = .payload others → claims = others
  hashes : Function.Injective platform.sha256

theorem plainPlatform_authentic : plainPlatform.Authentic where
  signed payload secret expiresIn now other later claims verified role inside := by
    change (if secret = other then
        if later / 1000000 < (Char.ofNat (now / 1000000)).toNat + (Char.ofNat (parseExpiry expiresIn)).toNat then
          Verification.payload
            { sub := (Char.ofNat payload.sub).toNat, roles := letterRoles (roleLetter payload.roles),
              sid := (Char.ofNat payload.sid).toNat }
        else .expired else .invalid) = .payload claims at verified
    split at verified
    · split at verified
      · cases verified
        unfold roleLetter at inside
        split at inside
        · next single => simpa [letterRoles, single] using inside
        · next single => simpa [letterRoles, single] using inside
        · next single => simpa [letterRoles, single] using inside
        · cases inside
      · cases verified
    · cases verified
  timeless token secret now later claims others first second := by
    have fixed : ∀ (time : Nat) (found : Payload), plainPlatform.jwtVerify token secret time = .payload found →
        ∃ sub role sid rest, token = sub :: role :: sid :: rest ∧
          found = { sub := sub.toNat, roles := letterRoles role, sid := sid.toNat } := by
      intro time found verified
      unfold plainPlatform at verified
      simp only at verified
      split at verified
      · next sub role sid issued lifetime rest =>
          split at verified
          · split at verified
            · cases verified
              exact ⟨sub, role, sid, _, rfl, rfl⟩
            · cases verified
          · cases verified
      · cases verified
    obtain ⟨sub, role, sid, rest, shape, same⟩ := fixed now claims first
    obtain ⟨sub', role', sid', rest', shape', same'⟩ := fixed later others second
    rw [shape] at shape'
    cases shape'
    rw [same, same']
  hashes _ _ same := same

/-- The token is one of a pair that the service signs with these roles. -/
def SignedWith (platform : Platform) (roles : List UserRole) (token : Text) : Prop :=
  ∃ now payload, payload.roles = roles ∧ token ∈ (signTokens platform now payload).texts

/-- The pair of a rotated session was signed with the roles of the token that it replaces. -/
def RotatedSoundly (platform : Platform) (session : Session) : Prop :=
  session.rotatedAt = none ∨
    ∃ (refreshToken : Text) (now : Nat) (payload : Payload) (tokens : Tokens),
      session.previousRefreshTokenHash = some (platform.sha256 refreshToken) ∧
      platform.jwtVerify refreshToken platform.jwtRefreshSecret now = .payload payload ∧
      session.rotatedAccessToken = some tokens.accessToken ∧
      session.rotatedRefreshToken = some tokens.refreshToken ∧
      ∀ token ∈ tokens.texts, SignedWith platform payload.roles token

structure SessionsSound (platform : Platform) (store : Store) : Prop where
  identified : SessionsIdentified store
  rotations : ∀ session ∈ store.sessions, RotatedSoundly platform session

theorem RotatedSoundly.congr {platform : Platform} {old session : Session}
    (sound : RotatedSoundly platform old) (same : old.rotation = session.rotation) :
    RotatedSoundly platform session := by
  unfold Session.rotation at same
  simp only [Prod.mk.injEq] at same
  obtain ⟨previous, at_, refresh, access⟩ := same
  unfold RotatedSoundly at sound ⊢
  rw [← previous, ← at_, ← refresh, ← access]
  exact sound

theorem SessionsSound.of_undisturbed {platform : Platform} {store next : Store}
    (sound : SessionsSound platform store) (undisturbed : Undisturbed store next) :
    SessionsSound platform next where
  identified := undisturbed.identified sound.identified
  rotations session inside := by
    obtain fresh | ⟨old, before, same⟩ := undisturbed.sessions session inside
    · exact .inl fresh
    · exact (sound.rotations old before).congr same

/-- A rotation with the current token of the session keeps the sessions sound. -/
theorem SessionsSound.rotated {platform : Platform} {store : Store} (sound : SessionsSound platform store)
    {session : Session} {refreshToken : Text} {verifiedAt now : Nat} {claims payload : Payload}
    (inside : session ∈ store.sessions) (current : session.refreshTokenHash = platform.sha256 refreshToken)
    (verified : platform.jwtVerify refreshToken platform.jwtRefreshSecret verifiedAt = .payload claims)
    (roles : payload.roles = claims.roles) :
    SessionsSound platform
      (updateSession session.id (rotated platform now (signTokens platform now payload)) store) where
  identified := sound.identified.updateWhere _ _ fun _ => rfl
  rotations other present := by
    obtain ⟨old, before, equal⟩ := mem_updateWhere.mp present
    split at equal
    · next selected =>
        have same : old = session :=
          List.inj_on_of_nodup_map sound.identified.distinct before inside (by simpa using selected)
        rw [equal, same]
        refine .inr ⟨refreshToken, verifiedAt, claims, signTokens platform now payload, ?_, verified, rfl, rfl,
          fun token pair => ⟨now, payload, roles, pair⟩⟩
        rw [← current]
        rfl
    · rw [equal]
      exact sound.rotations old before

/-- The token comes from a rotation of the refresh token that the request presents. -/
def HandedByRotation (platform : Platform) (env : Env) (request : Request) (token : Text) : Prop :=
  ∃ refreshToken payload, truthyCookie (getRefreshToken request.cookies request.headers) = some (.text refreshToken) ∧
    platform.jwtVerify refreshToken platform.jwtRefreshSecret env.now = .payload payload ∧
    SignedWith platform payload.roles token

section Middlewares
variable {platform : Platform} {env : Env} {request : Request}

/-- An accepted rotation hands out its pair, in the cookies or in the headers. -/
theorem accept_tokens {headers : Headers} {payload : Payload} {tokens : Tokens} {store : Store} {token : Text}
    (handed : token ∈ (Authentication.accept headers payload tokens store).tokens) :
    token ∈ tokens.texts := by
  unfold Authentication.tokens Authentication.accept at handed
  split at handed
  · simpa [CookieChange.texts] using handed
  · simpa [CookieChange.texts] using handed

/-- The authentication keeps the sessions sound and hands out tokens of sound rotations. -/
theorem authenticate_sound (authentic : platform.Authentic) {store : Store}
    (sound : SessionsSound platform store) :
    SessionsSound platform (authenticate platform env request.cookies request.headers store).store ∧
      ∀ token ∈ (authenticate platform env request.cookies request.headers store).tokens,
        HandedByRotation platform env request token := by
  obtain quiet | ⟨refreshToken, session, payload, tokens, next, presented, verified, rotates, same⟩ :=
    authenticate_effect platform env request.cookies request.headers store
  · refine ⟨sound.of_undisturbed quiet.undisturbed, ?_⟩
    intro token handed
    rw [quiet.tokens] at handed
    cases handed
  · rw [same]
    obtain ⟨row, found, ⟨recent, unchanged, repeated⟩ | ⟨-, current, signed, replaced⟩⟩ :=
      rotateSession_cases rotates
    · refine ⟨unchanged.symm ▸ sound, ?_⟩
      intro token handed
      refine ⟨refreshToken, payload, presented, verified, ?_⟩
      have pair := accept_tokens handed
      unfold inGracePeriod at recent
      simp only [Bool.and_eq_true, beq_iff_eq] at recent
      obtain absent | ⟨other, earlier, claims, pairBefore, previous, valid, access, refresh, all⟩ :=
        sound.rotations row (lookup_mem Session.id found).1
      · rw [absent] at recent
        cases recent.1
      · rw [previous] at recent
        have sameToken : other = refreshToken := authentic.hashes (Option.some.inj recent.2)
        rw [sameToken] at valid
        have sameClaims : claims = payload := authentic.timeless _ _ _ _ _ _ valid verified
        rw [repeated, access, refresh] at pair
        rw [← sameClaims]
        exact all token pair
    · constructor
      · change SessionsSound platform next
        rw [replaced, signed]
        exact sound.rotated (lookup_mem Session.id found).1 current verified rfl
      · intro token handed
        have pair := accept_tokens handed
        rw [signed] at pair
        exact ⟨refreshToken, payload, presented, verified, env.now,
          { sub := row.userId, roles := payload.roles, sid := row.id }, rfl, pair⟩

variable (env request) in
/-- The chain keeps the sessions sound and hands out tokens of sound rotations. -/
theorem runChain_sound (authentic : platform.Authentic) {store : Store}
    (sound : SessionsSound platform store) (chain : List Middleware) :
    SessionsSound platform (runChain platform env request chain { store }).2.store ∧
      ∀ token ∈ (runChain platform env request chain { store }).2.cookies.texts ++
          (runChain platform env request chain { store }).2.headers.toList.flatMap Tokens.texts,
        HandedByRotation platform env request token := by
  apply runChain_invariant (fun progress => SessionsSound platform progress.store ∧
    ∀ token ∈ progress.cookies.texts ++ progress.headers.toList.flatMap Tokens.texts,
      HandedByRotation platform env request token)
  · intro progress middleware holds
    obtain unchanged | ⟨written, cookies, headers⟩ :=
      runMiddleware_progress platform env request progress middleware
    · rw [unchanged]
      exact holds
    · rw [written, cookies, headers]
      exact authenticate_sound authentic holds.1
  · exact ⟨sound, by simp [CookieChange.texts]⟩

end Middlewares

end Messinger
