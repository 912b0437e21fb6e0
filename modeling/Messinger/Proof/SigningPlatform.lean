import Messinger.Proof.SessionTokens

namespace Messinger
open Library SessionRepository

/-- A signed token also carries the second of its issue. -/
structure Platform.SignsSeconds (platform : Platform) : Prop extends Platform.SignsClaims platform where
  seconds : ∀ payload other secret expiresIn now later,
    platform.jwtSign payload secret expiresIn now = platform.jwtSign other secret expiresIn later →
      now / 1000000 = later / 1000000

def roleChar : UserRole → Char
  | .user => 'u'
  | .admin => 'a'
  | .superAdmin => 's'

/-- The token lists its claims and the second of its issue. -/
def tokenFields (payload : Payload) (now : Nat) : List Text :=
  [Nat.toDigits 10 payload.sub, payload.roles.map roleChar, Nat.toDigits 10 payload.sid,
    Nat.toDigits 10 (now / 1000000)]

/-- The tokens of this platform tell all claims and all seconds apart. -/
def signingPlatform : Platform :=
  { plainPlatform with
    jwtSign := fun payload secret expiresIn now =>
      ['.'].intercalate (tokenFields payload now) ++ ('.' :: expiresIn ++ '.' :: secret) }

theorem toDigits_injective : Function.Injective (Nat.toDigits 10) := by
  intro first second same
  rw [← Nat.ofDigitChars_ten_toDigits (n := first), same, Nat.ofDigitChars_ten_toDigits]

theorem roleChar_injective : Function.Injective roleChar := by
  intro first second same
  cases first <;> cases second <;> first | rfl | cases same

theorem dot_not_mem_tokenFields (payload : Payload) (now : Nat) :
    ∀ field ∈ tokenFields payload now, '.' ∉ field := by
  have digits (value : Nat) : '.' ∉ Nat.toDigits 10 value := by
    intro inside
    exact absurd (Nat.isDigit_of_mem_toDigits (by decide) (by decide) inside) (by decide)
  have letters : '.' ∉ payload.roles.map roleChar := by
    intro inside
    obtain ⟨role, -, same⟩ := List.mem_map.mp inside
    cases role <;> cases same
  intro field inside
  simp only [tokenFields, List.mem_cons, List.not_mem_nil, or_false] at inside
  obtain rfl | rfl | rfl | rfl := inside
  · exact digits payload.sub
  · exact letters
  · exact digits payload.sid
  · exact digits (now / 1000000)

theorem tokenFields_of_sign {payload other : Payload} {secret expiresIn : Text} {now later : Nat}
    (same : signingPlatform.jwtSign payload secret expiresIn now =
      signingPlatform.jwtSign other secret expiresIn later) : tokenFields payload now = tokenFields other later := by
  have joined : ['.'].intercalate (tokenFields payload now) = ['.'].intercalate (tokenFields other later) :=
    List.append_cancel_right same
  rw [← List.splitOn_intercalate '.' (dot_not_mem_tokenFields payload now) (List.cons_ne_nil _ _), joined,
    List.splitOn_intercalate '.' (dot_not_mem_tokenFields other later) (List.cons_ne_nil _ _)]

theorem signingPlatform_signs : signingPlatform.SignsSeconds where
  hashes _ _ same := same
  claims payload other secret expiresIn now later same := by
    have fields := tokenFields_of_sign same
    simp only [tokenFields, List.cons.injEq, and_true] at fields
    obtain ⟨sub, roles, sid, -⟩ := fields
    obtain ⟨sub', roles', sid'⟩ := other
    obtain rfl := toDigits_injective sub
    obtain rfl := toDigits_injective sid
    obtain rfl := List.map_injective_iff.mpr roleChar_injective roles
    rfl
  seconds payload other secret expiresIn now later same := by
    have fields := tokenFields_of_sign same
    simp only [tokenFields, List.cons.injEq, and_true] at fields
    exact toDigits_injective fields.2.2.2

/-- User 1 has no session yet. -/
def signedOutStore : Store := { users := [{ id := 1, role := .user, createdAt := 0 }], nextId := 5 }

def signInParams : CreateSessionParams := { userId := 1, roles := [.user], userAgent := [], ipAddress := none }

/-- User 1 has signed in at time 0. -/
def signedInStore : Store := (createSession signingPlatform { now := 0 } signInParams signedOutStore).2

theorem signedOutStore_reached : SessionsReached signingPlatform signedOutStore := ⟨signedOutStore, [], rfl, rfl⟩

theorem signedInStore_reached : SessionsReached signingPlatform signedInStore :=
  ⟨signedOutStore, [({ now := 0 }, .createSession signInParams)], rfl, rfl⟩

/-- This is the refresh token that user 1 gets. -/
def firstRefreshToken : Text :=
  (signTokens signingPlatform 0 { sub := 1, roles := [.user], sid := 5 }).refreshToken

end Messinger
