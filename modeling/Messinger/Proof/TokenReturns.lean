import Messinger.Proof.Authentications
import Messinger.Proof.RevokedRotations

namespace Messinger
open Library SessionRepository

/-- The answer lets the request through and carries a new pair of tokens. -/
structure PassesByRotation (answer : Authentication) (pair : Tokens) : Prop where
  passes : ∃ locals, answer.result = .ok locals
  carries : answer.cookies = .tokens pair ∨ answer.headers = some pair

/-- The refresh token of the request is that of the cookie. -/
def fromCookie (cookies : Cookies) : Bool := (truthyCookie cookies.refreshToken).isSome

/-- The new pair goes back the way that the refresh token came. -/
structure GoesBack (cookies : Cookies) (answer : Authentication) (pair : Tokens) : Prop where
  cookie : fromCookie cookies = true → answer.cookies = .tokens pair
  header : fromCookie cookies = false → answer.headers = some pair

/-- The cookie wins over the header. -/
theorem getRefreshToken_of_cookie {cookies : Cookies} (present : fromCookie cookies = true) (headers : Headers) :
    getRefreshToken cookies headers = cookies.refreshToken := by
  obtain ⟨refreshToken, same⟩ := Option.isSome_iff_exists.mp present
  unfold getRefreshToken
  rw [same]
  exact (Option.filter_eq_some_iff.mp same).1.symm

/-- Without the cookie the token is that of the header. -/
theorem getRefreshToken_of_header {cookies : Cookies} (absent : fromCookie cookies = false) (headers : Headers) :
    getRefreshToken cookies headers = headers.xRefreshToken.bind fun
      | .many values => values.head?.map .text
      | .one value => some (.text value) := by
  unfold getRefreshToken
  rw [Option.isNone_iff_eq_none.mp (Option.isSome_eq_false_iff.mp absent)]
  cases headers.xRefreshToken with
  | none => rfl
  | some value => cases value <;> rfl

section Rotations
variable {platform : Platform} {env : Env} {cookies : Cookies} {headers : Headers} {store : Store} {pair : Tokens}

/-- A request that passes by a rotation is accepted with the pair of the rotation. -/
theorem PassesByRotation.accepted
    (passes : PassesByRotation (authenticate platform env cookies headers store) pair) :
    ∃ payload next, authenticate platform env cookies headers store =
      Authentication.accept headers payload pair next := by
  obtain ⟨⟨locals, result⟩, carries⟩ := passes
  obtain ⟨payload, -, same⟩ | ⟨-, same⟩ := authenticate_cases result
  · rw [same] at carries
    obtain cookie | header := carries
    · cases cookie
    · cases header
  · rw [same] at result carries ⊢
    obtain ⟨-, -, payload, tokens, next, -, -, -, -, accepted⟩ := Authentication.refresh_cases result
    rw [accepted] at carries ⊢
    unfold Authentication.accept at carries
    refine ⟨payload, next, ?_⟩
    by_cases bearer : isBearerClient headers = true
    · simp only [if_pos bearer] at carries
      obtain cookie | header := carries
      · cases cookie
      · cases header
        rfl
    · simp only [if_neg bearer] at carries
      obtain cookie | header := carries
      · cases cookie
        rfl
      · cases header

/-- The new pair goes back the way that the refresh token came exactly when the request brings either the cookie or
a bearer header. -/
theorem tokens_go_back_iff (passes : PassesByRotation (authenticate platform env cookies headers store) pair) :
    GoesBack cookies (authenticate platform env cookies headers store) pair ↔
      (fromCookie cookies = true ↔ isBearerClient headers = false) := by
  obtain ⟨payload, next, accepted⟩ := passes.accepted
  rw [accepted]
  unfold Authentication.accept
  cases bearer : isBearerClient headers with
  | true =>
      constructor
      · intro back
        refine iff_of_false ?_ Bool.true_eq_false.mp
        intro present
        cases back.cookie present
      · intro agree
        refine ⟨?_, fun _ => rfl⟩
        intro present
        cases agree.mp present
  | false =>
      constructor
      · intro back
        refine iff_of_true ?_ rfl
        by_contra absent
        cases back.header (Bool.eq_false_iff.mpr absent)
      · intro agree
        refine ⟨fun _ => rfl, ?_⟩
        intro absent
        rw [agree.mpr rfl] at absent
        cases absent

end Rotations

/-- The pair of the first rotation of the session of user 1. -/
def rotatedPair : Tokens := signTokens plainPlatform 0 { sub := 1, roles := [.user], sid := 3 }

/-- The refresh token comes in its cookie, without a bearer header. -/
def cookieRequest : Cookies := { refreshToken := some (.text activeToken) }

theorem cookieRequest_goes_back :
    GoesBack cookieRequest (authenticate plainPlatform { now := 0 } cookieRequest {} activeStore) rotatedPair := by
  have passes : PassesByRotation (authenticate plainPlatform { now := 0 } cookieRequest {} activeStore) rotatedPair :=
    ⟨⟨_, rfl⟩, .inl rfl⟩
  have agrees : fromCookie cookieRequest = true ↔ isBearerClient {} = false := by decide
  exact (tokens_go_back_iff passes).mpr agrees

/-- The refresh token comes in its header, without a bearer header. -/
def headerRequest : Headers := { xRefreshToken := some (.one activeToken) }

/-- The new pair is set as cookies. -/
theorem header_token_answered_in_cookies :
    PassesByRotation (authenticate plainPlatform { now := 0 } {} headerRequest activeStore) rotatedPair ∧
      ¬ GoesBack {} (authenticate plainPlatform { now := 0 } {} headerRequest activeStore) rotatedPair := by
  refine ⟨⟨⟨_, rfl⟩, .inl rfl⟩, ?_⟩
  intro back
  cases back.header rfl

end Messinger
