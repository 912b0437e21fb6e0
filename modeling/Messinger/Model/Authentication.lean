/-
This file models the tokens of a request with the authentication and authorization middlewares.
-/
import Messinger.Model.SessionRepository

namespace Messinger
open Library SessionRepository

/-- Node gives a header that it allows to repeat as an array. -/
inductive HeaderValue where
  | one (value : Text)
  | many (values : List Text)
  deriving DecidableEq

/-- A cookie that begins with `j:` is read as JSON, and may be a number, `true`, an array or an object. -/
inductive CookieValue where
  | text (value : Text)
  | json
  deriving DecidableEq

structure Cookies where
  accessToken : Option CookieValue := none
  refreshToken : Option CookieValue := none

structure Headers where
  authorization : Option Text := none
  xRefreshToken : Option HeaderValue := none
  userAgent : Option Text := none
  xForwardedFor : Option Text := none

/-- The empty string counts as absent in a condition of JavaScript. -/
def truthy (value : Option Text) : Option Text := value.filter fun text => text ≠ []

def truthyCookie (value : Option CookieValue) : Option CookieValue := value.filter fun cookie => cookie ≠ .text []

def lowerCase (text : Text) : Text := text.map Char.toLower

def getAccessToken (cookies : Cookies) (headers : Headers) : Option CookieValue :=
  match truthyCookie cookies.accessToken with
  | some accessToken => some accessToken
  | none => do
      let authorization ← truthy headers.authorization
      match authorization.splitOn ' ' with
      | scheme :: token :: _ =>
          if lowerCase scheme = ['b', 'e', 'a', 'r', 'e', 'r'] then (truthy (some token)).map .text
          else none
      | _ => none

def getRefreshToken (cookies : Cookies) (headers : Headers) : Option CookieValue :=
  match truthyCookie cookies.refreshToken with
  | some refreshToken => some refreshToken
  | none =>
      match headers.xRefreshToken with
      | some (.many values) => values.head?.map .text
      | some (.one value) => some (.text value)
      | none => none

/-- `jwt.verify` throws for another value than a text. -/
def CookieValue.verify (platform : Platform) (secret : Text) (now : Nat) : CookieValue → Verification
  | .text token => platform.jwtVerify token secret now
  | .json => .invalid

/-- These are the characters that `\s` and `trim` treat as white space. -/
def isWhiteSpace (letter : Char) : Bool :=
  [0x09, 0x0A, 0x0B, 0x0C, 0x0D, 0x20, 0xA0, 0x1680, 0x2028, 0x2029, 0x202F, 0x205F, 0x3000,
    0xFEFF].contains letter.toNat || (0x2000 ≤ letter.toNat && letter.toNat ≤ 0x200A)

/-- The header starts with the scheme and white space. -/
def isBearerClient (headers : Headers) : Bool :=
  headers.authorization.any fun authorization =>
    lowerCase (authorization.take 6) == ['b', 'e', 'a', 'r', 'e', 'r'] &&
      (authorization[6]?).any isWhiteSpace

/-- The answer keeps, sets or clears the two cookies. -/
inductive CookieChange where
  | unchanged
  | cleared
  | tokens (pair : Tokens)
  deriving DecidableEq

/-- These values of `res.locals` are written by the authentication. -/
structure Locals where
  userId : Uuid
  roles : List UserRole
  deriving DecidableEq

/-- A middleware passes the request on or ends it, and may have written to the answer. -/
structure Authentication where
  result : Except Exception Locals
  cookies : CookieChange := .unchanged
  headers : Option Tokens := none
  store : Store

def revokeAllSessions (userId : Uuid) (store : Store) : Store :=
  { store with
    sessions := updateWhere (fun session => session.userId == userId && !session.isRevoked)
      (fun session => { session with isRevoked := true, revokedReason := some .suspicious })
      store.sessions }

namespace Authentication

/-- Every refusal after the access token answers 401. -/
def refuse (message : String) (cookies : CookieChange) (store : Store) : Authentication where
  result := .error (.unauthorized message)
  cookies := cookies
  store := store

/-- Everything thrown after the session was found revokes the session. -/
def caught (env : Env) (sessionId : Uuid) (reason : SessionRevokeReason) (store : Store) : Authentication :=
  if env.succeeds 4 then
    refuse "INVALID_SESSION" .cleared (revokeSession sessionId reason store)
  else { result := .error .failedCall, store }

/-- The client that sends a bearer header gets the new tokens in headers. -/
def accept (headers : Headers) (payload : Payload) (tokens : Tokens) (store : Store) : Authentication where
  result := .ok { userId := payload.sub, roles := payload.roles }
  cookies := if isBearerClient headers then .unchanged else .tokens tokens
  headers := if isBearerClient headers then some tokens else none
  store := store

def withPayload (platform : Platform) (env : Env) (headers : Headers) (refreshToken : Text)
    (session : Session) (payload : Payload) (store : Store) : Authentication :=
  if session.isRevoked then
    if env.succeeds 1 then
      refuse "SUSPICIOUS_ACTIVITY_DETECTED" .cleared (revokeAllSessions payload.sub store)
    else caught env session.id .invalid store
  else if getTime session.expiresAt < getTime env.now then
    if env.succeeds 2 then
      refuse "EXPIRED_SESSION" .cleared (revokeSession session.id .expired store)
    else caught env session.id .invalid store
  else
    match rotateSession platform (env.succeeds 3) env.now session.id payload.roles refreshToken store with
    | (.error _, next) => caught env session.id .invalid next
    | (.ok none, next) => refuse "UNABLE_TO_ROTATE_SESSION" .unchanged next
    | (.ok (some tokens), next) => accept headers payload tokens next

def withSession (platform : Platform) (env : Env) (headers : Headers) (refreshToken : Text)
    (session : Session) (store : Store) : Authentication :=
  match platform.jwtVerify refreshToken platform.jwtRefreshSecret env.now with
  | .payload payload => withPayload platform env headers refreshToken session payload store
  | .expired => caught env session.id .expired store
  | .invalid => caught env session.id .invalid store

/-- This is the path of a request without an access token or with an expired one. -/
def refresh (platform : Platform) (env : Env) (cookies : Cookies) (headers : Headers) (store : Store) :
    Authentication :=
  match truthyCookie (getRefreshToken cookies headers) with
  | none => refuse "INVALID_AUTHENTICATION" .unchanged store
  -- the hash of another value than a text throws before the `try`
  | some .json => { result := .error .typeError, store }
  | some (.text refreshToken) =>
      if env.succeeds 0 then
        match findByEitherHash env.scan store (platform.sha256 refreshToken) with
        | none => refuse "INVALID_SESSION" .cleared store
        | some session => withSession platform env headers refreshToken session store
      else { result := .error .failedCall, store }

end Authentication

open Authentication in
def authenticate (platform : Platform) (env : Env) (cookies : Cookies) (headers : Headers) (store : Store) :
    Authentication :=
  match getAccessToken cookies headers with
  | none => refresh platform env cookies headers store
  | some accessToken =>
      match accessToken.verify platform platform.jwtSecret env.now with
      | .payload payload => { result := .ok { userId := payload.sub, roles := payload.roles }, store }
      | .expired => refresh platform env cookies headers store
      | .invalid => refuse "INVALID_ACCESS_TOKEN" .cleared store

/-- Without `res.locals.roles` the middleware throws a `TypeError`. -/
def authorize (allowed : List UserRole) (roles : Option (List UserRole)) : Except Exception Unit :=
  match roles with
  | none => .error .typeError
  | some [] => .error (.forbidden "Forbidden, user hasn't privileges")
  | some roles =>
      if roles.any fun role => allowed.contains role then .ok ()
      else .error (.forbidden "Forbidden, user hasn't enough privileges")

end Messinger
