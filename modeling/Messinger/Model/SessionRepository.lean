/-
This file models the sessions with the rotation of their tokens.
-/
import Messinger.Library.Rows
import Messinger.Model.Store

namespace Messinger
open Library

structure Tokens where
  accessToken : Text
  refreshToken : Text
  deriving DecidableEq

structure CreateSessionParams where
  userId : Uuid
  roles : List UserRole
  userAgent : Text
  ipAddress : Option Text

namespace SessionRepository

/-- A rotated token stays good for this number of milliseconds. -/
def rotationGracePeriod : Nat := 5000

/-- Both tokens of a pair carry the same claims. -/
def signTokens (platform : Platform) (now : Nat) (payload : Payload) : Tokens where
  accessToken := platform.jwtSign payload platform.jwtSecret platform.jwtExpiresIn now
  refreshToken := platform.jwtSign payload platform.jwtRefreshSecret platform.jwtRefreshExpiresIn now

/-- The insert fails without its user, when another row has the hash of the refresh token, and for an address that the
inet column does not accept. -/
def createSession (platform : Platform) (env : Env) (params : CreateSessionParams) (store : Store) :
    Outcome Tokens :=
  let sessionId := store.nextId
  let tokens := signTokens platform env.now { sub := params.userId, roles := params.roles, sid := sessionId }
  let refreshTokenHash := platform.sha256 tokens.refreshToken
  if env.succeeds 0 && store.hasUser params.userId && params.ipAddress.all platform.inet &&
      !(store.sessions.any fun session => session.refreshTokenHash == refreshTokenHash) then
    (.ok tokens, { store with
      sessions := store.sessions ++
        [{ id := sessionId, userId := params.userId, refreshTokenHash
           expiresAt := jsDate env.now + parseExpiry platform.jwtRefreshExpiresIn * 1000000
           userAgent := params.userAgent, ipAddress := params.ipAddress }]
      nextId := store.nextId + 1 })
  else (.error .failedCall, store)

def findById (store : Store) (sessionId : Uuid) : Option Session :=
  lookup Session.id sessionId store.sessions

def findByRefreshTokenHash (store : Store) (refreshTokenHash : Text) : Option Session :=
  lookup Session.refreshTokenHash refreshTokenHash store.sessions

/-- The lookup has no order, and the previous hash of a row matches like the current one. -/
def findByEitherHash (scan : Nat) (store : Store) (refreshTokenHash : Text) : Option Session :=
  pickRow scan (store.sessions.filter fun session =>
    session.refreshTokenHash == refreshTokenHash ||
      session.previousRefreshTokenHash == some refreshTokenHash)

def updateSession (sessionId : Uuid) (change : Session → Session) (store : Store) : Store :=
  { store with
    sessions := updateWhere (fun session => session.id == sessionId) change store.sessions }

def revokeSession (sessionId : Uuid) (reason : SessionRevokeReason) (store : Store) : Store :=
  updateSession sessionId
    (fun session => { session with isRevoked := true, revokedReason := some reason }) store

/-- Another request has rotated this token within the grace period. -/
def inGracePeriod (now : Nat) (session : Session) (refreshTokenHash : Text) : Bool :=
  session.rotatedAt.any (fun rotatedAt => decide (getTime now ≤ getTime rotatedAt + rotationGracePeriod)) &&
    session.previousRefreshTokenHash == some refreshTokenHash

/-- The row keeps the new tokens and the hash of the token that they replace. -/
def rotated (platform : Platform) (now : Nat) (tokens : Tokens) (session : Session) : Session :=
  { session with
    previousRefreshTokenHash := some session.refreshTokenHash
    rotatedRefreshToken := some tokens.refreshToken
    rotatedAccessToken := some tokens.accessToken
    refreshTokenHash := platform.sha256 tokens.refreshToken
    rotatedAt := some (jsDate now) }

def rotateSessionBody (platform : Platform) (now : Nat) (sessionId : Uuid) (roles : List UserRole)
    (refreshToken : Text) (store : Store) : Except Exception (Option Tokens × Store) :=
  match findById store sessionId with
  | none => .ok (none, store)
  | some session =>
      let refreshTokenHash := platform.sha256 refreshToken
      if inGracePeriod now session refreshTokenHash then
        .ok (some ⟨session.rotatedAccessToken.getD [], session.rotatedRefreshToken.getD []⟩, store)
      else if session.refreshTokenHash ≠ refreshTokenHash then .ok (none, store)
      else
        let tokens := signTokens platform now { sub := session.userId, roles, sid := session.id }
        -- the unique index on the hash rejects a token of another row
        if store.sessions.any fun other =>
            other.id != session.id && other.refreshTokenHash == platform.sha256 tokens.refreshToken then
          .error .failedCall
        else .ok (some tokens, updateSession session.id (rotated platform now tokens) store)

/-- The transaction locks the row, so its check and its update see the same row. -/
def rotateSession (platform : Platform) (commits : Bool) (now : Nat) (sessionId : Uuid)
    (roles : List UserRole) (refreshToken : Text) (store : Store) : Outcome (Option Tokens) :=
  transaction commits store (rotateSessionBody platform now sessionId roles refreshToken)

end SessionRepository

end Messinger
