/-
This file models the requests that refresh and end sessions, one committed step at a time. A request reads
its session, decides on what it has read, and writes in a later step.
-/
import Messinger.Library.Tasks
import Messinger.Model.AuthService

namespace Messinger
open Library SessionRepository

inductive AuthCall where
  | authenticate (cookies : Cookies) (headers : Headers)
  | logout (refreshToken : Text)

/-- A rotation waits with the row that the request has read, and the catch block waits with its reason. -/
inductive AuthTask where
  | rotateSession (session : Session) (payload : Payload) (refreshToken : Text)
  | revokeAllSessions (session : Session) (payload : Payload)
  | expireSession (session : Session)
  | caught (sessionId : Uuid) (reason : SessionRevokeReason)
  | revokeSession (sessionId : Uuid)

namespace AuthTask

/-- The request decides on the row that it has read. -/
def withSession (platform : Platform) (env : Env) (refreshToken : Text) (session : Session) : AuthTask :=
  match platform.jwtVerify refreshToken platform.jwtRefreshSecret env.now with
  | .payload payload =>
      if session.isRevoked then .revokeAllSessions session payload
      else if getTime session.expiresAt < getTime env.now then .expireSession session
      else .rotateSession session payload refreshToken
  | .expired => .caught session.id .expired
  | .invalid => .caught session.id .invalid

def refresh (platform : Platform) (env : Env) (cookies : Cookies) (headers : Headers) (store : Store) :
    Option AuthTask :=
  match truthyCookie (getRefreshToken cookies headers) with
  | none => none
  | some .json => none
  | some (.text refreshToken) =>
      if env.succeeds 0 then
        (findByEitherHash env.scan store (platform.sha256 refreshToken)).map
          (withSession platform env refreshToken)
      else none

def authenticate (platform : Platform) (env : Env) (cookies : Cookies) (headers : Headers) (store : Store) :
    Option AuthTask :=
  match getAccessToken cookies headers with
  | none => refresh platform env cookies headers store
  | some accessToken =>
      match accessToken.verify platform platform.jwtSecret env.now with
      | .payload _ => none
      | .expired => refresh platform env cookies headers store
      | .invalid => none

def start (platform : Platform) (store : Store) (call : Env × AuthCall) : Store × Option AuthTask :=
  match call.2 with
  | .authenticate cookies headers => (store, authenticate platform call.1 cookies headers store)
  | .logout refreshToken =>
      (store, (findByRefreshTokenHash store (platform.sha256 refreshToken)).bind fun session =>
        if session.isRevoked then none else some (.revokeSession session.id))

/-- Everything thrown after the session was read goes through the catch block. -/
def resume (platform : Platform) (store : Store) (task : AuthTask) (env : Env) : Store × Option AuthTask :=
  match task with
  | .rotateSession session payload refreshToken =>
      match SessionRepository.rotateSession platform (env.succeeds 3) env.now session.id payload.roles
          refreshToken store with
      | (.error _, next) => (next, some (.caught session.id .invalid))
      | (.ok _, next) => (next, none)
  | .revokeAllSessions session payload =>
      if env.succeeds 1 then (Messinger.revokeAllSessions payload.sub store, none)
      else (store, some (.caught session.id .invalid))
  | .expireSession session =>
      if env.succeeds 2 then (SessionRepository.revokeSession session.id .expired store, none)
      else (store, some (.caught session.id .invalid))
  | .caught sessionId reason =>
      if env.succeeds 4 then (SessionRepository.revokeSession sessionId reason store, none) else (store, none)
  | .revokeSession sessionId =>
      if env.succeeds 0 then (SessionRepository.revokeSession sessionId .logout store, none) else (store, none)

end AuthTask

/-- Requests of all users run one committed step at a time. -/
def authSystem (platform : Platform) : Cooperative Store (Env × AuthCall) AuthTask Env where
  start := AuthTask.start platform
  resume := AuthTask.resume platform

end Messinger
