/-
This file models runs of the calls that create, rotate, revoke and delete sessions.
-/
import Messinger.Model.Authentication

namespace Messinger
open Library SessionRepository

inductive SessionCall where
  | createSession (params : CreateSessionParams)
  | rotateSession (sessionId : Uuid) (roles : List UserRole) (refreshToken : Text)
  | revokeSession (sessionId : Uuid) (reason : SessionRevokeReason)
  | revokeAllSessions (userId : Uuid)
  | deleteUser (userId : Uuid)

def runSession (platform : Platform) (store : Store) (action : Env × SessionCall) : Store :=
  let env := action.1
  match action.2 with
  | .createSession params => (createSession platform env params store).2
  | .rotateSession sessionId roles refreshToken =>
      (rotateSession platform (env.succeeds 0) env.now sessionId roles refreshToken store).2
  | .revokeSession sessionId reason => if env.succeeds 0 then revokeSession sessionId reason store else store
  | .revokeAllSessions userId => if env.succeeds 0 then revokeAllSessions userId store else store
  | .deleteUser userId => if env.succeeds 0 then store.deleteUsers fun user => user.id == userId else store

/-- The sessions of the store come from a run that starts without sessions. -/
def SessionsReached (platform : Platform) (store : Store) : Prop :=
  ∃ (start : Store) (actions : List (Env × SessionCall)), start.sessions = [] ∧
    store = actions.foldl (runSession platform) start

/-- A rotation reads the clock once under the row lock. -/
structure RotateCall where
  now : Nat
  roles : List UserRole
  refreshToken : Text

def RotateCall.run (call : RotateCall) (platform : Platform) (sessionId : Uuid) (store : Store) :
    Outcome (Option Tokens) :=
  rotateSession platform true call.now sessionId call.roles call.refreshToken store

end Messinger
