/-
This file models runs of the calls that issue login keys.
-/
import Messinger.Model.Router

namespace Messinger

inductive KeyCall where
  | signup (dto : SignUpDto)
  | restoreUserLoginKey (dto : UserDto)

def runKeyCall (platform : Platform) (store : Store) (action : Env × KeyCall) : Store :=
  match action.2 with
  | .signup dto => (AuthService.signup platform action.1 dto store).2
  | .restoreUserLoginKey dto => (AdminService.restoreUserLoginKey platform action.1 dto store).2

/-- This is `POST /sign-in` with the login key that the client enters. -/
def Request.signsInWith (request : Request) (loginKey : Text) : Request :=
  { request with route := .signIn (signInSchema loginKey) }

end Messinger
