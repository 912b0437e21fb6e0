/-
This file models the calls that make admins, one committed step at a time. A call looks for its name, hashes its
password, and saves its row in a later step.
-/
import Messinger.Library.Tasks
import Messinger.Model.AdminService

namespace Messinger
open Library UserRepository

inductive AdminCall where
  | adminSeed
  | createAdmin (dto : AdminDto)

/-- This is the row that the call saves. -/
structure AdminDraft where
  adminName : Text
  passwordHash : Text
  role : UserRole

namespace AdminCall

def adminName (platform : Platform) : AdminCall → Text
  | .adminSeed => platform.adminName
  | .createAdmin dto => dto.adminName

/-- The seed looks for an ADMIN of the name, and `createAdmin` for any row of the name. -/
def findsExisting (platform : Platform) (scan : Nat) (store : Store) : AdminCall → Bool
  | .adminSeed => store.users.any fun user => user.role == .admin && user.adminName == some platform.adminName
  | .createAdmin dto => (findByAdminName scan store dto.adminName).isSome

/-- The seed saves a SUPER_ADMIN, and `createAdmin` an ADMIN. -/
def draft (platform : Platform) (env : Env) : AdminCall → AdminDraft
  | .adminSeed =>
      { adminName := platform.adminName
        passwordHash := platform.bcryptHash platform.adminPassword (env.draw 0), role := .superAdmin }
  | .createAdmin dto =>
      { adminName := dto.adminName
        passwordHash := platform.bcryptHash dto.password (env.draw 0), role := .admin }

end AdminCall

namespace AdminDraft

def user (id : Uuid) (now : Nat) (draft : AdminDraft) : User :=
  { id, adminName := some draft.adminName, passwordHash := some draft.passwordHash, role := draft.role
    createdAt := now }

/-- A lookup that fails ends its call. -/
def start (platform : Platform) (store : Store) (call : Env × AdminCall) : Store × Option AdminDraft :=
  if call.1.succeeds 1 && !call.2.findsExisting platform call.1.scan store then
    (store, some (call.2.draft platform call.1))
  else (store, none)

def resume (store : Store) (draft : AdminDraft) (env : Env) : Store × Option AdminDraft :=
  ((saveUser env (draft.user store.nextId env.now) store).2, none)

end AdminDraft

def adminSystem (platform : Platform) : Cooperative Store (Env × AdminCall) AdminDraft Env where
  start := AdminDraft.start platform
  resume := AdminDraft.resume

end Messinger
