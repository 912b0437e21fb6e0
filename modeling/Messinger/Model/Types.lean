/-
This file fixes the identifiers, the clock, the enumerations and the exceptions of the service.
-/
import Mathlib.Data.List.Sort
import Mathlib.Tactic.Common

namespace Messinger

/-- The database compares a uuid column by its value. -/
abbrev Uuid := Nat

/-- An identifier, a token or a key that the service handles as a string. -/
abbrev Text := List Char

/-- A JavaScript `Date` keeps the whole milliseconds of a timestamp.
A timestamp counts microseconds, which is the precision of `timestamptz`. -/
def jsDate (time : Nat) : Nat := time / 1000 * 1000

/-- This is `Date.prototype.getTime`. -/
def getTime (time : Nat) : Nat := time / 1000

/-- This is `addHours` of date-fns. -/
def addHours (time hours : Nat) : Nat := time + hours * 3600000000

/-- This is `isAfter` of date-fns, which compares two dates. -/
def isAfter (date other : Nat) : Bool := decide (getTime other < getTime date)

theorem jsDate_le (time : Nat) : jsDate time ≤ time := Nat.div_mul_le_self time 1000

def hexValue (digit : Char) : Nat :=
  if digit.toNat ≤ 57 then digit.toNat - 48
  else if digit.toNat ≤ 70 then digit.toNat - 55
  else digit.toNat - 87

/-- The database reads a uuid string without regard to letter case or dashes. -/
def parseUuid (text : Text) : Uuid :=
  (text.filter (· != '-')).foldl (fun value digit => 16 * value + hexValue digit) 0

/-- The database prints a uuid in lower case, in groups of 8, 4, 4, 4 and 12 digits. -/
def uuidText (id : Uuid) : Text :=
  let digits := (Nat.toDigits 16 id).leftpad 32 '0'
  digits.take 8 ++ '-' :: (digits.drop 8).take 4 ++ '-' :: (digits.drop 12).take 4 ++
    '-' :: (digits.drop 16).take 4 ++ '-' :: digits.drop 20

inductive MessageStatus where
  | sent
  | delivered
  | read
  deriving DecidableEq, Repr

inductive ConversationRole where
  | owner
  | member
  deriving DecidableEq, Repr

inductive ConversationType where
  | privateType
  | groupType
  deriving DecidableEq, Repr

/-- GROUP_DELETED and MEMBER_INVITED name no stored event. -/
inductive ConversationEventType where
  | groupCreated
  | groupDeleted
  | memberInvited
  | memberJoined
  | memberLeft
  | memberRemoved
  | ownershipTransferred
  deriving DecidableEq, Repr

inductive GroupInvitationStatus where
  | pending
  | accepted
  | rejected
  | expired
  deriving DecidableEq, Repr

inductive UserRole where
  | user
  | admin
  | superAdmin
  deriving DecidableEq, Repr

inductive SessionRevokeReason where
  | logout
  | security
  | timeout
  | suspicious
  | expired
  | invalid
  deriving DecidableEq, Repr

/-- The exceptions of the service, the `TypeError` of the runtime and a failed outside call. -/
inductive Exception where
  | badRequest (message : String)
  | unauthorized (message : String)
  | forbidden (message : String)
  | notFound (message : String)
  | conflict (message : String)
  | validation (message : String)
  | typeError
  | failedCall
  deriving DecidableEq, Repr

/-- This is the HTTP status that the error handler answers. -/
def Exception.httpCode : Exception → Nat
  | .badRequest _ => 400
  | .unauthorized _ => 401
  | .forbidden _ => 403
  | .notFound _ => 404
  | .conflict _ => 409
  | .validation _ => 422
  | .typeError => 500
  | .failedCall => 500

/-- An object key has the form `users/<owner>/attachments/<object>.bin`. -/
structure StorageKey where
  owner : Uuid
  object : Uuid
  deriving DecidableEq, Repr

/-- What one call meets outside the tables: the clock, the order in which the database scans rows, the success of
each outside operation, the objects that a failed deletion has taken from the bucket, and the random draws. -/
structure Env where
  now : Nat
  scan : Nat := 0
  succeeds : Nat → Bool := fun _ => true
  deleted : List StorageKey := []
  draw : Nat → Nat := fun index => index

/-- A `findOne` without an order returns whichever matching row the scan meets. -/
def pickRow {Row : Type} (scan : Nat) (rows : List Row) : Option Row :=
  rows[scan % rows.length]?

theorem pickRow_mem {Row : Type} {scan : Nat} {rows : List Row} {row : Row}
    (picked : pickRow scan rows = some row) : row ∈ rows :=
  List.mem_of_getElem? picked

theorem pickRow_isSome {Row : Type} {rows : List Row} {row : Row} (inside : row ∈ rows) (scan : Nat) :
    ∃ picked ∈ rows, pickRow scan rows = some picked := by
  have below := Nat.mod_lt scan (List.length_pos_of_mem inside)
  exact ⟨_, List.getElem_mem below, List.getElem?_eq_getElem below⟩

end Messinger
