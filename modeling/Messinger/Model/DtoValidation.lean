/-
This file models the errors that the validation of a request reports, with the values at their paths.
-/
import Messinger.Model.Schemas

namespace Messinger

/-- The schemas of the service have no symbol keys, so a path has names and indexes. -/
inductive PropertyKey where
  | name (units : CodeUnits)
  | index (position : Nat)
  deriving DecidableEq

/-- An index is the property that is named by its digits. -/
def PropertyKey.text : PropertyKey → CodeUnits
  | .name units => units
  | .index position => (Nat.toDigits 10 position).map fun digit => UInt16.ofNat digit.toNat

/-- A path leads to data of the request or to what its objects inherit from the language. -/
inductive Value (Builtin : Type) where
  | data (json : Json)
  | builtin (value : Builtin)

/-- Objects and arrays inherit members from their prototypes, and a prototype is an object with members itself. -/
structure Prototypes (Builtin : Type) where
  ofObject : PropertyKey → Option Builtin
  ofArray : PropertyKey → Option Builtin
  members : Builtin → PropertyKey → Option Builtin

/-- These are the own properties of an object and of an array. -/
def Json.ownProperty : Json → PropertyKey → Option Json
  | .object fields, key => (fields.find? fun field => field.1 == key.text).map Prod.snd
  | .array items, key =>
      if key.text = units "length" then some (.number (some items.length))
      else (items.zipIdx.find? fun (_, index) => (PropertyKey.index index).text == key.text).map Prod.fst
  | _, _ => none

section Validation
variable {Builtin : Type} (prototypes : Prototypes Builtin)

/-- This is `current[key]`, if `current` is an object with `key in current`. -/
def Value.member : Value Builtin → PropertyKey → Option (Value Builtin)
  | .data json, key =>
      match json.ownProperty key, json with
      | some value, _ => some (.data value)
      | none, .object _ => (prototypes.ofObject key).map .builtin
      | none, .array _ => (prototypes.ofArray key).map .builtin
      | none, _ => none
  | .builtin value, key => (prototypes.members value key).map .builtin

/-- A key that is missing leaves the value where it is. -/
def getNestedValue (obj : Value Builtin) (path : List PropertyKey) : Value Builtin :=
  path.foldl (fun current key =>
    match current.member prototypes key with
    | some value => value
    | none => current) obj

structure ZodIssue where
  path : List PropertyKey
  message : String
  code : String

structure ValidationError (Builtin : Type) where
  field : CodeUnits
  message : String
  code : String
  value : Option (Value Builtin)

/-- The fields of the query replace those of the body, and the parameters replace both. -/
def requestData (body query params : List (CodeUnits × Json)) : Json :=
  .object ([body, query, params].foldl (fun spread fields =>
    (spread.filter fun field => !(fields.map Prod.fst).contains field.1) ++ fields) [])

/-- This is the error that `validateDTO` formats for one issue. -/
def formatIssue (requestData : Json) (issue : ZodIssue) : ValidationError Builtin where
  field := (units ".").intercalate (issue.path.map PropertyKey.text)
  message := issue.message
  code := issue.code
  value := if issue.path.length > 0 then some (getNestedValue prototypes (.data requestData) issue.path) else none

/-- These are the errors of the `ValidationException`. -/
def formattedErrors (requestData : Json) (issues : List ZodIssue) : List (ValidationError Builtin) :=
  issues.map (formatIssue prototypes requestData)

end Validation

end Messinger
