import Messinger.Model.DtoValidation

namespace Messinger

section Paths
variable {Builtin : Type} (prototypes : Prototypes Builtin)

/-- This is the value at the end of the path, if every key of the path exists. -/
def valueAt (obj : Value Builtin) (path : List PropertyKey) : Option (Value Builtin) :=
  path.foldlM (Value.member prototypes) obj

/-- Every key of the path exists in the value that the keys before it lead to. -/
def HasPath : Value Builtin → List PropertyKey → Prop
  | _, [] => True
  | obj, key :: path => ∃ value, obj.member prototypes key = some value ∧ HasPath value path

/-- The value is the one at the path, and undefined when a key is missing. -/
def ReportsFault (obj : Value Builtin) (path : List PropertyKey) : Prop :=
  some (getNestedValue prototypes obj path) = valueAt prototypes obj path

variable {prototypes}

theorem hasPath_iff_valueAt (obj : Value Builtin) (path : List PropertyKey) :
    HasPath prototypes obj path ↔ ∃ value, valueAt prototypes obj path = some value := by
  induction path generalizing obj with
  | nil => exact iff_of_true trivial ⟨obj, rfl⟩
  | cons key path ih =>
      unfold HasPath valueAt
      rw [List.foldlM_cons]
      cases present : obj.member prototypes key with
      | none =>
          refine iff_of_false ?_ ?_
          · rintro ⟨value, found, -⟩
            cases found
          · rintro ⟨value, found⟩
            cases found
      | some next =>
          refine Iff.trans ?_ (ih next)
          constructor
          · rintro ⟨value, found, rest⟩
            cases found
            exact rest
          · exact fun rest => ⟨next, rfl, rest⟩

/-- On an existing path the fold follows every key. -/
theorem valueAt_of_hasPath {obj : Value Builtin} {path : List PropertyKey} (exist : HasPath prototypes obj path) :
    valueAt prototypes obj path = some (getNestedValue prototypes obj path) := by
  induction path generalizing obj with
  | nil => rfl
  | cons key path ih =>
      obtain ⟨value, found, rest⟩ := exist
      have next := ih rest
      unfold valueAt getNestedValue at next ⊢
      rw [List.foldlM_cons, List.foldl_cons, found]
      exact next

/-- The value at fault is reported exactly when every key of the path exists. -/
theorem reports_fault_iff (prototypes : Prototypes Builtin) (obj : Value Builtin) (path : List PropertyKey) :
    ReportsFault prototypes obj path ↔ HasPath prototypes obj path := by
  constructor
  · exact fun reports => (hasPath_iff_valueAt obj path).mpr ⟨_, reports.symm⟩
  · exact fun exist => (valueAt_of_hasPath exist).symm

/-- A missing first key makes the validation echo whatever the remaining keys find in the whole request. -/
theorem getNestedValue_of_missing {obj : Value Builtin} {key : PropertyKey}
    (missing : obj.member prototypes key = none) (path : List PropertyKey) :
    getNestedValue prototypes obj (key :: path) = getNestedValue prototypes obj path := by
  unfold getNestedValue
  rw [List.foldl_cons, missing]

/-- All errors of a rejected request report the values at fault exactly when the paths of the issues exist. -/
theorem formattedErrors_report_iff (prototypes : Prototypes Builtin) (requestData : Json) (issues : List ZodIssue) :
    ((formattedErrors prototypes requestData issues).map ValidationError.value = issues.map fun issue =>
        if issue.path = [] then none else valueAt prototypes (.data requestData) issue.path) ↔
      ∀ issue ∈ issues, issue.path ≠ [] → HasPath prototypes (.data requestData) issue.path := by
  rw [formattedErrors, List.map_map, List.map_inj_left]
  refine forall₂_congr fun issue _ => ?_
  rw [Function.comp_apply, formatIssue]
  by_cases empty : issue.path = []
  · rw [if_pos empty, empty]
    exact iff_of_true rfl fun filled => absurd rfl filled
  · rw [if_neg empty, if_pos (List.length_pos_iff.mpr empty), ← reports_fault_iff]
    exact (imp_iff_right empty).symm

end Paths

/-- The sign-in of an admin brings the password without the name. -/
def passwordOnly : Json := requestData [(units "password", .string (units "secret"))] [] []

/-- The error for the missing name echoes the whole request. -/
theorem missing_name_echoes_password :
    ¬ ReportsFault (⟨fun _ => none, fun _ => none, fun value => value.elim⟩ : Prototypes Empty) (.data passwordOnly)
      [.name (units "adminName")] := by
  intro reports
  cases reports

end Messinger
