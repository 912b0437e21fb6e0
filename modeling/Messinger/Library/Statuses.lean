import Messinger.Library.Rows

namespace Library

section Statuses
variable {Row Key Status : Type} [DecidableEq Key] (key : Row → Key) (status : Row → Status)
  (related : Status → Status → Prop)

/-- Every row of the first table is in the second one, and its status has moved as the relation allows. -/
def StatusesFollow (rows next : List Row) : Prop :=
  ∀ wanted row, lookup key wanted rows = some row →
    ∃ after, lookup key wanted next = some after ∧ related (status row) (status after)

variable {related}

theorem StatusesFollow.refl (refl : ∀ value, related value value) (rows : List Row) :
    StatusesFollow key status related rows rows :=
  fun _ row found => ⟨row, found, refl (status row)⟩

theorem StatusesFollow.trans
    (trans : ∀ first second third, related first second → related second third → related first third)
    {first second third : List Row} (one : StatusesFollow key status related first second)
    (two : StatusesFollow key status related second third) : StatusesFollow key status related first third := by
  intro wanted row found
  obtain ⟨middle, between, before⟩ := one wanted row found
  obtain ⟨after, last, later⟩ := two wanted middle between
  exact ⟨after, last, trans _ _ _ before later⟩

/-- New rows stand behind the old ones, so they hide none of them. -/
theorem StatusesFollow.append (refl : ∀ value, related value value) (rows more : List Row) :
    StatusesFollow key status related rows (rows ++ more) := by
  intro wanted row found
  exact ⟨row, by rw [lookup_append, found, Option.some_or], refl (status row)⟩

/-- An update that sets one status follows the relation exactly when the relation allows that status for
every row that the update finds. -/
theorem statusesFollow_updateWhere_iff (refl : ∀ value, related value value) {matching : Row → Bool}
    {change : Row → Row} {value : Status} (keeps : ∀ row, key (change row) = key row)
    (sets : ∀ row, status (change row) = value) (rows : List Row) :
    StatusesFollow key status related rows (updateWhere matching change rows) ↔
      ∀ wanted row, lookup key wanted rows = some row → matching row = true → related (status row) value := by
  constructor
  · intro follows wanted row found selected
    obtain ⟨after, stored, allowed⟩ := follows wanted row found
    rw [lookup_updateWhere key _ _ _ keeps, found, Option.map_some, if_pos selected] at stored
    cases stored
    rw [sets] at allowed
    exact allowed
  · intro allowed wanted row found
    refine ⟨_, by rw [lookup_updateWhere key _ _ _ keeps, found, Option.map_some], ?_⟩
    split
    · next selected =>
        rw [sets]
        exact allowed wanted row found selected
    · exact refl (status row)

end Statuses

end Library
