/-
This file counts what the actions of a run have added since an agent last began to count.
-/
import Mathlib.Algebra.BigOperators.Intervals
import Messinger.Library.Runs

namespace Library
open Finset

section Tallies
variable {State Action : Type} (step : State → Action → State)

/-- This is what the action at one position of the run adds. -/
def addedAt (adds : State → Action → Nat) (start : State) (actions : List Action) (position : Nat) : Nat :=
  (actions[position]?.map (adds (stateAt step start actions position))).getD 0

theorem addedAt_of_present {adds : State → Action → Nat} {start : State} {actions : List Action} {position : Nat}
    {action : Action} (present : actions[position]? = some action) :
    addedAt step adds start actions position = adds (stateAt step start actions position) action := by
  simp [addedAt, present]

theorem addedAt_of_absent {adds : State → Action → Nat} {start : State} {actions : List Action} {position : Nat}
    (absent : actions[position]? = none) : addedAt step adds start actions position = 0 := by
  simp [addedAt, absent]

/-- The action at the position begins to count. -/
def BeginsAt (begins : State → Action → Prop) (start : State) (actions : List Action) (position : Nat) : Prop :=
  ∃ action, actions[position]? = some action ∧ begins (stateAt step start actions position) action

/-- The total is what the run has added from the last action that begins to count, that action included. -/
def Tallied (begins : State → Action → Prop) (adds : State → Action → Nat) (start : State)
    (actions : List Action) (position total : Nat) : Prop :=
  ∃ first < position, BeginsAt step begins start actions first ∧
    (∀ later, first < later → later < position → ¬ BeginsAt step begins start actions later) ∧
    total = ∑ index ∈ Ico first position, addedAt step adds start actions index

variable {begins : State → Action → Prop} {adds : State → Action → Nat} {start : State} {actions : List Action}
  {position total : Nat}

/-- The action that begins to count is the first one that counts. -/
theorem tallied_of_begins (begun : BeginsAt step begins start actions position) :
    Tallied step begins adds start actions (position + 1) (addedAt step adds start actions position) := by
  refine ⟨position, Nat.lt_succ_self position, begun, ?_, ?_⟩
  · intro later after before
    omega
  · simp

/-- Any other action adds to the total. -/
theorem Tallied.succ (tallied : Tallied step begins adds start actions position total)
    (quiet : ¬ BeginsAt step begins start actions position) :
    Tallied step begins adds start actions (position + 1) (total + addedAt step adds start actions position) := by
  obtain ⟨first, before, begun, last, sum⟩ := tallied
  refine ⟨first, Nat.lt_succ_of_lt before, begun, ?_, ?_⟩
  · intro later after within
    obtain earlier | same := Nat.lt_succ_iff_lt_or_eq.mp within
    · exact last later after earlier
    · rw [same]
      exact quiet
  · rw [sum, sum_Ico_succ_top (Nat.le_of_lt before)]

end Tallies

section Counters
variable {State Action Agent : Type} {step : State → Action → State}
  {begins : State → Action → Agent → Prop} {adds : State → Action → Agent → Nat} {counter : State → Agent → Option Nat}

/-- A counter that restarts with each action that begins to count, and grows with all others, keeps the total. -/
theorem stateAt_tallied (invariant : State → Prop) {start : State} {actions : List Action} {agent : Agent}
    (initial : counter start agent = none)
    (holds : ∀ position, invariant (stateAt step start actions position))
    (restarts : ∀ state action total, invariant state → begins state action agent →
      counter (step state action) agent = some total → total = adds state action agent)
    (grows : ∀ state action total, invariant state → ¬ begins state action agent →
      counter (step state action) agent = some total →
      ∃ before, counter state agent = some before ∧ total = before + adds state action agent)
    {position total : Nat} (counted : counter (stateAt step start actions position) agent = some total) :
    Tallied step (begins · · agent) (adds · · agent) start actions position total := by
  induction position generalizing total with
  | zero =>
      have absent : counter (stateAt step start actions 0) agent = none := initial
      rw [absent] at counted
      cases counted
  | succ position ih =>
      cases present : actions[position]? with
      | none =>
          rw [stateAt_succ_of_none step present] at counted
          have quiet : ¬ BeginsAt step (begins · · agent) start actions position := by
            rintro ⟨action, found, -⟩
            rw [present] at found
            cases found
          have next := (ih counted).succ step quiet
          rw [addedAt_of_absent step present] at next
          exact next
      | some action =>
          rw [stateAt_succ step present] at counted
          by_cases begun : begins (stateAt step start actions position) action agent
          · have started : BeginsAt step (begins · · agent) start actions position := ⟨action, present, begun⟩
            have next : Tallied step (begins · · agent) (adds · · agent) start actions (position + 1) _ :=
              tallied_of_begins step started
            rw [addedAt_of_present step present] at next
            rw [restarts _ action total (holds position) begun counted]
            exact next
          · obtain ⟨before, found, sum⟩ := grows _ action total (holds position) begun counted
            have quiet : ¬ BeginsAt step (begins · · agent) start actions position := by
              rintro ⟨other, same, started⟩
              rw [present] at same
              cases same
              exact begun started
            have next := (ih found).succ step quiet
            rw [addedAt_of_present step present] at next
            rw [sum]
            exact next

end Counters

end Library
