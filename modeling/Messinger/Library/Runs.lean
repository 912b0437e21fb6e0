import Mathlib.Data.List.Basic
import Mathlib.Tactic.Common

namespace Library

section Sequential
variable {State Action : Type} (step : State → Action → State)

/-- This is the state before the action at the given position of the run. -/
def stateAt (start : State) (actions : List Action) (position : Nat) : State :=
  (actions.take position).foldl step start

theorem stateAt_succ {start : State} {actions : List Action} {position : Nat} {action : Action}
    (present : actions[position]? = some action) :
    stateAt step start actions (position + 1) =
      step (stateAt step start actions position) action := by
  rw [stateAt, List.take_add_one, present, List.foldl_append]
  rfl

theorem stateAt_succ_of_none {start : State} {actions : List Action} {position : Nat}
    (absent : actions[position]? = none) :
    stateAt step start actions (position + 1) = stateAt step start actions position := by
  rw [stateAt, List.take_add_one, absent]
  simp [stateAt]

theorem stateAt_cons (start : State) (action : Action) (rest : List Action) (position : Nat) :
    stateAt step start (action :: rest) (position + 1) = stateAt step (step start action) rest position := rfl

/-- What holds before a position, and after its action if the run has one, holds after the position. -/
theorem stateAt_carries (holds : State → Prop) {start : State} {actions : List Action} {position : Nat}
    (now : holds (stateAt step start actions position))
    (carried : ∀ action, actions[position]? = some action →
      holds (step (stateAt step start actions position) action)) :
    holds (stateAt step start actions (position + 1)) := by
  cases present : actions[position]? with
  | none =>
      rw [stateAt_succ_of_none step present]
      exact now
  | some action =>
      rw [stateAt_succ step present]
      exact carried action present

/-- Actions that all keep the state leave it as it is. -/
theorem stateAt_fixed {start : State} {actions : List Action}
    (kept : ∀ action ∈ actions, step start action = start) (position : Nat) :
    stateAt step start actions position = start := by
  induction position with
  | zero => rfl
  | succ position ih =>
      apply stateAt_carries step (fun state => state = start) ih
      intro action present
      rw [ih]
      exact kept action (List.mem_of_getElem? present)

/-- A property of positions that every action carries forward holds at every position. -/
theorem stateAt_induction {start : State} {actions : List Action} (holds : Nat → State → Prop)
    (initial : holds 0 start)
    (carried : ∀ position action, actions[position]? = some action →
      holds position (stateAt step start actions position) →
      holds (position + 1) (step (stateAt step start actions position) action))
    (position : Nat) (inside : position ≤ actions.length) :
    holds position (stateAt step start actions position) := by
  induction position with
  | zero => exact initial
  | succ position ih =>
      have present : actions[position]? = some actions[position] :=
        List.getElem?_eq_getElem inside
      rw [stateAt_succ step present]
      exact carried position _ present (ih (Nat.le_of_succ_le inside))

/-- What every action keeps still holds later in the run. -/
theorem stateAt_persists {start : State} {actions : List Action} (holds : State → Prop)
    (carried : ∀ state action, holds state → holds (step state action)) {earlier later : Nat}
    (ordered : earlier ≤ later) (now : holds (stateAt step start actions earlier)) :
    holds (stateAt step start actions later) := by
  induction ordered with
  | refl => exact now
  | @step later _ ih => exact stateAt_carries step holds ih fun action _ => carried _ action ih

/-- Every action of the run meets the condition in the state where it stands. -/
def Meets (condition : State → Action → Prop) (start : State) (actions : List Action) : Prop :=
  ∀ position action, actions[position]? = some action →
    condition (stateAt step start actions position) action

theorem meets_nil {condition : State → Action → Prop} {start : State} :
    Meets step condition start [] := by
  intro position action present
  cases present

theorem meets_cons {condition : State → Action → Prop} {start : State} {action : Action}
    {rest : List Action} :
    Meets step condition start (action :: rest) ↔
      condition start action ∧ Meets step condition (step start action) rest := by
  constructor
  · exact fun meets => ⟨meets 0 action rfl, fun position => meets (position + 1)⟩
  · rintro ⟨first, later⟩ position other present
    cases position with
    | zero =>
        cases present
        exact first
    | succ position => exact later position other present

/-- The last action meets the condition in the state after the others. -/
theorem meets_concat {condition : State → Action → Prop} {start : State} {actions : List Action}
    {last : Action} :
    Meets step condition start (actions ++ [last]) ↔
      Meets step condition start actions ∧ condition (actions.foldl step start) last := by
  induction actions generalizing start with
  | nil =>
      rw [List.nil_append, meets_cons, List.foldl_nil]
      exact ⟨fun met => ⟨meets_nil step, met.1⟩, fun met => ⟨met.2, meets_nil step⟩⟩
  | cons action rest ih => rw [List.cons_append, meets_cons, meets_cons, ih, and_assoc, List.foldl_cons]

instance decidableMeets (condition : State → Action → Prop)
    [decides : ∀ state action, Decidable (condition state action)] :
    ∀ (start : State) (actions : List Action), Decidable (Meets step condition start actions)
  | _, [] => isTrue (meets_nil step)
  | start, action :: rest =>
      have := decidableMeets condition (step start action) rest
      decidable_of_iff _ (meets_cons step).symm

/-- An invariant that the condition carries over each action holds at every position. -/
theorem Meets.invariant {condition : State → Action → Prop} {start : State} {actions : List Action}
    (meets : Meets step condition start actions) (invariant : State → Prop) (initial : invariant start)
    (carried : ∀ state action, invariant state → condition state action → invariant (step state action))
    (position : Nat) : invariant (stateAt step start actions position) := by
  induction position with
  | zero => exact initial
  | succ position ih =>
      apply stateAt_carries step invariant ih
      exact fun action present => carried _ action ih (meets position action present)

/-- A property holds at every position exactly when every action meets the condition, if meeting it keeps an
invariant that gives the property and missing it breaks the property. -/
theorem always_iff_meets {condition : State → Action → Prop} {start : State} {actions : List Action}
    (invariant property : State → Prop) (initial : invariant start)
    (holds : ∀ state, invariant state → property state)
    (carried : ∀ state action, invariant state → condition state action → invariant (step state action))
    (breaks : ∀ state action, invariant state → property (step state action) → condition state action) :
    (∀ position, property (stateAt step start actions position)) ↔ Meets step condition start actions := by
  constructor
  · intro always
    have kept (position : Nat) : invariant (stateAt step start actions position) := by
      induction position with
      | zero => exact initial
      | succ position ih =>
          apply stateAt_carries step invariant ih
          intro action present
          have next := always (position + 1)
          rw [stateAt_succ step present] at next
          exact carried _ action ih (breaks _ action ih next)
    intro position action present
    have next := always (position + 1)
    rw [stateAt_succ step present] at next
    exact breaks _ action (kept position) next
  · intro meets position
    exact holds _ (meets.invariant step invariant initial carried position)

theorem Meets.congr {condition other : State → Action → Prop} {start : State} {actions : List Action}
    (same : ∀ state action, condition state action ↔ other state action) :
    Meets step condition start actions ↔ Meets step other start actions := by
  constructor
  · exact fun meets position action present => (same _ action).mp (meets position action present)
  · exact fun meets position action present => (same _ action).mpr (meets position action present)

/-- A preorder relates all earlier to all later states when every action relates its two states. -/
theorem stateAt_related_iff (related : State → State → Prop) (refl : ∀ state, related state state)
    (trans : ∀ first second third, related first second → related second third → related first third)
    (start : State) (actions : List Action) :
    (∀ earlier later, earlier ≤ later →
        related (stateAt step start actions earlier) (stateAt step start actions later)) ↔
      Meets step (fun state action => related state (step state action)) start actions := by
  constructor
  · intro ordered position action present
    rw [← stateAt_succ step present]
    exact ordered position (position + 1) (Nat.le_succ position)
  · intro meets earlier later ordered
    induction ordered with
    | refl => exact refl _
    | @step later _ ih =>
        apply stateAt_carries step (related _) ih
        exact fun action present => trans _ _ _ ih (meets later action present)

/-- An invariant of the step relation holds after every run. -/
theorem run_invariant (invariant : State → Prop)
    (carried : ∀ state action, invariant state → invariant (step state action))
    (actions : List Action) (start : State) (initial : invariant start) :
    invariant (actions.foldl step start) := by
  induction actions generalizing start with
  | nil => exact initial
  | cons action rest ih => exact ih (step start action) (carried start action initial)

end Sequential

section TwoPhase
variable {State Call Plan : Type}

/-- A call reads and checks in one atomic step and commits its plan in another. -/
structure TwoPhase (State Call Plan : Type) where
  read : State → Call → Option Plan
  commit : State → Plan → State

/-- The scheduler starts a call or commits one of the pending plans. -/
inductive Schedule (Call : Type) where
  | read (call : Call)
  | commit (position : Nat)

/-- The system state holds the plans of the calls that have read and not committed. -/
structure Progress (State Plan : Type) where
  state : State
  pending : List Plan

def TwoPhase.advance (system : TwoPhase State Call Plan) (progress : Progress State Plan) :
    Schedule Call → Progress State Plan
  | .read call =>
      match system.read progress.state call with
      | none => progress
      | some plan => { progress with pending := progress.pending ++ [plan] }
  | .commit position =>
      match progress.pending[position]? with
      | none => progress
      | some plan => ⟨system.commit progress.state plan, progress.pending.eraseIdx position⟩

/-- Every commit of the schedule finds its plan still valid. -/
def TwoPhase.CommitsValid (system : TwoPhase State Call Plan) (valid : State → Plan → Prop) :
    Progress State Plan → List (Schedule Call) → Prop
  | _, [] => True
  | progress, action :: rest =>
      (∀ position plan, action = .commit position → progress.pending[position]? = some plan →
        valid progress.state plan) ∧
      CommitsValid system valid (system.advance progress action) rest

/-- An invariant that valid commits keep holds under every interleaving of valid commits. -/
theorem TwoPhase.interleaving_invariant (system : TwoPhase State Call Plan)
    (valid : State → Plan → Prop) (invariant : State → Prop)
    (kept : ∀ state plan, invariant state → valid state plan →
      invariant (system.commit state plan))
    (schedule : List (Schedule Call)) (progress : Progress State Plan)
    (initial : invariant progress.state)
    (commits : system.CommitsValid valid progress schedule) :
    invariant (schedule.foldl system.advance progress).state := by
  induction schedule generalizing progress with
  | nil => exact initial
  | cons action rest ih =>
      apply ih _ _ commits.2
      cases action with
      | read call =>
          simp only [advance]
          split <;> exact initial
      | commit position =>
          simp only [advance]
          split
          · exact initial
          · next plan present =>
              exact kept _ _ initial (commits.1 position plan rfl present)

/-- A schedule of valid commits has valid commits up to every position. -/
theorem TwoPhase.CommitsValid.take {system : TwoPhase State Call Plan} {valid : State → Plan → Prop}
    {schedule : List (Schedule Call)} {progress : Progress State Plan}
    (commits : system.CommitsValid valid progress schedule) (position : Nat) :
    system.CommitsValid valid progress (schedule.take position) := by
  induction schedule generalizing progress position with
  | nil =>
      rw [List.take_nil]
      exact trivial
  | cons action rest ih =>
      cases position with
      | zero => exact trivial
      | succ position => exact ⟨commits.1, ih commits.2 position⟩

section Schedules
variable {system : TwoPhase State Call Plan} {valid : State → Plan → Prop} {progress : Progress State Plan}
  {rest : List (Schedule Call)}

theorem TwoPhase.CommitsValid.read {call : Call}
    (commits : system.CommitsValid valid (system.advance progress (.read call)) rest) :
    system.CommitsValid valid progress (.read call :: rest) := by
  refine ⟨?_, commits⟩
  intro position plan same
  cases same

theorem TwoPhase.CommitsValid.commit {position : Nat} {plan : Plan} (present : progress.pending[position]? = some plan)
    (checked : valid progress.state plan)
    (commits : system.CommitsValid valid (system.advance progress (.commit position)) rest) :
    system.CommitsValid valid progress (.commit position :: rest) := by
  refine ⟨?_, commits⟩
  intro other found same pending
  cases same
  cases present.symm.trans pending
  exact checked

end Schedules

end TwoPhase

end Library
