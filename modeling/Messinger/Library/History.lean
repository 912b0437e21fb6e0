/-
This file records what the actions of a run have brought about, and which value an agent got last.
-/
import Messinger.Library.Runs

namespace Library

section Events
variable {State Action Event : Type} (step : State → Action → State) (brings : State → Action → Event → Prop)

/-- An action of the run before the position brings the event about. -/
def Happened (start : State) (actions : List Action) (position : Nat) (event : Event) : Prop :=
  ∃ earlier < position, ∃ action, actions[earlier]? = some action ∧
    brings (stateAt step start actions earlier) action event

/-- An invariant about the events so far holds at every position, if every action carries it once the events that
the action brings about count. -/
theorem stateAt_recorded (invariant : (Event → Prop) → State → Prop)
    (weaken : ∀ known later state, (∀ event, known event → later event) → invariant known state → invariant later state)
    {start : State} {actions : List Action} (initial : invariant (fun _ => False) start)
    (carried : ∀ known state action, invariant known state → (∀ event, brings state action event → known event) →
      invariant known (step state action)) (position : Nat) :
    invariant (Happened step brings start actions position) (stateAt step start actions position) := by
  induction position with
  | zero => exact weaken _ _ _ (fun _ nothing => nothing.elim) initial
  | succ position ih =>
      have now : invariant (Happened step brings start actions (position + 1)) (stateAt step start actions position) := by
        refine weaken _ _ _ ?_ ih
        rintro event ⟨earlier, before, found⟩
        exact ⟨earlier, Nat.lt_succ_of_lt before, found⟩
      apply stateAt_carries step _ now
      intro action present
      apply carried _ _ action now
      exact fun event brought => ⟨position, Nat.lt_succ_self position, action, present, brought⟩

theorem happened_succ_iff {start : State} {actions : List Action} {position : Nat} {event : Event} :
    Happened step brings start actions (position + 1) event ↔
      Happened step brings start actions position event ∨
        ∃ action, actions[position]? = some action ∧ brings (stateAt step start actions position) action event := by
  constructor
  · rintro ⟨earlier, before, found⟩
    rcases Nat.lt_succ_iff_lt_or_eq.mp before with inside | rfl
    · exact .inl ⟨earlier, inside, found⟩
    · exact .inr found
  · rintro (⟨earlier, before, found⟩ | found)
    · exact ⟨earlier, Nat.lt_succ_of_lt before, found⟩
    · exact ⟨position, Nat.lt_succ_self position, found⟩

/-- A flag that only the event raises, and nothing lowers, tells whether the event has happened. -/
theorem flag_iff_happened (flag : State → Prop) {start : State} {actions : List Action} {event : Event}
    (initial : ¬ flag start)
    (raised : ∀ position action, actions[position]? = some action →
      (flag (step (stateAt step start actions position) action) ↔
        flag (stateAt step start actions position) ∨ brings (stateAt step start actions position) action event))
    (position : Nat) :
    flag (stateAt step start actions position) ↔ Happened step brings start actions position event := by
  induction position with
  | zero =>
      refine iff_of_false initial ?_
      rintro ⟨earlier, before, -⟩
      exact Nat.not_lt_zero earlier before
  | succ position ih =>
      rw [happened_succ_iff, ← ih]
      cases present : actions[position]? with
      | none =>
          rw [stateAt_succ_of_none step present]
          refine (or_iff_left ?_).symm
          rintro ⟨action, listed, -⟩
          cases listed
      | some action =>
          rw [stateAt_succ step present, raised position action present]
          refine or_congr_right ⟨fun brought => ⟨action, rfl, brought⟩, ?_⟩
          rintro ⟨other, same, brought⟩
          cases same
          exact brought

end Events

section Values
variable {State Action Agent Value : Type} (step : State → Action → State)
  (gives : State → Action → Agent → Value → Prop)

/-- An action before the position gives the agent the value, and no action between them gives it another one. -/
def Latest (start : State) (actions : List Action) (position : Nat) (agent : Agent) (value : Value) : Prop :=
  ∃ earlier < position, (∃ action, actions[earlier]? = some action ∧
      gives (stateAt step start actions earlier) action agent value) ∧
    ∀ later, earlier < later → later < position → ∀ action, actions[later]? = some action → ∀ other,
      ¬ gives (stateAt step start actions later) action agent other

variable {start : State} {actions : List Action} {position : Nat} {agent : Agent} {value other : Value}

theorem latest_of_gives {action : Action} (present : actions[position]? = some action)
    (given : gives (stateAt step start actions position) action agent value) :
    Latest step gives start actions (position + 1) agent value :=
  ⟨position, Nat.lt_succ_self position, ⟨action, present, given⟩,
    fun _ after before => absurd (Nat.le_of_lt_succ before) (Nat.not_le_of_lt after)⟩

/-- An action that gives the agent nothing leaves its latest value. -/
theorem latest_succ_iff
    (quiet : ∀ action, actions[position]? = some action → ∀ other,
      ¬ gives (stateAt step start actions position) action agent other) :
    Latest step gives start actions (position + 1) agent value ↔ Latest step gives start actions position agent value := by
  constructor
  · rintro ⟨earlier, before, ⟨action, present, given⟩, none⟩
    rcases Nat.lt_succ_iff_lt_or_eq.mp before with inside | rfl
    · exact ⟨earlier, inside, ⟨action, present, given⟩,
        fun later after bound => none later after (Nat.lt_succ_of_lt bound)⟩
    · exact absurd given (quiet action present value)
  · rintro ⟨earlier, before, given, none⟩
    refine ⟨earlier, Nat.lt_succ_of_lt before, given, ?_⟩
    intro later after before
    rcases Nat.lt_succ_iff_lt_or_eq.mp before with inside | rfl
    · exact none later after inside
    · exact quiet

/-- The latest value is unique when each action gives an agent at most one value. -/
theorem Latest.unique
    (functional : ∀ state action agent value other, gives state action agent value → gives state action agent other →
      value = other)
    (first : Latest step gives start actions position agent value)
    (second : Latest step gives start actions position agent other) : value = other := by
  obtain ⟨earlier, before, ⟨action, present, given⟩, none⟩ := first
  obtain ⟨later, bound, ⟨next, there, again⟩, nothing⟩ := second
  rcases Nat.lt_trichotomy earlier later with below | rfl | above
  · exact absurd again (none later below bound next there other)
  · rw [present] at there
    cases there
    exact functional _ action agent value other given again
  · exact absurd given (nothing earlier above before action present value)

/-- An invariant about the latest values holds at every position, if every action carries it to the values that it
updates. -/
theorem stateAt_latest (invariant : (Agent → Value → Prop) → State → Prop)
    (initial : invariant (fun _ _ => False) start)
    (carried : ∀ latest next state action, invariant latest state →
      (∀ agent value, gives state action agent value → next agent value) →
      (∀ agent, (∀ value, ¬ gives state action agent value) → ∀ value, next agent value ↔ latest agent value) →
      invariant next (step state action)) (position : Nat) :
    invariant (Latest step gives start actions position) (stateAt step start actions position) := by
  induction position with
  | zero =>
      have nothing : Latest step gives start actions 0 = fun _ _ => False := by
        funext agent value
        exact eq_false fun ⟨earlier, before, _⟩ => Nat.not_lt_zero earlier before
      rw [nothing]
      exact initial
  | succ position ih =>
      cases present : actions[position]? with
      | none =>
          have same : Latest step gives start actions (position + 1) = Latest step gives start actions position := by
            funext agent value
            apply propext
            apply latest_succ_iff
            intro action listed
            rw [present] at listed
            cases listed
          rw [same, stateAt_succ_of_none step present]
          exact ih
      | some action =>
          rw [stateAt_succ step present]
          apply carried _ _ _ action ih
          · exact fun agent value given => latest_of_gives step gives present given
          · intro agent quiet value
            apply latest_succ_iff
            intro listed same
            rw [present] at same
            cases same
            exact quiet

end Values

end Library
