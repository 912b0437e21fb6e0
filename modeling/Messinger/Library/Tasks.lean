import Messinger.Library.Runs

namespace Library

/-- A call runs up to its first await, and a task runs from one await to the next. -/
structure Cooperative (State Call Task Answer : Type) where
  start : State → Call → State × Option Task
  resume : State → Task → Answer → State × Option Task

/-- The scheduler starts a call, or resumes a pending task with the answer that it awaits. -/
inductive Turn (Call Answer : Type) where
  | call (call : Call)
  | resume (position : Nat) (answer : Answer)
  deriving DecidableEq, Repr

section Cooperative
variable {State Call Task Answer : Type}

def Turn.isCall : Turn Call Answer → Bool
  | .call _ => true
  | .resume _ _ => false

/-- These are the calls among the first turns of a run. -/
def callsBefore (turns : List (Turn Call Answer)) (position : Nat) : Nat :=
  (turns.take position).countP Turn.isCall

theorem callsBefore_succ {turns : List (Turn Call Answer)} {position : Nat} {turn : Turn Call Answer}
    (present : turns[position]? = some turn) :
    callsBefore turns (position + 1) = callsBefore turns position + if turn.isCall then 1 else 0 := by
  rw [callsBefore, List.take_add_one, present, List.countP_append, Option.toList_some, List.countP_singleton]
  rfl

theorem callsBefore_succ_of_none {turns : List (Turn Call Answer)} {position : Nat}
    (absent : turns[position]? = none) : callsBefore turns (position + 1) = callsBefore turns position := by
  rw [callsBefore, List.take_add_one, absent, Option.toList_none, List.append_nil]
  rfl

/-- The task of an unfinished call waits behind the others. -/
def waiting (pending : List Task) (outcome : State × Option Task) : Progress State Task :=
  ⟨outcome.1, pending ++ outcome.2.toList⟩

def Cooperative.advance (system : Cooperative State Call Task Answer) (progress : Progress State Task) :
    Turn Call Answer → Progress State Task
  | .call call => waiting progress.pending (system.start progress.state call)
  | .resume position answer =>
      match progress.pending[position]? with
      | none => progress
      | some task =>
          waiting (progress.pending.eraseIdx position) (system.resume progress.state task answer)

@[simp] theorem Cooperative.advance_call_alone (system : Cooperative State Call Task Answer) (state : State)
    (call : Call) :
    system.advance ⟨state, []⟩ (.call call) = waiting [] (system.start state call) := rfl

@[simp] theorem Cooperative.advance_resume_alone (system : Cooperative State Call Task Answer) (state : State)
    (task : Task) (answer : Answer) :
    system.advance ⟨state, [task]⟩ (.resume 0 answer) = waiting [] (system.resume state task answer) := rfl

@[simp] theorem Cooperative.advance_resume_nothing (system : Cooperative State Call Task Answer) (state : State)
    (position : Nat) (answer : Answer) :
    system.advance ⟨state, []⟩ (.resume position answer) = ⟨state, []⟩ := rfl

@[simp] theorem waiting_none (state : State) : waiting ([] : List Task) (state, none) = ⟨state, []⟩ := rfl

@[simp] theorem waiting_some (state : State) (task : Task) : waiting [] (state, some task) = ⟨state, [task]⟩ := rfl

/-- Nothing happens while no task is pending. -/
theorem Cooperative.foldl_idle (system : Cooperative State Call Task Answer)
    (answer : Answer) (state : State) (count : Nat) :
    (List.replicate count (Turn.resume 0 answer)).foldl system.advance ⟨state, []⟩ = ⟨state, []⟩ := by
  induction count with
  | zero => rfl
  | succ count ih => exact ih

/-- A turn starts a call, resumes one of the pending tasks, or changes nothing. -/
theorem Cooperative.advance_cases (system : Cooperative State Call Task Answer)
    (progress : Progress State Task) (turn : Turn Call Answer) :
    (∃ call, turn = .call call ∧
        system.advance progress turn = waiting progress.pending (system.start progress.state call)) ∨
      (∃ position answer task, turn = .resume position answer ∧ progress.pending[position]? = some task ∧
        system.advance progress turn =
          waiting (progress.pending.eraseIdx position) (system.resume progress.state task answer)) ∨
      system.advance progress turn = progress := by
  cases turn with
  | call call => exact .inl ⟨call, rfl, rfl⟩
  | resume position answer =>
      cases present : progress.pending[position]? with
      | none => exact .inr (.inr (by rw [advance, present]))
      | some task => exact .inr (.inl ⟨position, answer, task, rfl, present, by rw [advance, present]⟩)

/-- What holds before a turn, and after the part of the call that the turn runs, holds after the turn. -/
theorem Cooperative.advance_keeps (system : Cooperative State Call Task Answer)
    (holds : Progress State Task → Prop) {progress : Progress State Task} {turn : Turn Call Answer}
    (before : holds progress)
    (started : ∀ call, turn = .call call → holds (waiting progress.pending (system.start progress.state call)))
    (resumed : ∀ position answer task, turn = .resume position answer → progress.pending[position]? = some task →
      holds (waiting (progress.pending.eraseIdx position) (system.resume progress.state task answer))) :
    holds (system.advance progress turn) := by
  obtain ⟨call, called, same⟩ | ⟨position, answer, task, called, present, same⟩ | same :=
    system.advance_cases progress turn
  · rw [same]
    exact started call called
  · rw [same]
    exact resumed position answer task called present
  · rw [same]
    exact before

theorem Cooperative.advance_call (system : Cooperative State Call Task Answer) (progress : Progress State Task)
    (call : Call) :
    system.advance progress (.call call) = waiting progress.pending (system.start progress.state call) := rfl

theorem Cooperative.advance_resume (system : Cooperative State Call Task Answer) {progress : Progress State Task}
    {position : Nat} {answer : Answer} {task : Task} (present : progress.pending[position]? = some task) :
    system.advance progress (.resume position answer) =
      waiting (progress.pending.eraseIdx position) (system.resume progress.state task answer) := by
  rw [advance, present]

theorem Cooperative.advance_resume_absent (system : Cooperative State Call Task Answer)
    {progress : Progress State Task} {position : Nat} {answer : Answer}
    (absent : progress.pending[position]? = none) :
    system.advance progress (.resume position answer) = progress := by
  rw [advance, absent]

/-- A flag that calls leave, and that only matching tasks and answers raise, is raised by the turns that resume such
a task. -/
theorem Cooperative.flag_advance_iff (system : Cooperative State Call Task Answer) (flag : State → Prop)
    (raises : Task → Answer → Prop) {progress : Progress State Task} {turn : Turn Call Answer}
    (started : ∀ call, flag (system.start progress.state call).1 ↔ flag progress.state)
    (resumed : ∀ task ∈ progress.pending, ∀ answer,
      flag (system.resume progress.state task answer).1 ↔ flag progress.state ∨ raises task answer) :
    flag (system.advance progress turn).state ↔ flag progress.state ∨
      ∃ position answer task, turn = .resume position answer ∧ progress.pending[position]? = some task ∧
        raises task answer := by
  cases turn with
  | call call =>
      rw [system.advance_call, waiting, started]
      refine (or_iff_left ?_).symm
      rintro ⟨position, answer, task, same, -⟩
      cases same
  | resume position answer =>
      cases present : progress.pending[position]? with
      | none =>
          rw [system.advance_resume_absent present]
          refine (or_iff_left ?_).symm
          rintro ⟨other, reply, task, same, waits, -⟩
          cases same
          cases present.symm.trans waits
      | some task =>
          rw [system.advance_resume present, waiting, resumed task (List.mem_of_getElem? present)]
          refine or_congr_right ⟨fun raised => ⟨position, answer, task, rfl, present, raised⟩, ?_⟩
          rintro ⟨other, reply, pending, same, waits, raised⟩
          cases same
          cases present.symm.trans waits
          exact raised

/-- Each call has returned or is waiting, if its first part and each later part return or wait. -/
theorem Cooperative.calls_counted (system : Cooperative State Call Task Answer) (returned : State → Nat)
    (started : ∀ state call, returned (system.start state call).1 + (system.start state call).2.toList.length =
      returned state + 1)
    (resumed : ∀ state task answer, returned (system.resume state task answer).1 +
      (system.resume state task answer).2.toList.length = returned state + 1)
    (start : State) (turns : List (Turn Call Answer)) (position : Nat) :
    returned (stateAt system.advance ⟨start, []⟩ turns position).state +
        (stateAt system.advance ⟨start, []⟩ turns position).pending.length =
      returned start + callsBefore turns position := by
  induction position with
  | zero => rfl
  | succ position ih =>
      cases present : turns[position]? with
      | none =>
          rw [stateAt_succ_of_none _ present, callsBefore_succ_of_none present]
          exact ih
      | some turn =>
          rw [stateAt_succ _ present, callsBefore_succ present, ← Nat.add_assoc, ← ih]
          generalize stateAt system.advance ⟨start, []⟩ turns position = progress
          cases turn with
          | call call =>
              have counted := started progress.state call
              rw [system.advance_call, waiting, List.length_append]
              simp only [Turn.isCall, if_true]
              omega
          | resume place answer =>
              have continued : (Turn.resume place answer : Turn Call Answer).isCall = false := rfl
              rw [continued, if_neg Bool.false_ne_true]
              cases waits : progress.pending[place]? with
              | none => rw [system.advance_resume_absent waits, Nat.add_zero]
              | some task =>
                  have counted := resumed progress.state task answer
                  have removed := List.length_eraseIdx_add_one (List.getElem?_eq_some_iff.mp waits).1
                  rw [system.advance_resume waits, waiting, List.length_append]
                  simp only
                  omega

theorem mem_waiting {pending : List Task} {outcome : State × Option Task} {task : Task} :
    task ∈ (waiting pending outcome).pending ↔ task ∈ pending ∨ outcome.2 = some task := by
  rw [waiting, List.mem_append, Option.mem_toList]

theorem mem_eraseIdx_of_ne {pending : List Task} {position : Nat} {task other : Task}
    (present : pending[position]? = some task) (different : other ≠ task) :
    other ∈ pending.eraseIdx position ↔ other ∈ pending := by
  constructor
  · exact List.mem_of_mem_eraseIdx
  · intro inside
    obtain ⟨place, found⟩ := List.mem_iff_getElem?.mp inside
    refine List.mem_eraseIdx_iff_getElem?.mpr ⟨place, ?_, found⟩
    rintro rfl
    rw [present] at found
    exact different (Option.some.inj found).symm

/-- A task that waits again is still pending. -/
theorem mem_waiting_again {pending : List Task} {position : Nat} {task other : Task} {state : State}
    (present : pending[position]? = some task) :
    other ∈ (waiting (pending.eraseIdx position) (state, some task)).pending ↔ other ∈ pending := by
  rw [mem_waiting]
  constructor
  · rintro (kept | again)
    · exact List.mem_of_mem_eraseIdx kept
    · cases again
      exact List.mem_of_getElem? present
  · intro inside
    by_cases same : other = task
    · exact .inr (congrArg some same.symm)
    · exact .inl ((mem_eraseIdx_of_ne present same).mpr inside)

/-- The condition holds of the task that the turn resumes. -/
def OnResume (condition : Progress State Task → Task → Answer → Prop) (progress : Progress State Task) :
    Turn Call Answer → Prop
  | .call _ => True
  | .resume position answer => ∀ task ∈ progress.pending[position]?, condition progress task answer

instance (condition : Progress State Task → Task → Answer → Prop)
    [decides : ∀ progress task answer, Decidable (condition progress task answer)]
    (progress : Progress State Task) : (turn : Turn Call Answer) → Decidable (OnResume condition progress turn)
  | .call _ => isTrue trivial
  | .resume position answer =>
      inferInstanceAs (Decidable (∀ task ∈ progress.pending[position]?, condition progress task answer))

/-- A property of the state that the parts of every turn keep holds at every position. -/
theorem Cooperative.invariant (system : Cooperative State Call Task Answer)
    {condition : Progress State Task → Turn Call Answer → Prop} {start : Progress State Task}
    {turns : List (Turn Call Answer)} (meets : Meets system.advance condition start turns)
    (invariant : State → Prop) (initial : invariant start.state)
    (started : ∀ progress call, invariant progress.state → condition progress (.call call) →
      invariant (system.start progress.state call).1)
    (resumed : ∀ progress position answer task, invariant progress.state →
      condition progress (.resume position answer) → progress.pending[position]? = some task →
      invariant (system.resume progress.state task answer).1)
    (position : Nat) : invariant (stateAt system.advance start turns position).state := by
  apply meets.invariant system.advance (fun progress => invariant progress.state) initial
  intro progress turn held met
  refine system.advance_keeps (fun progress => invariant progress.state) held ?_ ?_
  · rintro call rfl
    exact started progress call held met
  · rintro place answer task rfl present
    exact resumed progress place answer task held met present

end Cooperative

end Library
