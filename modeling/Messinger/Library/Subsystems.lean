import Mathlib.Data.List.InsertIdx
import Messinger.Library.Tasks

namespace Library

section Subsystems
variable {State Call HostCall Task HostTask Answer HostAnswer : Type}

def Turn.map (call : Call → HostCall) (answer : Answer → HostAnswer) : Turn Call Answer → Turn HostCall HostAnswer
  | .call made => .call (call made)
  | .resume position given => .resume position (answer given)

/-- The pending tasks of a part wait in the host. -/
def Progress.within (task : Task → HostTask) (progress : Progress State Task) : Progress State HostTask :=
  ⟨progress.state, progress.pending.map task⟩

/-- A host runs the calls and the tasks of a part as the part runs them. -/
structure Cooperative.Contains (host : Cooperative State HostCall HostTask HostAnswer)
    (part : Cooperative State Call Task Answer) (call : Call → HostCall) (task : Task → HostTask)
    (answer : HostAnswer → Answer) : Prop where
  start : ∀ state made, host.start state (call made) = (part.start state made).map id (Option.map task)
  resume : ∀ state pending given,
    host.resume state (task pending) given = (part.resume state pending (answer given)).map id (Option.map task)

theorem waiting_within (task : Task → HostTask) (pending : List Task) (outcome : State × Option Task) :
    waiting (pending.map task) (outcome.map id (Option.map task)) = (waiting pending outcome).within task := by
  obtain ⟨state, next⟩ := outcome
  cases next with
  | none => rw [waiting, waiting, Progress.within, List.map_append]; rfl
  | some waits => rw [waiting, waiting, Progress.within, List.map_append]; rfl

variable {host : Cooperative State HostCall HostTask HostAnswer} {part : Cooperative State Call Task Answer}
  {call : Call → HostCall} {task : Task → HostTask} {answer : HostAnswer → Answer}

/-- A turn of the part takes the host to where it takes the part. -/
theorem Cooperative.Contains.advance (contains : host.Contains part call task answer) (progress : Progress State Task)
    (turn : Turn Call HostAnswer) :
    host.advance (progress.within task) (turn.map call id) =
      (part.advance progress (turn.map id answer)).within task := by
  cases turn with
  | call made =>
      change waiting (progress.pending.map task) (host.start progress.state (call made)) = _
      rw [contains.start, waiting_within]
      rfl
  | resume position given =>
      cases present : progress.pending[position]? with
      | none =>
          have absent : (progress.within task).pending[position]? = none := by
            rw [Progress.within, List.getElem?_map, present, Option.map_none]
          change host.advance (progress.within task) (.resume position given) =
            (part.advance progress (.resume position (answer given))).within task
          rw [host.advance_resume_absent absent, part.advance_resume_absent present]
      | some pending =>
          have waits : (progress.within task).pending[position]? = some (task pending) := by
            rw [Progress.within, List.getElem?_map, present, Option.map_some]
          change host.advance (progress.within task) (.resume position given) =
            (part.advance progress (.resume position (answer given))).within task
          rw [host.advance_resume waits, part.advance_resume present, Progress.within, List.eraseIdx_map,
            contains.resume, waiting_within]

/-- A run of the part is a run of the host. -/
theorem Cooperative.Contains.foldl (contains : host.Contains part call task answer)
    (turns : List (Turn Call HostAnswer)) (progress : Progress State Task) :
    (turns.map (Turn.map call id)).foldl host.advance (progress.within task) =
      ((turns.map (Turn.map id answer)).foldl part.advance progress).within task := by
  induction turns generalizing progress with
  | nil => rfl
  | cons turn rest ih =>
      rw [List.map_cons, List.map_cons, List.foldl_cons, List.foldl_cons, contains.advance]
      exact ih (part.advance progress (turn.map id answer))

/-- A call of the part that returns with the given answers, and leaves nothing pending, does so in the host. -/
theorem Cooperative.Contains.returns (contains : host.Contains part call task answer) (made : Call)
    (given : List HostAnswer) {start state : State}
    (ends : (Turn.call made :: (given.map answer).map (Turn.resume 0)).foldl part.advance ⟨start, []⟩ =
      ⟨state, []⟩) :
    (Turn.call (call made) :: given.map (Turn.resume 0)).foldl host.advance ⟨start, []⟩ = ⟨state, []⟩ := by
  have runs := contains.foldl (.call made :: given.map (.resume 0)) ⟨start, []⟩
  rw [List.map_cons, List.map_cons, List.map_map, List.map_map] at runs
  rw [List.map_map] at ends
  exact runs.trans (congrArg (Progress.within task) ends)

end Subsystems

end Library
