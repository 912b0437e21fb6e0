/-
This file joins the node process with the calls of the HTTP requests, the jobs and the start of the server. All of them
write to one database, and the process and the calls take their turns in any order.
-/
import Messinger.Model.NodeProcess
import Messinger.Model.Service

namespace Messinger
open Library

structure Backend where
  process : NodeProcess := { live := ⟨{}, []⟩ }
  tasks : List ServiceTask := []

inductive BackendTurn where
  | process (turn : ProcessTurn)
  | service (turn : Turn (Env × ServiceCall) DeliveryAnswer)

/-- The process alone leaves open what else writes to its database. -/
def ProcessTurn.writesElsewhere : ProcessTurn → Bool
  | .live (.call (_, .database _)) => true
  | _ => false

namespace Backend

def store (backend : Backend) : Store := backend.process.live.state.store

/-- Here the calls of the service are what else writes. -/
def advance (platform : Platform) (jsonParse : CodeUnits → Option Json) (backend : Backend) : BackendTurn → Backend
  | .process turn =>
      if turn.writesElsewhere then backend
      else { backend with process := backend.process.advance platform jsonParse turn }
  | .service turn =>
      let progress := (serviceSystem platform).advance ⟨backend.store, backend.tasks⟩ turn
      { process := { backend.process with live := NodeProcess.withStore progress.state backend.process.live }
        tasks := progress.pending }

end Backend

/-- These are the tables after the first turns of a run that starts with an empty database and no connections. -/
def backendStore (platform : Platform) (jsonParse : CodeUnits → Option Json) (turns : List BackendTurn)
    (position : Nat) : Store :=
  (stateAt (Backend.advance platform jsonParse) {} turns position).store

end Messinger
