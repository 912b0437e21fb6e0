import Messinger.Model.Router
import Messinger.Model.UserCalls

namespace Messinger

/-- Users call the services, and a request or the cleanup job deletes messages. -/
inductive RetentionCall where
  | user (call : UserCall)
  | deleteMessages (dto : DeleteMessagesDto)
  | deleteMessagesJob

def runRetentionCall (platform : Platform) (store : Store) (action : Env × RetentionCall) : Store :=
  match action.2 with
  | .user call => runUserCall platform store (action.1, call)
  | .deleteMessages dto => (Controllers.deleteMessages action.1 dto store).2
  | .deleteMessagesJob => deleteMessagesJob action.1 store

end Messinger
