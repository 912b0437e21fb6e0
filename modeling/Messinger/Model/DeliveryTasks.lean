/-
This file models the messages, the confirmations and the synchronizations of all users together, one committed
step at a time.
-/
import Messinger.Model.MessageTasks
import Messinger.Model.OfflineSync

namespace Messinger
open Library

inductive MessagingCall where
  | sending (call : UploadCall)
  | receiving (call : DeliveryCall)

inductive MessagingTask where
  | sending (task : UploadTask)
  | receiving (task : DeliveryTask)

/-- The state keeps the messages and the users of all confirmations that carried READ. -/
structure MessagingState where
  store : Store
  confirmedRead : List (Uuid × Uuid) := []

/-- This is what a confirmation says about reading. -/
def DeliveryCall.confirmsRead : DeliveryCall → List (Uuid × Uuid)
  | .confirmDelivery userId dto => if dto.status = .read then [(dto.messageId, userId)] else []
  | .syncPendingMessages _ => []

/-- A message runs as in the upload system, and a confirmation or a synchronization as in the delivery system. -/
def messagingSystem (platform : Platform) :
    Cooperative MessagingState (Env × MessagingCall) MessagingTask DeliveryAnswer where
  start state call :=
    match call.2 with
    | .sending sent =>
        let outcome := UploadTask.start platform state.store (call.1, sent)
        ({ state with store := outcome.1 }, outcome.2.map .sending)
    | .receiving received =>
        let outcome := OfflineSyncService.start state.store (call.1, received)
        ({ store := outcome.1, confirmedRead := state.confirmedRead ++ received.confirmsRead },
          outcome.2.map .receiving)
  resume state task answer :=
    match task with
    | .sending sent =>
        let outcome := UploadTask.resume state.store sent answer.env
        ({ state with store := outcome.1 }, outcome.2.map .sending)
    | .receiving received =>
        let outcome := OfflineSyncService.resume platform state.store received answer
        ({ state with store := outcome.1 }, outcome.2.map .receiving)

end Messinger
