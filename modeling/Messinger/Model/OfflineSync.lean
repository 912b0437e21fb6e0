/-
This file models the offline synchronization of messages and the confirmation of deliveries, one await at
a time.
-/
import Messinger.Library.Tasks
import Messinger.Model.MessageService

namespace Messinger
open Library ConversationMemberRepository MessageDeliveryRepository MessageService

inductive DeliveryCall where
  | confirmDelivery (userId : Uuid) (dto : MessageDeliveryDto)
  | syncPendingMessages (userId : Uuid)

/-- Each task stands at one await of one of the calls. -/
inductive DeliveryTask where
  | resetUnreadCount (userId : Uuid) (dto : MessageDeliveryDto) (deliveryId : Uuid)
  | updateDeliveryStatus (dto : MessageDeliveryDto) (deliveryId : Uuid)
  | findMessages (userId : Uuid) (messageIds : List Uuid)
  | markDelivered (userId : Uuid) (messageIds : List Uuid)

/-- The resumed call reads the clock and, in the synchronization, whether the user has connections. -/
structure DeliveryAnswer where
  env : Env
  connected : Bool := true

namespace MessageDeliveryRepository

/-- The newest deliveries come first. -/
def findPending (store : Store) (userId : Uuid) : List MessageDelivery :=
  (store.deliveries.filter fun delivery => delivery.userId == userId && delivery.status == .sent).insertionSort
    fun first second => second.createdAt ≤ first.createdAt

/-- This is the change that a confirmation makes to a delivery. -/
def confirmed (now : Nat) (status : MessageStatus) (row : MessageDelivery) : MessageDelivery :=
  if status = .delivered then { row with status, deliveredAt := some (jsDate now) }
  else { row with status, readAt := some (jsDate now) }

/-- The update of the synchronization looks at the user and the messages, and not at the status. -/
def inSync (userId : Uuid) (messageIds : List Uuid) (delivery : MessageDelivery) : Bool :=
  delivery.userId == userId && messageIds.contains delivery.messageId

def markDelivered (userId : Uuid) (messageIds : List Uuid) (store : Store) : Store :=
  { store with
    deliveries := updateWhere (inSync userId messageIds) (fun row => { row with status := .delivered })
      store.deliveries }

end MessageDeliveryRepository

namespace OfflineSyncService

/-- The first read of each call is its first await. -/
def start (store : Store) (call : Env × DeliveryCall) : Store × Option DeliveryTask :=
  match call.2 with
  | .confirmDelivery userId dto =>
      (store, (findByMessageAndUser call.1.scan store dto.messageId userId).map fun delivery =>
        if dto.status = .read then .resetUnreadCount userId dto delivery.id
        else .updateDeliveryStatus dto delivery.id)
  | .syncPendingMessages userId =>
      let pendingDeliveries := findPending store userId
      (store, if pendingDeliveries = [] then none
        else some (.findMessages userId (pendingDeliveries.map (·.messageId))))

/-- The messages of the pending deliveries are read and deciphered. -/
def decipheredMessages (platform : Platform) (store : Store) (messageIds : List Uuid) :
    Except Exception (List CodeUnits) :=
  (store.messages.filter fun message => messageIds.contains message.id).mapM fun message =>
    decipherMessage platform message.cipheredContent message.iv message.authTag

/-- A failed await ends the call where it stands. -/
def resume (platform : Platform) (store : Store) (task : DeliveryTask) (answer : DeliveryAnswer) :
    Store × Option DeliveryTask :=
  match task with
  | .resetUnreadCount userId dto deliveryId =>
      if answer.env.succeeds 0 then
        (resetUnreadCount dto.conversationId userId store, some (.updateDeliveryStatus dto deliveryId))
      else (store, none)
  | .updateDeliveryStatus dto deliveryId =>
      if answer.env.succeeds 1 then
        (updateDeliveryStatus deliveryId (confirmed answer.env.now dto.status) store, none)
      else (store, none)
  | .findMessages userId messageIds =>
      match decipheredMessages platform store messageIds with
      | .error _ => (store, none)
      | .ok _ =>
          if answer.env.succeeds 0 && answer.connected then (store, some (.markDelivered userId messageIds))
          else (store, none)
  | .markDelivered userId messageIds =>
      if answer.env.succeeds 1 then (markDelivered userId messageIds store, none) else (store, none)

end OfflineSyncService

/-- Confirmations and synchronizations of all users run one await at a time. -/
def deliverySystem (platform : Platform) :
    Cooperative Store (Env × DeliveryCall) DeliveryTask DeliveryAnswer where
  start := OfflineSyncService.start
  resume := OfflineSyncService.resume platform

end Messinger
