/-
This file models the whole system: the requests of the API, the calls of the sockets, the objects
that clients put into the bucket, the cleanup job and the seed.
-/
import Messinger.Model.ConversationCalls
import Messinger.Model.Exchanges

namespace Messinger
open ConversationService MessageService

/-- The actions run one after the other, and each meets its own environment. -/
inductive Action where
  | request (exchange : Exchange)
  | createPrivateMessage (senderId : Uuid) (dto : PrivateMessageDto)
  | createGroupMessage (senderId : Uuid) (dto : GroupMessageDto)
  | validateGroupInvitation (actorId : Uuid) (dto : InviteGroupMemberDto)
  | acceptGroupInvitation (conversationId userId : Uuid)
  | rejectGroupInvitation (conversationId userId : Uuid)
  | confirmDelivery (userId : Uuid) (dto : MessageDeliveryDto)
  | updateLastSeenAt (userId : Uuid)
  | syncPendingMessages (connected : Bool) (userId : Uuid)
  | removeInvalidSubscription (endpoint : Text)
  | putObject (storageKey : StorageKey)
  | deleteMessagesJob
  | adminSeed

def act (platform : Platform) (store : Store) (action : Env × Action) : Store :=
  let env := action.1
  match action.2 with
  | .request exchange => serve platform store exchange
  | .createPrivateMessage senderId dto => (createPrivateMessage platform env senderId dto store).2
  | .createGroupMessage senderId dto => (createGroupMessage platform env senderId dto store).2
  | .validateGroupInvitation actorId dto => (validateGroupInvitation env actorId dto store).2
  | .acceptGroupInvitation conversationId userId => (acceptGroupInvitation env conversationId userId store).2
  | .rejectGroupInvitation conversationId userId => (rejectGroupInvitation env conversationId userId store).2
  | .confirmDelivery userId dto => (confirmDelivery env userId dto store).2
  | .updateLastSeenAt userId => (UserService.updateLastSeenAt env userId store).2
  | .syncPendingMessages connected userId => (syncPendingMessages platform env connected userId store).2
  | .removeInvalidSubscription endpoint => (PushSubscriptionService.unsubscribeWeb env endpoint store).2
  | .putObject storageKey => { store with bucket := store.bucket ++ [storageKey] }
  | .deleteMessagesJob => deleteMessagesJob env store
  | .adminSeed => (adminSeed platform env store).2

/-- The database and the bucket start empty. -/
def Reachable (platform : Platform) (store : Store) : Prop :=
  ∃ actions : List (Env × Action), store = actions.foldl (act platform) {}

end Messinger
