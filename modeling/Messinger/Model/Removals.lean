/-
This file lists the operations that delete messages, with the files that each hands to `deleteFiles`.
-/
import Messinger.Model.Router

namespace Messinger
open ConversationService

/-- The first two operations delete messages by a cascade alone. -/
inductive Removal where
  | deleteGroup (userId conversationId : Uuid)
  | deletePrivateConversation (userId conversationId : Uuid)
  | deleteUser (dto : UserDto)
  | deleteMessages (dto : DeleteMessagesDto)
  | deleteMessagesJob

def runRemoval (env : Env) (store : Store) : Removal → Store
  | .deleteGroup userId conversationId => (deleteGroup env userId conversationId store).2
  | .deletePrivateConversation userId conversationId =>
      (deletePrivateConversation env userId conversationId store).2
  | .deleteUser dto => (AdminService.deleteUser env dto store).2
  | .deleteMessages dto => (Controllers.deleteMessages env dto store).2
  | .deleteMessagesJob => deleteMessagesJob env store

/-- These are the storage keys of the conversations that no other user is in. -/
def AdminService.filesOfUser (store : Store) (dto : UserDto) : List StorageKey :=
  storageKeysOf store (store.messages.filter fun message =>
    (conversationsToDelete store dto.userId).contains message.conversationId)

/-- These are the storage keys of the messages that the job deletes. -/
def filesToCleanup (env : Env) (store : Store) : List StorageKey :=
  AdminService.storageKeysOf store
    (MessageRepository.findMessagesToCleanup (jsDate env.now - maxMessageAge) store)

/-- The request hands over the files of the messages that its transaction has deleted. -/
def Controllers.filesOfMessages (env : Env) (dto : DeleteMessagesDto) (store : Store) : List StorageKey :=
  match (MessageService.deleteMessages env dto store).1 with
  | .ok (some messages) => AdminService.storageKeysOf store messages
  | _ => []

/-- This is the argument of `deleteFiles`, and it is empty where the operation never calls it. -/
def filesPassed (env : Env) (store : Store) : Removal → List StorageKey
  | .deleteGroup _ _ => []
  | .deletePrivateConversation _ _ => []
  | .deleteUser dto => AdminService.filesOfUser store dto
  | .deleteMessages dto => Controllers.filesOfMessages env dto store
  | .deleteMessagesJob => filesToCleanup env store

end Messinger
