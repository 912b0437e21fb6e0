import Messinger.Model.ConversationCalls

namespace Messinger
open ConversationService MessageService

/-- These are the operations of a signed-in user on conversations and messages. -/
inductive UserCall where
  | conversation (call : ConversationCall)
  | createGroupMessage (senderId : Uuid) (dto : GroupMessageDto)
  | confirmDelivery (userId : Uuid) (dto : MessageDeliveryDto)
  | resetUnreadMessagesCount (userId conversationId : Uuid)

/-- The route passes the user of the session to the service. -/
def ConversationCall.caller : ConversationCall → Uuid
  | .createGroup ownerId _ => ownerId
  | .createPrivateMessage senderId _ => senderId
  | .validateGroupInvitation actorId _ => actorId
  | .acceptGroupInvitation _ userId => userId
  | .rejectGroupInvitation _ userId => userId
  | .leaveGroup userId _ => userId
  | .transferGroupOwnership prevOwner _ => prevOwner
  | .removeGroupMember userId _ => userId
  | .deleteGroup userId _ => userId
  | .deletePrivateConversation userId _ => userId

def UserCall.caller : UserCall → Uuid
  | .conversation call => call.caller
  | .createGroupMessage senderId _ => senderId
  | .confirmDelivery userId _ => userId
  | .resetUnreadMessagesCount userId _ => userId

def runUserCall (platform : Platform) (store : Store) (action : Env × UserCall) : Store :=
  let env := action.1
  match action.2 with
  | .conversation call => runCall platform store (env, call)
  | .createGroupMessage senderId dto => (createGroupMessage platform env senderId dto store).2
  | .confirmDelivery userId dto => (confirmDelivery env userId dto store).2
  | .resetUnreadMessagesCount userId conversationId =>
      (resetUnreadMessagesCount env userId conversationId store).2

end Messinger
