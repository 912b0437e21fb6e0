/-
This file joins the live server with the promises that its handlers start and do not await: the notifications of
users without a connection, and the presence update after a last connection. Node ends the process when one of them
is rejected.
-/
import Messinger.Model.LiveServer
import Messinger.Model.PushNotifications

namespace Messinger
open Library MessageService

/-- `sendToUser` awaits the subscriptions first, and then all sends. -/
inductive NotificationStage where
  | finding
  | sending (fan : FanOut)
  | threw

structure Notification where
  userId : Uuid
  payload : PushNotificationPayload
  stage : NotificationStage := .finding

/-- The presence updates that have settled are listed, and nobody waits for them either. -/
structure NodeProcess where
  live : Library.Progress LiveServer LiveTask
  notifications : List Notification := []
  presences : List Promise := []

/-- The live server takes its turns, and each await of a notification settles in a turn of its own. -/
inductive ProcessTurn where
  | live (turn : Turn (Env × LiveEvent) Env)
  | found (notification : Nat) (env : Env)
  | settled (notification send : Nat) (answer : PushAnswer)

namespace Notification

/-- This is the promise that `void` drops. -/
def promise (notification : Notification) : Promise :=
  match notification.stage with
  | .finding => .pending
  | .sending fan => fan.promise
  | .threw => .rejected

/-- All sends start when the subscriptions are there. -/
def found (env : Env) (store : Store) (notification : Notification) : Notification :=
  match notification.stage with
  | .finding =>
      if env.succeeds 0 then
        { notification with
          stage := .sending (FanOut.start notification.payload
            (PushSubscriptionRepository.findByUserId store notification.userId)) }
      else { notification with stage := .threw }
  | .sending _ => notification
  | .threw => notification

def settled (send : Nat) (answer : PushAnswer) (store : Store) (notification : Notification) : Notification × Store :=
  match notification.stage with
  | .sending fan =>
      let resumed := fan.settle send answer store
      ({ notification with stage := .sending resumed.1 }, resumed.2)
  | .finding => (notification, store)
  | .threw => (notification, store)

end Notification

/-- The handler notifies the members without a connection, except for the sender. -/
def notificationsOf (server : WebSocketServer) (senderId : Uuid) (dto : PrivateMessageDto)
    (members : List ConversationMember) (saved : SavedMessage) : List Notification :=
  (members.filter fun member =>
      member.userId != senderId && (server.manager.getUserConnections member.userId).isEmpty).map fun member =>
    { userId := member.userId
      payload :=
        { title := saved.senderName, body := dto.content, icon := "/pwa-192x192.png", messageId := saved.id
          conversationId := saved.conversationId } }

namespace LiveTask

/-- Only the handler of private messages notifies. -/
def notifies (platform : Platform) (live : LiveServer) (env : Env) : LiveTask → List Notification
  | .dispatch _ (.sendPrivateMessage senderId dto) =>
      match (createPrivateMessage platform env senderId dto live.store).1 with
      | .ok (members, saved) => notificationsOf live.server senderId dto members saved
      | .error _ => []
  | _ => []

/-- The handler that takes a user offline has one await. -/
def presence (live : LiveServer) (env : Env) : LiveTask → List Promise
  | .updateLastSeenAt userId =>
      match (UserService.updateLastSeenAt env userId live.store).1 with
      | .ok _ => [.fulfilled]
      | .error _ => [.rejected]
  | _ => []

end LiveTask

namespace NodeProcess

def withStore (store : Store) (live : Library.Progress LiveServer LiveTask) : Library.Progress LiveServer LiveTask :=
  ⟨{ live.state with store }, live.pending⟩

/-- This is the task that a turn of the live server resumes, with its answer. -/
def resumed (process : NodeProcess) : Turn (Env × LiveEvent) Env → Option (LiveTask × Env)
  | .call _ => none
  | .resume position env => process.live.pending[position]?.map fun task => (task, env)

def advance (platform : Platform) (jsonParse : CodeUnits → Option Json) (process : NodeProcess) :
    ProcessTurn → NodeProcess
  | .live turn =>
      let task := (process.resumed turn).toList
      { live := (liveServer platform jsonParse).advance process.live turn
        notifications := process.notifications ++
          task.flatMap fun (task, env) => task.notifies platform process.live.state env
        presences := process.presences ++ task.flatMap fun (task, env) => task.presence process.live.state env }
  | .found index env =>
      match process.notifications[index]? with
      | none => process
      | some notification =>
          { process with
            notifications := process.notifications.set index (notification.found env process.live.state.store) }
  | .settled index send answer =>
      match process.notifications[index]? with
      | none => process
      | some notification =>
          let outcome := notification.settled send answer process.live.state.store
          { process with
            live := withStore outcome.2 process.live
            notifications := process.notifications.set index outcome.1 }

end NodeProcess

end Messinger
