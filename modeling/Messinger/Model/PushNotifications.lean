/-
This file models the calls on push subscriptions and the notification of a user, one settled await at a time.
-/
import Messinger.Library.Promises
import Messinger.Model.AdminService

namespace Messinger
open Library

inductive PushCall where
  | subscribeWeb (userId : Uuid) (dto : WebPushSubscriptionDto)
  | unsubscribeWeb (endpoint : Text)

def runPushCall (store : Store) (action : Env × PushCall) : Store :=
  match action.2 with
  | .subscribeWeb userId dto => (PushSubscriptionService.subscribeWeb action.1 userId dto store).2
  | .unsubscribeWeb endpoint => (PushSubscriptionService.unsubscribeWeb action.1 endpoint store).2

structure PushNotificationPayload where
  title : Option Text
  body : CodeUnits
  icon : String
  messageId : Uuid
  conversationId : Uuid

/-- This is `webPush.PushSubscription`. -/
structure WebSubscription where
  endpoint : Text
  p256dh : Text
  auth : Text
  deriving DecidableEq, Repr

/-- The push service takes the notification or answers an error, or the send fails in another way. -/
inductive PushOutcome where
  | sent
  | webPushError (statusCode : Nat)
  | failed
  deriving DecidableEq, Repr

/-- These errors say that the browser has dropped the subscription. -/
def PushOutcome.gone : PushOutcome → Bool
  | .webPushError statusCode => statusCode == 404 || statusCode == 410
  | _ => false

/-- Any other error is thrown again. -/
def PushOutcome.thrown : PushOutcome → Bool
  | .sent => false
  | outcome => !outcome.gone

/-- A send awaits the push service first and then, for a dropped subscription, the removal. -/
inductive SendStage where
  | sending
  | removing
  | returned
  | threw
  deriving DecidableEq, Repr

def SendStage.promise : SendStage → Promise
  | .sending => .pending
  | .removing => .pending
  | .returned => .fulfilled
  | .threw => .rejected

/-- The answer settles what the send awaits, which is the push service or the database. -/
structure PushAnswer where
  outcome : PushOutcome
  removes : Bool := true

/-- All sends of a notification are under way together. -/
structure FanOut where
  sends : List (PushSubscription × SendStage)
  attempts : List (WebSubscription × PushNotificationPayload)

namespace PushSubscriptionRepository

def findByUserId (store : Store) (userId : Uuid) : List PushSubscription :=
  store.pushSubscriptions.filter fun row => row.userId == userId

def deleteByEndpoint (endpoint : Text) (store : Store) : Store :=
  { store with pushSubscriptions := store.pushSubscriptions.filter fun row => row.endpoint != endpoint }

end PushSubscriptionRepository

def webSubscription (subscription : PushSubscription) : WebSubscription :=
  ⟨subscription.endpoint, subscription.p256dh, subscription.auth⟩

/-- The sends go on from one await to the next, and a finished send stays as it is. -/
def resumeSend (subscription : PushSubscription) (stage : SendStage) (answer : PushAnswer) (store : Store) :
    SendStage × Store :=
  match stage with
  | .sending =>
      if answer.outcome.gone then (.removing, store)
      else if answer.outcome.thrown then (.threw, store)
      else (.returned, store)
  | .removing =>
      if answer.removes then
        (.returned, PushSubscriptionRepository.deleteByEndpoint subscription.endpoint store)
      else (.threw, store)
  | .returned => (.returned, store)
  | .threw => (.threw, store)

namespace FanOut

/-- `map` starts every send, and each calls the push service before it yields. -/
def start (payload : PushNotificationPayload) (subscriptions : List PushSubscription) : FanOut where
  sends := subscriptions.map fun subscription => (subscription, .sending)
  attempts := subscriptions.map fun subscription => (webSubscription subscription, payload)

def settle (index : Nat) (answer : PushAnswer) (fan : FanOut) (store : Store) : FanOut × Store :=
  match fan.sends[index]? with
  | none => (fan, store)
  | some (subscription, stage) =>
      let resumed := resumeSend subscription stage answer store
      ({ fan with sends := fan.sends.set index (subscription, resumed.1) }, resumed.2)

/-- This is the promise that `sendToUser` awaits, and its own promise from then on. -/
def promise (fan : FanOut) : Promise := promiseAll (fan.sends.map fun send => send.2.promise)

/-- The awaits settle in the order of the schedule, each with the outcome of its send, and removals succeed. -/
def run (outcomes : Nat → PushOutcome) (schedule : List Nat) (fan : FanOut) (store : Store) : FanOut × Store :=
  schedule.foldl (fun state index => state.1.settle index { outcome := outcomes index } state.2) (fan, store)

end FanOut

end Messinger
