/-
This file models the services for users, admins and push subscriptions, with the cleanup job, the seed
and the synchronization of pending messages.
-/
import Messinger.Model.AuthService
import Messinger.Model.MessageService

namespace Messinger
open Library UserRepository ConversationMemberRepository

structure ListDto where
  cursor : Option Uuid := none
  limit : Nat

structure WebPushSubscriptionDto where
  endpoint : Text
  p256dh : Text
  auth : Text

structure Page (Row : Type) where
  page : List Row
  nextCursor : Option Row

/-- The next cursor is the last row of the page when more rows follow. -/
def paginate {Row : Type} (items : List Row) (limit : Nat) : Page Row :=
  let page := items.take limit
  { page, nextCursor := if limit < items.length then page.getLast? else none }

/-- The newest users of a role come first. -/
def UserRepository.getAllUsers (store : Store) (role : UserRole) (dto : ListDto) : List User :=
  let cursorUser := dto.cursor.bind (findById store)
  let rows := store.users.filter fun user => user.role == role &&
    cursorUser.all fun cursor => decide (user.createdAt < jsDate cursor.createdAt)
  (rows.insertionSort fun first second => second.createdAt ≤ first.createdAt).take (dto.limit + 1)

/-- The conversations of an active member come in descending order of their update and id. -/
def ConversationRepository.getConversationList (store : Store) (userId : Uuid) (dto : ListDto) :
    List Conversation :=
  let cursorConversation := dto.cursor.bind (findById store)
  let rows := store.conversations.filter fun conversation =>
    existsMember store conversation.id userId &&
      cursorConversation.all fun cursor =>
        decide (conversation.updatedAt < jsDate cursor.updatedAt) ||
          (conversation.updatedAt == jsDate cursor.updatedAt && decide (conversation.id < cursor.id))
  (rows.insertionSort fun first second => second.updatedAt < first.updatedAt ∨
    (first.updatedAt = second.updatedAt ∧ second.id ≤ first.id)).take (dto.limit + 1)

/-- This is what the client gets of each conversation when it starts. -/
structure ConversationSummary where
  conversation : Conversation
  messages : List MessageService.HistoryItem
  messagesCursor : Option Uuid
  lastMessage : Option MessageService.HistoryItem
  members : List (Option User × Nat)

def ConversationService.summarize (platform : Platform) (store : Store) (userId : Uuid)
    (conversation : Conversation) : Except Exception ConversationSummary := do
  let history ← MessageService.getConversationMessages platform store userId
    { conversationId := conversation.id, limit := 20 }
  return { conversation, messages := history.page, messagesCursor := history.nextCursor
           lastMessage := history.page.getLast?
           members := (store.members.filter fun member => member.conversationId == conversation.id).map
             fun member => (findById store member.userId, member.unreadCount) }

def ConversationService.getConversationBootstrap (platform : Platform) (store : Store) (userId : Uuid)
    (dto : ListDto) : Except Exception (List ConversationSummary × Option Conversation) := do
  let listed := paginate (ConversationRepository.getConversationList store userId dto) dto.limit
  let summaries ← listed.page.mapM (ConversationService.summarize platform store userId)
  return (summaries, listed.nextCursor)

namespace UserService

def getMe (store : Store) (userId : Uuid) : Except Exception User :=
  match findById store userId with
  | some user => .ok user
  | none => .error (.notFound "User not found")

def updateLastSeenAt (env : Env) (userId : Uuid) (store : Store) : Outcome Nat :=
  if env.succeeds 0 then
    (.ok (jsDate env.now),
      updateUser userId (fun user => { user with lastSeenAt := some (jsDate env.now) }) store)
  else (.error .failedCall, store)

def findUserByCode (store : Store) (userCode : Text) : Option User :=
  lookup User.userCode (some userCode) store.users

end UserService

namespace PushSubscriptionService

/-- A known endpoint keeps its user and gets the new keys. -/
def subscribeWebBody (now : Nat) (scan : Nat) (userId : Uuid) (dto : WebPushSubscriptionDto)
    (store : Store) : Except Exception (Unit × Store) :=
  match pickRow scan (store.pushSubscriptions.filter fun row => row.endpoint == dto.endpoint) with
  | some subscription =>
      .ok ((), { store with
        pushSubscriptions := updateWhere (fun row => row.id == subscription.id)
          (fun row => { row with p256dh := dto.p256dh, auth := dto.auth }) store.pushSubscriptions })
  | none =>
      if store.hasUser userId then
        .ok ((), { store with
          pushSubscriptions := store.pushSubscriptions ++
            [{ id := store.nextId, userId, endpoint := dto.endpoint, p256dh := dto.p256dh
               auth := dto.auth, createdAt := now }]
          nextId := store.nextId + 1 })
      else .error .failedCall

def subscribeWeb (env : Env) (userId : Uuid) (dto : WebPushSubscriptionDto) (store : Store) : Outcome Unit :=
  transaction (env.succeeds 0) store (subscribeWebBody env.now env.scan userId dto)

def unsubscribeWeb (env : Env) (endpoint : Text) (store : Store) : Outcome Unit :=
  transaction (env.succeeds 0) store fun current =>
    .ok ((), { current with
      pushSubscriptions := current.pushSubscriptions.filter fun row => row.endpoint != endpoint })

end PushSubscriptionService

namespace AdminService

def restoreUserLoginKey (platform : Platform) (env : Env) (dto : UserDto) (store : Store) : Outcome Text :=
  let loginKey := generateRandomString env.draw loginKeyLength
  let loginKeyLookup := generateLoginKeyLookup platform loginKey
  if env.succeeds 0 && !(store.hasUser dto.userId && store.users.any fun user =>
      user.id != dto.userId && user.loginKeyLookup == some loginKeyLookup) then
    (.ok loginKey, updateUser dto.userId
      (fun user => { user with
        loginKeyHash := some (platform.bcryptHash loginKey (env.draw loginKeyLength))
        loginKeyLookup := some loginKeyLookup }) store)
  else (.error .failedCall, store)

/-- Without the user these conversations have no member row. -/
def conversationsToDelete (store : Store) (userId : Uuid) : List Uuid :=
  (store.conversations.filter fun conversation =>
    (store.members.any fun member => member.userId == userId && member.conversationId == conversation.id) &&
      !(store.members.any fun member =>
        member.conversationId == conversation.id && member.userId != userId)).map Conversation.id

def storageKeysOf (store : Store) (messages : List Message) : List StorageKey :=
  messages.flatMap fun message => (store.attachmentsOf message.id).map MessageAttachment.storageKey

/-- The transaction does not restore the files that it has deleted from the bucket. -/
def deleteUser (env : Env) (dto : UserDto) (store : Store) : Outcome Unit :=
  let doomed := conversationsToDelete store dto.userId
  let messages := store.messages.filter fun message => doomed.contains message.conversationId
  match StorageService.deleteFiles env (storageKeysOf store messages) store with
  | (.error exception, emptied) => (.error exception, emptied)
  | (.ok (), emptied) =>
      transaction (env.succeeds 0) emptied fun current =>
        .ok ((), (current.deleteConversations fun id => doomed.contains id).deleteUsers
          fun user => user.id == dto.userId)

def deleteAdmin (env : Env) (dto : UserDto) (store : Store) : Outcome Unit :=
  transaction (env.succeeds 0) store fun current =>
    .ok ((), current.deleteUsers fun user => user.id == dto.userId && user.role == .admin)

def listUsers (store : Store) (dto : ListDto) : Page User :=
  paginate (getAllUsers store .user dto) dto.limit

def listAdmins (store : Store) (dto : ListDto) : Page User :=
  paginate (getAllUsers store .admin dto) dto.limit

def listUserConversations (store : Store) (userId : Uuid) (dto : ListDto) : Page Conversation :=
  paginate (ConversationRepository.getConversationList store userId dto) dto.limit

def updateAdminPassword (platform : Platform) (env : Env) (userId : Uuid) (password : Text)
    (store : Store) : Outcome Unit :=
  transaction (env.succeeds 0) store fun current =>
    .ok ((), updateUser userId
      (fun user => { user with passwordHash := some (platform.bcryptHash password (env.draw 0)) }) current)

end AdminService

/-- The seed looks for an ADMIN and inserts a SUPER_ADMIN. -/
def adminSeed (platform : Platform) (env : Env) (store : Store) : Outcome Unit :=
  if store.users.any fun user => user.role == .admin && user.adminName == some platform.adminName then
    (.ok (), store)
  else
    match saveUser env
        { id := store.nextId, adminName := some platform.adminName
          passwordHash := some (platform.bcryptHash platform.adminPassword (env.draw 0))
          role := .superAdmin, createdAt := env.now } store with
    | (.error exception, next) => (.error exception, next)
    | (.ok _, next) => (.ok (), next)

/-- The job keeps the messages of the last two days. -/
def maxMessageAge : Nat := 2 * 86400000000

/-- The job deletes the files first, and stops when that fails. -/
def deleteMessagesJob (env : Env) (store : Store) : Store :=
  let cutoff := jsDate env.now - maxMessageAge
  let messages := MessageRepository.findMessagesToCleanup cutoff store
  if messages = [] then store
  else
    match StorageService.deleteFiles env (AdminService.storageKeysOf store messages) store with
    | (.error _, emptied) => emptied
    | (.ok (), emptied) =>
        if env.succeeds 0 then MessageRepository.deleteMessagesOlderThan cutoff emptied else emptied

/-- A user without an open connection keeps its pending deliveries. -/
def syncPendingMessages (platform : Platform) (env : Env) (connected : Bool) (userId : Uuid)
    (store : Store) : Outcome Unit :=
  let pendingDeliveries := store.deliveries.filter fun delivery =>
    delivery.userId == userId && delivery.status == .sent
  let messageIds := pendingDeliveries.map MessageDelivery.messageId
  let messages := store.messages.filter fun message => messageIds.contains message.id
  guarded store (messages.mapM fun message =>
      MessageService.decipherMessage platform message.cipheredContent message.iv message.authTag) fun _ =>
    if pendingDeliveries = [] ∨ connected = false then (.ok (), store)
    else
      transaction (env.succeeds 0) store fun current =>
        .ok ((), { current with
          deliveries := updateWhere
            (fun delivery => delivery.userId == userId && messageIds.contains delivery.messageId)
            (fun delivery => { delivery with status := .delivered }) current.deliveries })

end Messinger
