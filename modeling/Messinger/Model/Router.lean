/-
This file models the routes of the first version of the API with their middlewares and controllers.
-/
import Messinger.Model.AdminService

namespace Messinger
open SessionRepository ConversationService

/-- The validator hands a controller the fields that its schema accepts, or none. -/
inductive Route where
  | signIn (dto : Option SignInDto)
  | mobileSignIn (dto : Option SignInDto)
  | signUp (role : Option Text) (username : Option Text)
  | logout
  | me
  | refresh
  | upload (files : Option (List FileDto))
  | download (attachmentId : Option Uuid)
  | userCode (userCode : Option Text)
  | conversationList (dto : Option ListDto)
  | leaveGroup (conversationId : Option Uuid)
  | messages (dto : Option GetConversationMessagesDto)
  | createGroup (dto : Option CreateGroupDto)
  | transferOwnership (dto : Option TransferOwnershipDto)
  | removeGroupMember (dto : Option RemoveMemberDto)
  | deleteGroup (conversationId : Option Uuid)
  | deletePrivate (conversationId : Option Uuid)
  | deleteMessages (dto : Option DeleteMessagesDto)
  | resetUnreadMessagesCount (conversationId : Option Uuid)
  | adminSignIn (adminName password : Option Text)
  | createAdmin (adminName password : Option Text)
  | restoreLoginKey (dto : Option UserDto)
  | deleteUser (dto : Option UserDto)
  | deleteAdmin (dto : Option UserDto)
  | listAdmins (dto : Option ListDto)
  | listUsers (dto : Option ListDto)
  | listUserConversations (userId : Uuid) (dto : Option ListDto)
  | listConversationMessages (userId : Uuid) (dto : Option GetConversationMessagesDto)
  | updatePassword (password : Option Text)
  | subscribeWeb (dto : Option WebPushSubscriptionDto)
  | unsubscribeWeb (endpoint : Option Text)

structure Request where
  cookies : Cookies := {}
  headers : Headers := {}
  remoteAddress : Option Text := none
  route : Route

inductive Middleware where
  | authenticate
  | authorize (allowed : List UserRole)
  | validateDTO
  deriving DecidableEq

/-- The routes of users and those of admins share these chains. -/
def userChain : List Middleware := [.authenticate, .authorize [.user], .validateDTO]

def adminChain : List Middleware := [.authenticate, .authorize [.superAdmin, .admin], .validateDTO]

/-- Each route lists its middlewares in the order in which they run. -/
def Route.chain : Route → List Middleware
  | .signIn _ => [.validateDTO]
  | .mobileSignIn _ => [.validateDTO]
  | .signUp _ _ => [.validateDTO]
  | .logout => [.authenticate]
  | .me => [.authenticate]
  | .refresh => [.authenticate]
  | .upload _ => userChain
  | .download _ => [.authenticate, .authorize [.user, .admin, .superAdmin], .validateDTO]
  | .userCode _ => userChain
  | .conversationList _ => userChain
  | .leaveGroup _ => [.authorize [.user], .authenticate, .validateDTO]
  | .messages _ => userChain
  | .createGroup _ => userChain
  | .transferOwnership _ => userChain
  | .removeGroupMember _ => userChain
  | .deleteGroup _ => userChain
  | .deletePrivate _ => userChain
  | .deleteMessages _ => userChain
  | .resetUnreadMessagesCount _ => userChain
  | .adminSignIn _ _ => [.validateDTO]
  | .createAdmin _ _ => adminChain
  | .restoreLoginKey _ => adminChain
  | .deleteUser _ => adminChain
  | .deleteAdmin _ => adminChain
  | .listAdmins _ => [.authenticate, .validateDTO, .authorize [.superAdmin, .admin]]
  | .listUsers _ => adminChain
  | .listUserConversations _ _ => adminChain
  | .listConversationMessages _ _ => adminChain
  | .updatePassword _ => adminChain
  | .subscribeWeb _ => userChain
  | .unsubscribeWeb _ => userChain

def adminDto (adminName password : Option Text) : Option AdminDto := do
  let adminName ← adminName
  let password ← password
  adminSchema adminName password

/-- The schema of the route accepts the fields of the request. -/
def Route.accepted : Route → Bool
  | .signIn dto => dto.isSome
  | .mobileSignIn dto => dto.isSome
  | .signUp role username => (username.bind (signUpSchema role)).isSome
  | .logout => true
  | .me => true
  | .refresh => true
  | .upload files => files.isSome
  | .download attachmentId => attachmentId.isSome
  | .userCode code => code.isSome
  | .conversationList dto => dto.isSome
  | .leaveGroup conversationId => conversationId.isSome
  | .messages dto => dto.isSome
  | .createGroup dto => dto.isSome
  | .transferOwnership dto => dto.isSome
  | .removeGroupMember dto => dto.isSome
  | .deleteGroup conversationId => conversationId.isSome
  | .deletePrivate conversationId => conversationId.isSome
  | .deleteMessages dto => dto.isSome
  | .resetUnreadMessagesCount conversationId => conversationId.isSome
  | .adminSignIn adminName password => (adminDto adminName password).isSome
  | .createAdmin adminName password => (adminDto adminName password).isSome
  | .restoreLoginKey dto => dto.isSome
  | .deleteUser dto => dto.isSome
  | .deleteAdmin dto => dto.isSome
  | .listAdmins dto => dto.isSome
  | .listUsers dto => dto.isSome
  | .listUserConversations _ dto => dto.isSome
  | .listConversationMessages _ dto => dto.isSome
  | .updatePassword password => (password.bind passwordSchema).isSome
  | .subscribeWeb dto => dto.isSome
  | .unsubscribeWeb endpoint => endpoint.isSome

/-- The bodies of the answers, without their fixed texts. -/
inductive Body where
  | empty
  | failure (exception : Exception)
  | attachmentNotFound
  | signedUp (username : Option Text) (loginKey : Text)
  | user (row : User)
  | userCode (row : User)
  | adminName (name : Option Text)
  | admin (id : Uuid) (adminName : Option Text) (createdAt : Nat)
  | loginKey (loginKey : Text)
  | uploads (presignedUrls : List StorageKey) (pendingUploads : List PendingUpload)
  | download (storageKey : StorageKey) (fileName contentType : Text)
  | history (page : MessageService.HistoryPage)
  | conversations (page : List ConversationSummary) (nextCursor : Option Conversation)
  | conversationRows (rows : Page Conversation)
  | group (id : Uuid) (name : Option String)
  | users (rows : Page User)

structure Reply where
  status : Nat
  body : Body := .empty
  cookies : CookieChange := .unchanged
  headers : Option Tokens := none

/-- The error handler answers an exception with its status. -/
def Reply.ofException (exception : Exception) : Reply :=
  { status := exception.httpCode, body := .failure exception }

/-- A controller answers the value of its service, or the error handler answers its exception. -/
def answer {A : Type} (outcome : Outcome A) (render : A → Reply) : Reply × Store :=
  match outcome with
  | (.error exception, next) => (Reply.ofException exception, next)
  | (.ok value, next) => (render value, next)

/-- A controller that only reads leaves the store. -/
def answerRead {A : Type} (store : Store) (result : Except Exception A) (render : A → Reply) :
    Reply × Store :=
  answer (result, store) render

/-- A controller that gets no validated fields is never reached. -/
def answerValid {A : Type} (store : Store) (dto : Option A) (respond : A → Reply × Store) : Reply × Store :=
  match dto with
  | none => (Reply.ofException (.validation "DTO validation error"), store)
  | some dto => respond dto

namespace Controllers

def signInReply (result : User × Tokens) : Reply :=
  { status := 201, body := .user result.1, cookies := .tokens result.2 }

def mobileSignInReply (result : User × Tokens) : Reply :=
  { status := 201, body := .user result.1, headers := some result.2 }

/-- The controller reads the cookie, or else a single header, whatever the middleware has used. -/
def logoutToken (cookies : Cookies) (headers : Headers) : Option CookieValue :=
  truthyCookie (cookies.refreshToken.or
    (match headers.xRefreshToken with
      | some (.one value) => some (.text value)
      | _ => none))

def logout (platform : Platform) (env : Env) (request : Request) (store : Store) : Reply × Store :=
  match logoutToken request.cookies request.headers with
  | none => ({ status := 204, cookies := .cleared }, store)
  | some .json => (Reply.ofException .typeError, store)
  | some (.text refreshToken) =>
      answer (AuthService.logout platform env refreshToken store) fun _ =>
        { status := 204, cookies := .cleared }

/-- The files are deleted after the messages, and an empty list of identifiers yields no messages. -/
def deleteMessages (env : Env) (dto : DeleteMessagesDto) (store : Store) : Reply × Store :=
  match MessageService.deleteMessages env dto store with
  | (.error exception, next) => (Reply.ofException exception, next)
  | (.ok none, next) => (Reply.ofException .typeError, next)
  | (.ok (some messages), next) =>
      answer (StorageService.deleteFiles env
        (AdminService.storageKeysOf store messages) next) fun _ => { status := 204 }

def downloadAttachment (env : Env) (attachmentId : Uuid) (store : Store) : Reply × Store :=
  match store.attachments.find? fun attachment => attachment.id == attachmentId with
  | none => ({ status := 404, body := .attachmentNotFound }, store)
  | some attachment =>
      if env.succeeds 0 then
        ({ status := 200
           body := .download attachment.storageKey attachment.fileName attachment.contentType }, store)
      else (Reply.ofException .failedCall, store)

end Controllers

open Controllers AuthService in
/-- The controllers run after their middlewares, so `userId` is that of the authenticated request. -/
def controller (platform : Platform) (env : Env) (request : Request) (userId : Uuid) (store : Store) :
    Reply × Store :=
  let client := getClientInfo request.headers request.remoteAddress
  match request.route with
  | .signIn dto => answerValid store dto fun dto =>
      answer (signin platform env client dto store) signInReply
  | .mobileSignIn dto => answerValid store dto fun dto =>
      answer (signin platform env client dto store) mobileSignInReply
  | .signUp role username => answerValid store (username.bind (signUpSchema role)) fun dto =>
      answer (signup platform env dto store) fun (user, loginKey) =>
        { status := 201, body := .signedUp user.username loginKey }
  | .logout => Controllers.logout platform env request store
  | .me => answerRead store (UserService.getMe store userId) fun user =>
      { status := 201, body := .user user }
  | .refresh => ({ status := 204 }, store)
  | .upload files => answerValid store files fun files =>
      answer (StorageService.prepareUploads env userId files store) fun (urls, uploads) =>
        { status := 201, body := .uploads urls uploads }
  | .download attachmentId => answerValid store attachmentId fun attachmentId =>
      downloadAttachment env attachmentId store
  | .userCode userCode => answerValid store userCode fun userCode =>
      match UserService.findUserByCode store userCode with
      | none => (Reply.ofException (.notFound "USER_NOT_FOUND"), store)
      | some user => ({ status := 200, body := .userCode user }, store)
  | .conversationList dto => answerValid store dto fun dto =>
      answerRead store (ConversationService.getConversationBootstrap platform store userId dto)
        fun (page, nextCursor) => { status := 200, body := .conversations page nextCursor }
  | .leaveGroup conversationId => answerValid store conversationId fun conversationId =>
      answer (ConversationService.leaveGroup env userId conversationId store) fun _ => { status := 204 }
  | .messages dto => answerValid store dto fun dto =>
      answerRead store (MessageService.getConversationMessages platform store userId dto) fun page =>
        { status := 200, body := .history page }
  | .createGroup dto => answerValid store dto fun dto =>
      answer (ConversationService.createGroup env userId dto store) fun group =>
        { status := 201, body := .group group.id group.name }
  | .transferOwnership dto => answerValid store dto fun dto =>
      answer (ConversationService.transferGroupOwnership env userId dto store) fun _ => { status := 204 }
  | .removeGroupMember dto => answerValid store dto fun dto =>
      answer (ConversationService.removeGroupMember env userId dto store) fun _ => { status := 204 }
  | .deleteGroup conversationId => answerValid store conversationId fun conversationId =>
      answer (ConversationService.deleteGroup env userId conversationId store) fun _ => { status := 204 }
  | .deletePrivate conversationId => answerValid store conversationId fun conversationId =>
      answer (ConversationService.deletePrivateConversation env userId conversationId store) fun _ =>
        { status := 204 }
  | .deleteMessages dto => answerValid store dto fun dto => Controllers.deleteMessages env dto store
  | .resetUnreadMessagesCount conversationId => answerValid store conversationId fun conversationId =>
      answer (ConversationService.resetUnreadMessagesCount env userId conversationId store) fun _ =>
        { status := 204 }
  | .adminSignIn adminName password =>
      answerValid store (adminDto adminName password) fun dto =>
        answer (AuthService.adminSignIn platform env client dto store) fun (admin, tokens) =>
          { status := 201, body := .adminName admin.adminName, cookies := .tokens tokens }
  | .createAdmin adminName password =>
      answerValid store (adminDto adminName password) fun dto =>
        answer (AuthService.createAdmin platform env dto store) fun admin =>
          { status := 201, body := .admin admin.id admin.adminName admin.createdAt }
  | .restoreLoginKey dto => answerValid store dto fun dto =>
      answer (AdminService.restoreUserLoginKey platform env dto store) fun loginKey =>
        { status := 201, body := .loginKey loginKey }
  | .deleteUser dto => answerValid store dto fun dto =>
      answer (AdminService.deleteUser env dto store) fun _ => { status := 204 }
  | .deleteAdmin dto => answerValid store dto fun dto =>
      answer (AdminService.deleteAdmin env dto store) fun _ => { status := 204 }
  | .listAdmins dto => answerValid store dto fun dto =>
      ({ status := 201, body := .users (AdminService.listAdmins store dto) }, store)
  | .listUsers dto => answerValid store dto fun dto =>
      ({ status := 201, body := .users (AdminService.listUsers store dto) }, store)
  | .listUserConversations listed dto => answerValid store dto fun dto =>
      ({ status := 201, body := .conversationRows (AdminService.listUserConversations store listed dto) },
        store)
  | .listConversationMessages listed dto => answerValid store dto fun dto =>
      answerRead store (MessageService.getConversationMessages platform store listed dto) fun page =>
        { status := 201, body := .history page }
  | .updatePassword password => answerValid store (password.bind passwordSchema) fun password =>
      answer (AdminService.updateAdminPassword platform env userId password store) fun _ => { status := 204 }
  | .subscribeWeb dto => answerValid store dto fun dto =>
      answer (PushSubscriptionService.subscribeWeb env userId dto store) fun _ => { status := 204 }
  | .unsubscribeWeb endpoint => answerValid store endpoint fun endpoint =>
      answer (PushSubscriptionService.unsubscribeWeb env endpoint store) fun _ => { status := 204 }

/-- This is what the middlewares have found and written so far. -/
structure Progress where
  locals : Option Locals := none
  cookies : CookieChange := .unchanged
  headers : Option Tokens := none
  store : Store

def runMiddleware (platform : Platform) (env : Env) (request : Request) (progress : Progress) :
    Middleware → Except Exception Unit × Progress
  | .authenticate =>
      let authentication :=
        authenticate platform env request.cookies request.headers progress.store
      let next : Progress :=
        { progress with
          cookies := authentication.cookies
          headers := authentication.headers
          store := authentication.store }
      match authentication.result with
      | .error exception => (.error exception, next)
      | .ok found => (.ok (), { next with locals := some found })
  | .authorize allowed => (authorize allowed (progress.locals.map Locals.roles), progress)
  | .validateDTO =>
      if request.route.accepted then (.ok (), progress)
      else (.error (.validation "DTO validation error"), progress)

/-- The first middleware that throws ends the chain. -/
def runChain (platform : Platform) (env : Env) (request : Request) :
    List Middleware → Progress → Except Exception Unit × Progress
  | [], progress => (.ok (), progress)
  | middleware :: rest, progress =>
      match runMiddleware platform env request progress middleware with
      | (.error exception, next) => (.error exception, next)
      | (.ok (), next) => runChain platform env request rest next

/-- What the middlewares wrote to the answer stays unless the controller writes it again. -/
def Progress.finish (progress : Progress) (reply : Reply) : Reply :=
  { reply with
    cookies := if reply.cookies = .unchanged then progress.cookies else reply.cookies
    headers := reply.headers.or progress.headers }

/-- The middlewares and the controller meet their own clocks and failures. -/
def handle (platform : Platform) (middlewareEnv env : Env) (request : Request) (store : Store) :
    Reply × Store :=
  match runChain platform middlewareEnv request request.route.chain { store } with
  | (.error exception, progress) => (progress.finish (Reply.ofException exception), progress.store)
  | (.ok (), progress) =>
      let outcome := controller platform env request ((progress.locals.map Locals.userId).getD 0)
        progress.store
      (progress.finish outcome.1, outcome.2)

end Messinger
