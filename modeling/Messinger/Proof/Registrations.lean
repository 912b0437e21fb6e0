import Messinger.Proof.AccountCalls
import Messinger.Proof.Authentications

namespace Messinger
open Library SessionRepository UserRepository ConversationService

@[simp] theorem answer_store {A : Type} (outcome : Outcome A) (render : A → Reply) :
    (answer outcome render).2 = outcome.2 := by
  obtain ⟨result, next⟩ := outcome
  cases result <;> rfl

@[simp] theorem answerRead_store {A : Type} (store : Store) (result : Except Exception A)
    (render : A → Reply) : (answerRead store result render).2 = store :=
  answer_store (result, store) render

/-- What holds after a service call holds after its answer. -/
theorem answer_keeps {A : Type} {outcome : Outcome A} {render : A → Reply} {holds : Store → Prop}
    (kept : holds outcome.2) : holds (answer outcome render).2 := by
  rw [answer_store]
  exact kept

theorem answerRead_keeps {A : Type} {store : Store} {result : Except Exception A} {render : A → Reply}
    {holds : Store → Prop} (kept : holds store) : holds (answerRead store result render).2 := by
  rw [answerRead_store]
  exact kept

/-- What holds before a request and after its controller holds after a refusal of the fields too. -/
theorem answerValid_keeps {A : Type} {store : Store} {dto : Option A} {respond : A → Reply × Store}
    {holds : Store → Prop} (before : holds store) (kept : ∀ value, holds (respond value).2) :
    holds (answerValid store dto respond).2 := by
  cases dto with
  | none => exact before
  | some value => exact kept value

/-- This is the store with one more user. -/
def Store.addUser (row : User) (store : Store) : Store :=
  { store with users := store.users ++ [row], nextId := store.nextId + 1 }

theorem saveUser_error {env : Env} {row : User} {store next : Store} {exception : Exception}
    (failed : saveUser env row store = (.error exception, next)) : next = store := by
  unfold saveUser at failed
  split at failed
  · cases failed
  · cases failed
    rfl

theorem saveUser_ok {env : Env} {row saved : User} {store next : Store}
    (done : saveUser env row store = (.ok saved, next)) : next = store.addUser row := by
  unfold saveUser at done
  split at done
  · cases done
    rfl
  · cases done

/-- The controller answers 422, or it runs on the fields that the schema accepts. -/
theorem answerValid_cases {A : Type} {store : Store} {dto : Option A} {respond : A → Reply × Store}
    {outcome : Reply × Store} (call : answerValid store dto respond = outcome) :
    outcome.2 = store ∨ ∃ value, dto = some value ∧ outcome = respond value := by
  rw [← call]
  cases dto with
  | none => exact .inl rfl
  | some value => exact .inr ⟨value, rfl, rfl⟩

theorem signup_store (platform : Platform) (env : Env) (dto : SignUpDto) (store : Store) :
    (AuthService.signup platform env dto store).2 = store ∨
      ∃ row, row.id = store.nextId ∧ row.role = dto.role ∧
        (AuthService.signup platform env dto store).2 = store.addUser row := by
  unfold AuthService.signup
  simp only
  split
  · next failed => exact .inl (saveUser_error failed)
  · next done => exact .inr ⟨_, rfl, rfl, saveUser_ok done⟩

theorem createAdmin_store (platform : Platform) (env : Env) (dto : AdminDto) (store : Store) :
    (AuthService.createAdmin platform env dto store).2 = store ∨
      ∃ row, row.id = store.nextId ∧ row.role = .admin ∧
        (AuthService.createAdmin platform env dto store).2 = store.addUser row := by
  unfold AuthService.createAdmin
  split
  · exact .inl rfl
  · generalize saving : saveUser env _ store = outcome
    obtain ⟨result, next⟩ := outcome
    cases result with
    | error exception => exact .inl (saveUser_error saving)
    | ok saved => exact .inr ⟨_, rfl, rfl, saveUser_ok saving⟩

/-- These routes insert users. -/
inductive Registers (request : Request) : UserRole → Prop where
  | signUp {role username : Option Text} {dto : SignUpDto} (route : request.route = .signUp role username)
      (accepted : username.bind (signUpSchema role) = some dto) : Registers request dto.role
  | createAdmin {adminName password : Option Text} (route : request.route = .createAdmin adminName password) :
      Registers request .admin

/-- A controller leaves the store, or it makes the one call of its route that writes. -/
inductive ControllerStep (platform : Platform) (env : Env) (request : Request) (userId : Uuid) (store : Store) :
    Store → Prop where
  | reads : ControllerStep platform env request userId store store
  | account {next : Store} (step : AccountStep store next) : ControllerStep platform env request userId store next
  | group {next : Store} {call : GroupCall} (step : GroupStep env store call next) :
      ControllerStep platform env request userId store next
  | signup {role username : Option Text} (dto : SignUpDto) (route : request.route = .signUp role username)
      (accepted : username.bind (signUpSchema role) = some dto) :
      ControllerStep platform env request userId store (AuthService.signup platform env dto store).2
  | createAdmin {adminName password : Option Text} (dto : AdminDto)
      (route : request.route = .createAdmin adminName password) :
      ControllerStep platform env request userId store (AuthService.createAdmin platform env dto store).2
  | upload (files : List FileDto) (route : request.route = .upload (some files)) :
      ControllerStep platform env request userId store (StorageService.prepareUploads env userId files store).2
  | resetUnreadMessagesCount (conversationId : Uuid) :
      ControllerStep platform env request userId store (resetUnreadMessagesCount env userId conversationId store).2
  | deleteGroup (conversationId : Uuid) (route : request.route = .deleteGroup (some conversationId)) :
      ControllerStep platform env request userId store (deleteGroup env userId conversationId store).2
  | deletePrivate (conversationId : Uuid) (route : request.route = .deletePrivate (some conversationId)) :
      ControllerStep platform env request userId store (deletePrivateConversation env userId conversationId store).2
  | deleteMessages (dto : DeleteMessagesDto) (route : request.route = .deleteMessages (some dto)) :
      ControllerStep platform env request userId store (Controllers.deleteMessages env dto store).2
  | deleteUser (dto : UserDto) (route : request.route = .deleteUser (some dto)) :
      ControllerStep platform env request userId store (AdminService.deleteUser env dto store).2
  | deleteAdmin (dto : UserDto) (route : request.route = .deleteAdmin (some dto)) :
      ControllerStep platform env request userId store (AdminService.deleteAdmin env dto store).2

theorem controllerStep (platform : Platform) (env : Env) (request : Request) (userId : Uuid) (store : Store) :
    ControllerStep platform env request userId store (controller platform env request userId store).2 := by
  unfold controller
  cases route : request.route with
  | signIn dto => exact answerValid_keeps .reads fun dto => answer_keeps (.account (signin_accountStep ..))
  | mobileSignIn dto => exact answerValid_keeps .reads fun dto => answer_keeps (.account (signin_accountStep ..))
  | signUp role username =>
      simp only
      generalize call : answerValid _ _ _ = outcome
      obtain refused | ⟨dto, accepted, respond⟩ := answerValid_cases call
      · rw [refused]
        exact .reads
      · rw [respond, answer_store]
        exact .signup dto route accepted
  | logout => exact .account (logout_accountStep ..)
  | me => exact answerRead_keeps .reads
  | refresh => exact .reads
  | upload files =>
      cases files with
      | none => exact .reads
      | some files => exact answer_keeps (.upload files route)
  | download attachmentId =>
      refine answerValid_keeps .reads fun attachmentId => ?_
      unfold Controllers.downloadAttachment
      split
      · exact .reads
      · split <;> exact .reads
  | userCode code =>
      refine answerValid_keeps .reads fun code => ?_
      split <;> exact .reads
  | conversationList dto => exact answerValid_keeps .reads fun dto => answerRead_keeps .reads
  | leaveGroup conversationId =>
      exact answerValid_keeps .reads fun conversationId =>
        answer_keeps (.group (groupStep env (.leaveGroup userId conversationId) store))
  | messages dto => exact answerValid_keeps .reads fun dto => answerRead_keeps .reads
  | createGroup dto =>
      exact answerValid_keeps .reads fun dto => answer_keeps (.group (groupStep env (.createGroup userId dto) store))
  | transferOwnership dto =>
      exact answerValid_keeps .reads fun dto =>
        answer_keeps (.group (groupStep env (.transferGroupOwnership userId dto) store))
  | removeGroupMember dto =>
      exact answerValid_keeps .reads fun dto =>
        answer_keeps (.group (groupStep env (.removeGroupMember userId dto) store))
  | deleteGroup conversationId =>
      cases conversationId with
      | none => exact .reads
      | some conversationId => exact answer_keeps (.deleteGroup conversationId route)
  | deletePrivate conversationId =>
      cases conversationId with
      | none => exact .reads
      | some conversationId => exact answer_keeps (.deletePrivate conversationId route)
  | deleteMessages dto =>
      cases dto with
      | none => exact .reads
      | some dto => exact .deleteMessages dto route
  | resetUnreadMessagesCount conversationId =>
      exact answerValid_keeps .reads fun conversationId => answer_keeps (.resetUnreadMessagesCount conversationId)
  | adminSignIn adminName password =>
      exact answerValid_keeps .reads fun dto => answer_keeps (.account (adminSignIn_accountStep ..))
  | createAdmin adminName password => exact answerValid_keeps .reads fun dto => answer_keeps (.createAdmin dto route)
  | restoreLoginKey dto =>
      exact answerValid_keeps .reads fun dto => answer_keeps (.account (restoreUserLoginKey_accountStep ..))
  | deleteUser dto =>
      cases dto with
      | none => exact .reads
      | some dto => exact answer_keeps (.deleteUser dto route)
  | deleteAdmin dto =>
      cases dto with
      | none => exact .reads
      | some dto => exact answer_keeps (.deleteAdmin dto route)
  | listAdmins dto => exact answerValid_keeps .reads fun dto => .reads
  | listUsers dto => exact answerValid_keeps .reads fun dto => .reads
  | listUserConversations listed dto => exact answerValid_keeps .reads fun dto => .reads
  | listConversationMessages listed dto => exact answerValid_keeps .reads fun dto => answerRead_keeps .reads
  | updatePassword password =>
      exact answerValid_keeps .reads fun password => answer_keeps (.account (updateAdminPassword_accountStep ..))
  | subscribeWeb dto => exact answerValid_keeps .reads fun dto => answer_keeps (.account (subscribeWeb_accountStep ..))
  | unsubscribeWeb endpoint =>
      exact answerValid_keeps .reads fun endpoint => answer_keeps (.account (unsubscribeWeb_accountStep ..))

/-- A controller leaves the accounts, or inserts one row with the role that its route gives. -/
theorem controller_accounts (platform : Platform) (env : Env) (request : Request) (userId : Uuid)
    (store : Store) :
    Undisturbed store (controller platform env request userId store).2 ∨
      ∃ row, row.id = store.nextId ∧ Registers request row.role ∧
        (controller platform env request userId store).2 = store.addUser row := by
  have step := controllerStep platform env request userId store
  generalize (controller platform env request userId store).2 = next at step ⊢
  cases step with
  | reads => exact .inl (.refl store)
  | account step => exact .inl step.undisturbed
  | group step => exact .inl step.undisturbed
  | signup dto route accepted =>
      rcases signup_store platform env dto store with same | ⟨row, fresh, role, added⟩
      · rw [same]
        exact .inl (.refl store)
      · exact .inr ⟨row, fresh, role ▸ .signUp route accepted, added⟩
  | createAdmin dto route =>
      rcases createAdmin_store platform env dto store with same | ⟨row, fresh, role, added⟩
      · rw [same]
        exact .inl (.refl store)
      · exact .inr ⟨row, fresh, role ▸ .createAdmin route, added⟩
  | upload files => exact .inl (prepareUploads_undisturbed ..)
  | resetUnreadMessagesCount conversationId => exact .inl (resetUnreadMessagesCount_undisturbed ..)
  | deleteGroup conversationId => exact .inl (deleteGroup_undisturbed ..)
  | deletePrivate conversationId => exact .inl (deletePrivateConversation_undisturbed ..)
  | deleteMessages dto => exact .inl (deleteMessages_undisturbed ..)
  | deleteUser dto => exact .inl (deleteUser_undisturbed ..)
  | deleteAdmin dto => exact .inl (deleteAdmin_undisturbed ..)

end Messinger
