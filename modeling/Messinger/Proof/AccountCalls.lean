import Messinger.Proof.Accounts
import Messinger.Proof.GroupSteps

namespace Messinger
open Library SessionRepository UserRepository ConversationService

section Services
variable (platform : Platform) (env : Env) (store : Store)

variable {env store} in
/-- Every step of a group leaves the accounts and the sessions. -/
theorem GroupStep.undisturbed {next : Store} {call : GroupCall} (step : GroupStep env store call next) :
    Undisturbed store next := by
  cases step with
  | refused call => exact .refl store
  | creates => exact .of_tables rfl rfl (Nat.le_add_right _ 2)
  | invites | joins | leaves | removes | transfers => exact .of_tables rfl rfl (Nat.le_succ _)
  | acceptsLate | restores | rejectsLate | rejects => exact .of_tables rfl rfl (Nat.le_refl _)

theorem deleteGroup_undisturbed (userId conversationId : Uuid) :
    Undisturbed store (deleteGroup env userId conversationId store).2 := by
  obtain ⟨exception, failed⟩ | ⟨conversation, owner, -, -, -, -, done⟩ :=
    deleteGroup_cases env userId conversationId store
  · rw [failed]
    exact .refl store
  · rw [done]
    exact .of_tables rfl rfl (Nat.le_refl _)

theorem deletePrivateConversation_undisturbed (userId conversationId : Uuid) :
    Undisturbed store (deletePrivateConversation env userId conversationId store).2 := by
  have step := deletionStep env userId conversationId store
  generalize (deletePrivateConversation env userId conversationId store).2 = next at step ⊢
  cases step with
  | refused => exact .refl store
  | hides | drops => exact .of_tables rfl rfl (Nat.le_refl _)

theorem resetUnreadMessagesCount_undisturbed (userId conversationId : Uuid) :
    Undisturbed store (resetUnreadMessagesCount env userId conversationId store).2 := by
  refine transaction_keeps (.refl store) ?_
  intro value next done
  cases done
  exact .of_tables rfl rfl (Nat.le_refl _)

theorem deleteFiles_undisturbed (env : Env) (storageKeys : List StorageKey) :
    Undisturbed store (StorageService.deleteFiles env storageKeys store).2 := by
  obtain ⟨kept, shape, -⟩ := StorageService.deleteFiles_shape env storageKeys store
  rw [shape]
  exact .of_tables rfl rfl (Nat.le_refl _)

theorem prepareUploads_undisturbed (userId : Uuid) (files : List FileDto) :
    Undisturbed store (StorageService.prepareUploads env userId files store).2 := by
  obtain ⟨rows, supply, shape, later, -, -⟩ :=
    StorageService.createUploads_shape env userId (addHours (jsDate env.now) 24) 0 files store
  rw [StorageService.prepareUploads_store, shape]
  exact .of_tables rfl rfl later

theorem deleteMessages_undisturbed (dto : DeleteMessagesDto) :
    Undisturbed store (Controllers.deleteMessages env dto store).2 := by
  have removed : Undisturbed store (MessageService.deleteMessages env dto store).2 := by
    refine transaction_keeps (.refl store) ?_
    intro value next done
    unfold MessageRepository.deleteMessages at done
    split at done
    · cases done
      exact .refl store
    · cases done
      exact .of_tables rfl rfl (Nat.le_refl _)
  unfold Controllers.deleteMessages answer
  split
  · next exception next equal =>
      rw [equal] at removed
      exact removed
  · next next equal =>
      rw [equal] at removed
      exact removed
  · next messages next equal =>
      rw [equal] at removed
      have emptied := deleteFiles_undisturbed next env
        (AdminService.storageKeysOf store messages)
      split
      · next exception last final =>
          rw [final] at emptied
          exact removed.trans emptied
      · next last final =>
          rw [final] at emptied
          exact removed.trans emptied

/-- Opening a session writes what creating its row writes. -/
theorem openSession_store (client : AuthService.ClientInfo) (user : User) :
    (AuthService.openSession platform env client user store).2 =
      (createSession platform env
        { userId := user.id, roles := [user.role], userAgent := client.userAgent
          ipAddress := client.ipAddress } store).2 := by
  unfold AuthService.openSession
  split <;> simp only [*]

theorem deleteUser_undisturbed (dto : UserDto) :
    Undisturbed store (AdminService.deleteUser env dto store).2 := by
  unfold AdminService.deleteUser
  simp only
  have emptied := deleteFiles_undisturbed store env
    (AdminService.storageKeysOf store (store.messages.filter fun message =>
      (AdminService.conversationsToDelete store dto.userId).contains message.conversationId))
  split
  · next exception next equal =>
      rw [equal] at emptied
      exact emptied
  · next next equal =>
      rw [equal] at emptied
      refine emptied.trans (transaction_keeps (.refl next) ?_)
      intro value last done
      cases done
      refine .trans ?_ (.deleteUsers _ _)
      exact .of_tables rfl rfl (Nat.le_refl _)

theorem deleteAdmin_undisturbed (dto : UserDto) :
    Undisturbed store (AdminService.deleteAdmin env dto store).2 := by
  refine transaction_keeps (.refl store) ?_
  intro value next done
  cases done
  exact .deleteUsers _ store

/-- A call of an account leaves the store, or it writes one user, its sessions or its subscriptions. -/
inductive AccountStep (store : Store) : Store → Prop where
  | reads : AccountStep store store
  | updateUser (userId : Uuid) (change : User → User)
      (keeps : ∀ user, (change user).id = user.id ∧ (change user).role = user.role) :
      AccountStep store (updateUser userId change store)
  | createSession (platform : Platform) (env : Env) (params : CreateSessionParams) :
      AccountStep store (createSession platform env params store).2
  | updateSessions (matching : Session → Bool) (change : Session → Session)
      (keeps : ∀ session, (change session).id = session.id ∧ (change session).rotation = session.rotation) :
      AccountStep store { store with sessions := updateWhere matching change store.sessions }
  | subscriptions (pushSubscriptions : List PushSubscription) (nextId : Uuid) (later : store.nextId ≤ nextId) :
      AccountStep store { store with pushSubscriptions, nextId }

theorem AccountStep.undisturbed {store next : Store} (step : AccountStep store next) : Undisturbed store next := by
  cases step with
  | reads => exact .refl store
  | updateUser userId change keeps => exact .updateUser userId change keeps store
  | createSession platform env params => exact .createSession platform env params store
  | updateSessions matching change keeps => exact .updateSessions matching change keeps store
  | subscriptions pushSubscriptions nextId later => exact .of_tables rfl rfl later

theorem openSession_accountStep (client : AuthService.ClientInfo) (user : User) :
    AccountStep store (AuthService.openSession platform env client user store).2 := by
  rw [openSession_store]
  exact .createSession platform env _

theorem signin_accountStep (client : AuthService.ClientInfo) (dto : SignInDto) :
    AccountStep store (AuthService.signin platform env client dto store).2 :=
  guarded_keeps .reads fun user => openSession_accountStep platform env store client user

theorem adminSignIn_accountStep (client : AuthService.ClientInfo) (dto : AdminDto) :
    AccountStep store (AuthService.adminSignIn platform env client dto store).2 :=
  guarded_keeps .reads fun admin => openSession_accountStep platform env store client admin

theorem logout_accountStep (request : Request) :
    AccountStep store (Controllers.logout platform env request store).2 := by
  unfold Controllers.logout
  split
  · exact .reads
  · exact .reads
  · next refreshToken read =>
      unfold AuthService.logout answer
      split
      · next exception next equal =>
          split at equal
          · cases equal
          · split at equal
            · cases equal
            · split at equal
              · cases equal
              · cases equal
                exact .reads
      · next value next equal =>
          split at equal
          · cases equal
            exact .reads
          · split at equal
            · cases equal
              exact .reads
            · split at equal
              · cases equal
                apply AccountStep.updateSessions
                intro session
                exact ⟨rfl, rfl⟩
              · cases equal

theorem restoreUserLoginKey_accountStep (dto : UserDto) :
    AccountStep store (AdminService.restoreUserLoginKey platform env dto store).2 := by
  unfold AdminService.restoreUserLoginKey
  simp only
  split
  · apply AccountStep.updateUser
    intro user
    exact ⟨rfl, rfl⟩
  · exact .reads

theorem updateAdminPassword_accountStep (userId : Uuid) (password : Text) :
    AccountStep store (AdminService.updateAdminPassword platform env userId password store).2 := by
  refine transaction_keeps .reads ?_
  intro value next done
  cases done
  apply AccountStep.updateUser
  intro user
  exact ⟨rfl, rfl⟩

theorem updateLastSeenAt_accountStep (userId : Uuid) :
    AccountStep store (UserService.updateLastSeenAt env userId store).2 := by
  unfold UserService.updateLastSeenAt
  split
  · apply AccountStep.updateUser
    intro user
    exact ⟨rfl, rfl⟩
  · exact .reads

theorem subscribeWeb_accountStep (userId : Uuid) (dto : WebPushSubscriptionDto) :
    AccountStep store (PushSubscriptionService.subscribeWeb env userId dto store).2 := by
  refine transaction_keeps .reads ?_
  intro value next done
  unfold PushSubscriptionService.subscribeWebBody at done
  split at done
  · cases done
    exact .subscriptions _ store.nextId (Nat.le_refl _)
  · split at done
    · cases done
      exact .subscriptions _ _ (Nat.le_succ _)
    · cases done

theorem unsubscribeWeb_accountStep (endpoint : Text) :
    AccountStep store (PushSubscriptionService.unsubscribeWeb env endpoint store).2 := by
  refine transaction_keeps .reads ?_
  intro value next done
  cases done
  exact .subscriptions _ store.nextId (Nat.le_refl _)

end Services

end Messinger
