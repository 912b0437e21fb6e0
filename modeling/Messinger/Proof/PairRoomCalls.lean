import Messinger.Proof.PairRooms
import Messinger.Proof.UnreadCounts

namespace Messinger
open Library SessionRepository ConversationMemberRepository ConversationRepository ConversationService
  GroupInvitationRepository MessageService StorageService

section Accounts
variable (platform : Platform) (env : Env) (store : Store)

theorem signup_keepsPairs (dto : SignUpDto) : KeepsPairs store (AuthService.signup platform env dto store).2 := by
  rcases signup_store platform env dto store with same | ⟨row, fresh, -, added⟩
  · rw [same]
    exact .refl store
  · rw [added]
    exact .addUser row fresh

theorem createAdmin_keepsPairs (dto : AdminDto) :
    KeepsPairs store (AuthService.createAdmin platform env dto store).2 := by
  rcases createAdmin_store platform env dto store with same | ⟨row, fresh, -, added⟩
  · rw [same]
    exact .refl store
  · rw [added]
    exact .addUser row fresh

variable {store} in
theorem AccountStep.keepsPairs {next : Store} (step : AccountStep store next) : KeepsPairs store next := by
  cases step with
  | reads => exact .refl store
  | updateUser userId change keeps => exact .updateUser userId change (fun user => (keeps user).1) store
  | createSession platform env params =>
      rcases createSession_cases platform env params store with failed | created
      · rw [failed]
        exact .refl store
      · rw [created]
        exact .of_tables rfl rfl rfl rfl (Nat.le_succ _)
  | updateSessions matching change keeps => exact .of_tables rfl rfl rfl rfl (Nat.le_refl _)
  | subscriptions pushSubscriptions nextId later => exact .of_tables rfl rfl rfl rfl later

theorem adminSeed_keepsPairs : KeepsPairs store (adminSeed platform env store).2 := by
  unfold adminSeed
  split
  · exact .refl store
  · split
    · next failed =>
        rw [saveUser_error failed]
        exact .refl store
    · next done =>
        rw [saveUser_ok done]
        exact .addUser _ rfl

theorem prepareUploads_keepsPairs (userId : Uuid) (files : List FileDto) :
    KeepsPairs store (prepareUploads env userId files store).2 := by
  obtain ⟨rows, supply, shape, later, -, -⟩ :=
    createUploads_shape env userId (addHours (jsDate env.now) 24) 0 files store
  rw [prepareUploads_store, shape]
  exact .of_tables rfl rfl rfl rfl later

end Accounts

section Groups
variable (env : Env) (store : Store)

/-- A change of a row that keeps its key keeps the pairs. -/
theorem KeepsPairs.updateMember (conversationId userId : Uuid) (change : ConversationMember → ConversationMember)
    (keeps : ∀ member, (change member).key = member.key) :
    KeepsPairs store (updateMember store conversationId userId change) :=
  .of_sameRooms (.updateMember store conversationId userId change keeps) rfl rfl (Nat.le_refl _)

theorem removedFrom_keepsPairs (now : Nat) (conversationId actorId targetUserId : Uuid)
    (eventType : ConversationEventType) :
    KeepsPairs store (removedFrom now conversationId actorId targetUserId eventType store) := by
  have marked := SameRooms.mark now conversationId targetUserId store
  exact .of_sameRooms ⟨marked.conversations, marked.members⟩ rfl rfl (Nat.le_succ _)

variable {env store} in
/-- Every step of a group keeps the pairs. -/
theorem GroupStep.keepsPairs {next : Store} {call : GroupCall} (step : GroupStep env store call next) :
    KeepsPairs store next := by
  cases step with
  | refused call => exact .refl store
  | creates ownerId dto owner keys => exact .grouped env.now owner dto
  | invites actorId dto conversation answered found type =>
      rcases findById_some found with ⟨stored, id⟩
      constructor
      · exact .refl _ _ _
      · exact .inl (.refl _)
      · exact fun _ inside => .inl inside
      · exact fun _ _ stored => stored
      · exact fun _ inside _ _ => inside
      · intro invitation inside
        rcases List.mem_append.mp inside with old | new
        · exact .inl ⟨invitation, old, rfl⟩
        · rw [List.mem_singleton.mp new]
          exact .inr ⟨conversation, stored, id, type⟩
      · exact Nat.le_succ _
  | acceptsLate conversationId userId | rejectsLate conversationId userId =>
      exact .setStatus .accepted conversationId userId store
  | restores conversationId userId => exact .updateMember store conversationId userId _ fun _ => rfl
  | joins conversationId userId invitation sent id missing present user keys => exact .joined env.now user sent id
  | rejects conversationId userId => exact .setStatus .rejected conversationId userId store
  | leaves userId conversationId => exact removedFrom_keepsPairs store env.now conversationId userId userId _
  | removes userId dto => exact removedFrom_keepsPairs store env.now dto.conversationId userId _ _
  | transfers prevOwner dto =>
      have demoted : SameRooms store (updateRole dto.conversationId prevOwner .member store) :=
        .updateMember store dto.conversationId prevOwner _ fun _ => rfl
      have promoted := demoted.trans (.updateMember _ dto.conversationId (parseUuid dto.newOwnerId)
        (fun member => { member with role := .owner }) fun _ => rfl)
      exact .of_sameRooms ⟨promoted.conversations, promoted.members⟩ rfl rfl (Nat.le_succ _)

theorem resetUnreadMessagesCount_keepsPairs (userId conversationId : Uuid) :
    KeepsPairs store (resetUnreadMessagesCount env userId conversationId store).2 := by
  refine transaction_keeps (.refl store) ?_
  intro value next done
  cases done
  exact .updateMember store conversationId userId _ fun _ => rfl

end Groups

section Messages
variable (platform : Platform) (env : Env) (store : Store)

theorem persisted_keepsPairs (now : Nat) (senderId conversationId : Uuid) (members : List ConversationMember)
    (ciphered : CipheredMessage) (uploads : List PendingUpload) :
    KeepsPairs store (persisted now senderId conversationId members ciphered uploads store) :=
  .of_sameRooms (.persisted now senderId conversationId members ciphered uploads store) rfl rfl
    (Nat.le_trans (Nat.le_add_right _ (1 + (recipients members senderId).length))
      (Nat.add_assoc _ _ _ ▸ persisted_later now senderId conversationId members ciphered uploads))

theorem createGroupMessage_keepsPairs (senderId : Uuid) (dto : GroupMessageDto) :
    KeepsPairs store (createGroupMessage platform env senderId dto store).2 := by
  rcases createGroupMessage_cases platform env senderId dto store with ⟨exception, failed⟩ |
    ⟨conversation, member, saved, uploads, -, -, -, -, -, -, done⟩
  · rw [failed]
    exact .refl store
  · rw [done]
    exact persisted_keepsPairs store env.now senderId dto.conversationId _ _ uploads

theorem confirmDelivery_keepsPairs (userId : Uuid) (dto : MessageDeliveryDto) :
    KeepsPairs store (confirmDelivery env userId dto store).2 := by
  obtain ⟨rows, same | counted⟩ := confirmDelivery_writes env userId dto store
  · rw [same]
    exact .of_tables rfl rfl rfl rfl (Nat.le_refl _)
  · rw [counted]
    have reset : KeepsPairs store (resetUnreadCount dto.conversationId userId store) :=
      .updateMember store dto.conversationId userId _ fun _ => rfl
    exact reset.withFiles _ _

theorem syncPendingMessages_keepsPairs (connected : Bool) (userId : Uuid) :
    KeepsPairs store (syncPendingMessages platform env connected userId store).2 := by
  obtain ⟨rows, same⟩ := syncPendingMessages_writes platform env connected userId store
  rw [same]
  exact .of_tables rfl rfl rfl rfl (Nat.le_refl _)

theorem deleteMessagesRequest_keepsPairs (dto : DeleteMessagesDto) :
    KeepsPairs store (Controllers.deleteMessages env dto store).2 := by
  rcases deleteMessages_shape env dto store with ⟨-, same⟩ | ⟨-, kept, shape, -⟩
  · rw [same]
    exact .refl store
  · rw [shape]
    exact (KeepsPairs.deleteMessages dto.names store).withFiles _ _

theorem deleteMessagesJob_keepsPairs : KeepsPairs store (deleteMessagesJob env store) := by
  rcases deleteMessagesJob_shape env store with ⟨kept, ⟨-, shape⟩ | ⟨-, shape⟩⟩
  · rw [shape]
    exact .of_tables rfl rfl rfl rfl (Nat.le_refl _)
  · rw [shape]
    exact (KeepsPairs.deleteMessages (tooOld env) store).withFiles _ _

theorem deleteGroup_keepsPairs (userId conversationId : Uuid) :
    KeepsPairs store (deleteGroup env userId conversationId store).2 := by
  rcases deleteGroup_cases env userId conversationId store with ⟨exception, failed⟩ |
    ⟨conversation, owner, -, -, -, -, done⟩
  · rw [failed]
    exact .refl store
  · rw [done]
    exact KeepsPairs.deleteConversations (fun id => id == conversationId) store

end Messages

end Messinger
