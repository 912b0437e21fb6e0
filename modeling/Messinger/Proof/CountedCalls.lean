import Messinger.Model.OfflineSync
import Messinger.Proof.CounterWrites

namespace Messinger
open Library ConversationMemberRepository ConversationRepository ConversationService MessageService
  MessageDeliveryRepository StorageService

/-- A call writes other columns, or it drops a conversation or sends a message after such a write. -/
inductive CountWrite (store : Store) : Store → Prop
  | same {next : Store} (kept : SameCounts store next) : CountWrite store next
  | drops {between : Store} (kept : SameCounts store between) (deleted : Uuid) :
      CountWrite store (deleteConversation deleted between)
  | sends {between : Store} (kept : SameCounts store between) {members : List ConversationMember} {senderId : Uuid}
      (distinct : (recipients members senderId).Nodup) (now : Nat) (sentTo : Uuid) (ciphered : CipheredMessage)
      (uploads : List PendingUpload) :
      CountWrite store (persisted now senderId sentTo members ciphered uploads between)

namespace CountWrite
variable {store next : Store}

theorem follow (write : CountWrite store next) (known : MessagesKnown store) (delivered : DeliveriesKnown store) :
    CountsFollow store next := by
  cases write with
  | same kept => exact kept.follow
  | drops kept deleted => exact .drop kept (kept.messagesKnown known) deleted
  | sends kept distinct now sentTo ciphered uploads =>
      exact .send kept (kept.messagesKnown known) (kept.deliveriesKnown delivered) distinct now sentTo ciphered uploads

theorem messagesKnown (write : CountWrite store next) (known : MessagesKnown store) : MessagesKnown next := by
  cases write with
  | same kept => exact kept.messagesKnown known
  | drops kept deleted => exact (kept.messagesKnown known).filter rfl (Nat.le_refl _)
  | sends kept distinct now sentTo ciphered uploads =>
      apply (kept.messagesKnown known).append (persisted_messages _ _ _ _ _ _) rfl
      exact Nat.lt_of_lt_of_le (Nat.lt_of_lt_of_le (Nat.lt_succ_self _) (Nat.le_add_right _ _))
        (persisted_later _ _ _ _ _ _)

theorem deliveriesKnown (write : CountWrite store next) (delivered : DeliveriesKnown store) :
    DeliveriesKnown next := by
  cases write with
  | same kept => exact kept.deliveriesKnown delivered
  | drops kept deleted => exact (kept.deliveriesKnown delivered).filter rfl (Nat.le_refl _)
  | sends kept distinct now sentTo ciphered uploads =>
      exact (kept.deliveriesKnown delivered).append distinct (persisted_deliveries _ _ _ _ _ _)
        (persisted_later _ _ _ _ _ _)

end CountWrite

section Recipients
variable {store : Store} (keys : (store.members.map ConversationMember.key).Nodup)
include keys

/-- The members of one conversation are distinct users. -/
theorem userIds_nodup {members : List ConversationMember} {conversationId : Uuid}
    (listed : members.Sublist store.members) (place : ∀ member ∈ members, member.conversationId = conversationId) :
    (members.map ConversationMember.userId).Nodup := by
  have distinct : (members.map ConversationMember.key).Nodup := keys.sublist (listed.map _)
  have pairs : members.map ConversationMember.key =
      (members.map ConversationMember.userId).map fun userId => (conversationId, userId) := by
    rw [List.map_map]
    apply List.map_congr_left
    intro member inside
    rw [Function.comp_apply, ← place member inside]
    rfl
  rw [pairs] at distinct
  exact distinct.of_map

theorem recipients_nodup {members : List ConversationMember} {conversationId : Uuid}
    (listed : members.Sublist store.members) (place : ∀ member ∈ members, member.conversationId = conversationId)
    (senderId : Uuid) : (recipients members senderId).Nodup := by
  apply userIds_nodup keys (List.filter_sublist.trans listed)
  exact fun member inside => place member (List.mem_filter.mp inside).1

theorem getMembers_nodup (conversationId senderId : Uuid) :
    (recipients (getMembers store conversationId) senderId).Nodup := by
  apply recipients_nodup keys List.filter_sublist
  intro member inside
  have selected := (List.mem_filter.mp inside).2
  simp only [Bool.and_eq_true, beq_iff_eq] at selected
  exact selected.1

theorem getConversationMembers_nodup (conversationId senderId : Uuid) :
    (recipients (getConversationMembers store conversationId) senderId).Nodup := by
  unfold getConversationMembers
  split
  · exact List.nodup_nil
  · apply recipients_nodup keys List.filter_sublist
    intro member inside
    exact beq_iff_eq.mp (List.mem_filter.mp inside).2

end Recipients

section Kept
variable {store next : Store}

/-- A write outside these tables counts nothing. -/
theorem SameCounts.of_members (members : next.members = store.members) (messages : next.messages = store.messages)
    (deliveries : next.deliveries = store.deliveries) (later : store.nextId ≤ next.nextId) : SameCounts store next :=
  ⟨counterOf_congr members, messages, deliveries, later⟩

/-- New rows count nothing. -/
theorem SameCounts.of_append {rows : List ConversationMember} (members : next.members = store.members ++ rows)
    (empty : ∀ row ∈ rows, row.unreadCount = 0) (messages : next.messages = store.messages)
    (deliveries : next.deliveries = store.deliveries) (later : store.nextId ≤ next.nextId) : SameCounts store next :=
  ⟨counterOf_append members empty, messages, deliveries, later⟩

/-- A change of role or soft deletion counts nothing. -/
theorem SameCounts.of_update (conversationId userId : Uuid) (change : ConversationMember → ConversationMember)
    (keeps : ∀ member, (change member).key = member.key)
    (counts : ∀ member, (change member).unreadCount = member.unreadCount) :
    SameCounts store (updateMember store conversationId userId change) :=
  ⟨counterOf_updateMember conversationId userId change keeps counts, rfl, rfl, Nat.le_refl _⟩

theorem SameCounts.mark (now : Nat) (conversationId userId : Uuid) :
    SameCounts store (markConversationAsDeleted now conversationId userId store) :=
  .of_update conversationId userId _ (fun _ => rfl) fun _ => rfl

theorem SameCounts.restore (now : Nat) (conversationId userId : Uuid) :
    SameCounts store (restoreConversation now conversationId userId store) :=
  .of_update conversationId userId _ (fun _ => rfl) fun _ => rfl

theorem SameCounts.restoreIfDeleted (now : Nat) (member : Option ConversationMember) (conversationId userId : Uuid) :
    SameCounts store (restoreIfDeleted now member conversationId userId store) := by
  unfold MessageService.restoreIfDeleted
  split
  · exact .restore now conversationId userId
  · exact .refl store

theorem SameCounts.restored (now : Nat) (senderId receiverId conversationId : Uuid) :
    SameCounts store (restored now senderId receiverId conversationId store) :=
  (SameCounts.restoreIfDeleted now _ conversationId senderId).trans (.restoreIfDeleted now _ conversationId receiverId)

theorem SameCounts.logEvent (event : ConversationEvent) : SameCounts store (store.logEvent event) :=
  .of_members rfl rfl rfl (Nat.le_succ _)

theorem SameCounts.removedFrom (now : Nat) (conversationId actorId targetUserId : Uuid)
    (eventType : ConversationEventType) :
    SameCounts store (removedFrom now conversationId actorId targetUserId eventType store) :=
  (SameCounts.mark now conversationId targetUserId).trans (.logEvent _)

theorem SameCounts.transferred (now : Nat) (prevOwner newOwner conversationId : Uuid) :
    SameCounts store (transferred now prevOwner newOwner conversationId store) := by
  have demoted : SameCounts store (updateRole conversationId prevOwner .member store) :=
    .of_update conversationId prevOwner _ (fun _ => rfl) fun _ => rfl
  have promoted : SameCounts (updateRole conversationId prevOwner .member store)
      (updateRole conversationId newOwner .owner (updateRole conversationId prevOwner .member store)) :=
    .of_update conversationId newOwner _ (fun _ => rfl) fun _ => rfl
  exact (demoted.trans promoted).trans (.logEvent _)

/-- A conversation is found, or it opens with rows that count nothing. -/
theorem SameCounts.getOrCreate {platform : Platform} {env : Env} {params : CreateConversationParams}
    (isPrivate : params.type = .privateType) {conversation : Conversation} {between : Store}
    (opening : getOrCreatePrivateConversation platform env params store = (.ok conversation, between)) :
    SameCounts store between := by
  obtain ⟨exception, failed⟩ | ⟨privateKey, found, written, -, equal, ⟨same, -⟩ | ⟨-, -, final, -⟩⟩ :=
    getOrCreatePrivateConversation_cases platform env params isPrivate store
  · rw [opening] at failed
    cases failed
  · rw [opening] at equal
    cases equal
    rw [same]
    exact .refl store
  · rw [opening] at equal
    cases equal
    subst final
    have empty : ∀ row ∈ newMembers env.now params (normalizeMembers params.creatorId params.members) store.nextId,
        row.unreadCount = 0 := by
      intro row inside
      obtain ⟨userId, -, rfl⟩ := List.mem_map.mp inside
      rfl
    exact .of_append rfl empty rfl rfl (Nat.le_succ _)

end Kept

section Calls
variable {store : Store} {rule : Library.Roster Uuid → Prop}

theorem createPrivateMessage_countWrite (governed : Governed rule store) (platform : Platform) (env : Env)
    (senderId : Uuid) (dto : PrivateMessageDto) :
    CountWrite store (createPrivateMessage platform env senderId dto store).2 := by
  obtain ⟨exception, failed⟩ | ⟨conversation, between, opening, ⟨exception, failed⟩ |
    ⟨saved, next, done, -, -, uploads, -, final⟩⟩ := createPrivateMessage_cases platform env senderId dto store
  · rw [failed]
    exact .same (.refl store)
  · rw [failed]
    exact .same (.getOrCreate rfl opening)
  · rw [done, final]
    have opened := governed.getOrCreate platform env (privateMessageParams senderId dto) rfl
    rw [opening] at opened
    have counts := (SameCounts.getOrCreate rfl opening).trans
      (.restored env.now senderId (parseUuid dto.receiverId) conversation.id)
    exact .sends counts
      (getConversationMembers_nodup opened.memberKeys conversation.id senderId) _ _ _ _

theorem createGroupMessage_countWrite (governed : Governed rule store) (platform : Platform) (env : Env)
    (senderId : Uuid) (dto : GroupMessageDto) :
    CountWrite store (createGroupMessage platform env senderId dto store).2 := by
  obtain ⟨exception, failed⟩ | ⟨conversation, member, saved, uploads, -, -, -, -, -, -, equal⟩ :=
    createGroupMessage_cases platform env senderId dto store
  · rw [failed]
    exact .same (.refl store)
  · rw [equal]
    exact .sends (.refl store) (getMembers_nodup governed.memberKeys dto.conversationId senderId) _ _ _ _

/-- Every step of a group keeps the counters and the deliveries. -/
theorem GroupStep.countWrite {env : Env} {call : GroupCall} {next : Store} (step : GroupStep env store call next) :
    CountWrite store next := by
  have empty (params : CreateConversationMemberParams) : ∀ row ∈ [newRow env.now params], row.unreadCount = 0 := by
    intro row inside
    rw [List.mem_singleton.mp inside]
    rfl
  cases step with
  | refused call => exact .same (.refl store)
  | creates => exact .same (.of_append rfl (empty _) rfl rfl (Nat.le_trans (Nat.le_succ _) (Nat.le_succ _)))
  | invites => exact .same (.of_members rfl rfl rfl (Nat.le_succ _))
  | acceptsLate | rejectsLate | rejects => exact .same (.of_members rfl rfl rfl (Nat.le_refl _))
  | restores conversationId userId => exact .same (.restore env.now conversationId userId)
  | joins => exact .same (.of_append rfl (empty _) rfl rfl (Nat.le_succ _))
  | leaves userId conversationId => exact .same (.removedFrom env.now conversationId userId userId .memberLeft)
  | removes userId dto => exact .same (.removedFrom env.now dto.conversationId userId _ .memberRemoved)
  | transfers prevOwner dto => exact .same (.transferred env.now prevOwner _ dto.conversationId)

theorem deletePrivateConversation_countWrite (env : Env) (userId conversationId : Uuid) :
    CountWrite store (deletePrivateConversation env userId conversationId store).2 := by
  have step := deletionStep env userId conversationId store
  generalize (deletePrivateConversation env userId conversationId store).2 = next at step ⊢
  cases step with
  | refused => exact .same (.refl store)
  | hides => exact .same (.mark env.now conversationId userId)
  | drops => exact .drops (.mark env.now conversationId userId) conversationId

/-- Every call on conversations counts as it delivers. -/
theorem runCall_countWrite (governed : Governed rule store) (platform : Platform) (action : Env × ConversationCall) :
    CountWrite store (runCall platform store action) := by
  obtain ⟨env, call⟩ := action
  have step := callStep platform env call store
  generalize runCall platform store (env, call) = next at step ⊢
  cases step with
  | group step => exact step.countWrite
  | createPrivateMessage senderId dto => exact createPrivateMessage_countWrite governed platform env senderId dto
  | refused call => exact .same (.refl store)
  | deleteGroup userId conversationId => exact .drops (.refl store) conversationId
  | deletePrivateConversation userId conversationId =>
      exact deletePrivateConversation_countWrite env userId conversationId

/-- A confirmation updates its delivery, after the counter if the message was read. -/
theorem confirmDelivery_cases (env : Env) (userId : Uuid) (dto : MessageDeliveryDto) (store : Store) :
    ((findByMessageAndUser env.scan store dto.messageId userId = none ∨
        dto.status = .read ∧ env.succeeds 0 = false) ∧ (confirmDelivery env userId dto store).2 = store) ∨
      ∃ delivery, findByMessageAndUser env.scan store dto.messageId userId = some delivery ∧
        (dto.status = .read → env.succeeds 0 = true) ∧
        (confirmDelivery env userId dto store).2 =
          { store with
            members := if dto.status = .read then (resetUnreadCount dto.conversationId userId store).members
              else store.members
            deliveries := if env.succeeds 1 = true then
                updateWhere (fun row => row.id == delivery.id) (confirmed env.now dto.status) store.deliveries
              else store.deliveries } := by
  unfold confirmDelivery
  cases found : findByMessageAndUser env.scan store dto.messageId userId with
  | none => exact .inl ⟨.inl rfl, rfl⟩
  | some delivery =>
      simp only
      split
      · next fails => exact .inl ⟨.inr fails, rfl⟩
      · next passes =>
          refine .inr ⟨delivery, rfl, ?_, ?_⟩
          · intro read
            exact Bool.eq_true_of_not_eq_false fun fails => passes ⟨read, fails⟩
          · cases env.succeeds 1 <;> by_cases read : dto.status = .read <;> simp [read] <;> rfl

theorem resetUnreadMessagesCount_eq (env : Env) (userId conversationId : Uuid) (store : Store) :
    (resetUnreadMessagesCount env userId conversationId store).2 =
      if env.succeeds 0 = true then resetUnreadCount conversationId userId store else store := by
  unfold resetUnreadMessagesCount
  rw [transaction_snd]
  rfl

end Calls

end Messinger
