import Messinger.Library.Tally
import Messinger.Proof.CountedCalls

namespace Messinger
open Library ConversationMemberRepository ConversationRepository ConversationService MessageService
  MessageDeliveryRepository StorageService

/-- The call sets the counter of the user in the conversation to zero. -/
def ResetsCount (store : Store) (action : Env × RetentionCall) (conversationId userId : Uuid) : Prop :=
  match action.2 with
  | .user (.confirmDelivery reader dto) =>
      (conversationId, userId) = (dto.conversationId, reader) ∧ dto.status = .read ∧ action.1.succeeds 0 = true ∧
        (findByMessageAndUser action.1.scan store dto.messageId reader).isSome = true
  | .user (.resetUnreadMessagesCount reader place) =>
      (conversationId, userId) = (place, reader) ∧ action.1.succeeds 0 = true
  | _ => False

/-- The count of a member begins with its row, and begins again with each reset. -/
def BeginsCount (platform : Platform) (store : Store) (action : Env × RetentionCall) (member : Uuid × Uuid) : Prop :=
  ResetsCount store action member.1 member.2 ∨ findMember store member.1 member.2 = none ∧
    (findMember (runRetentionCall platform store action) member.1 member.2).isSome = true

/-- This is the number of deliveries to the member that the call inserts. -/
def insertedBy (platform : Platform) (store : Store) (action : Env × RetentionCall) (member : Uuid × Uuid) : Nat :=
  insertedFor store (runRetentionCall platform store action) member.1 member.2

/-- The messages that the job finds are older than the limit. -/
def tooOld (env : Env) (message : Message) : Bool := decide (message.createdAt < jsDate env.now - maxMessageAge)

/-- The files of the old messages go first, and the rows follow when every batch and the query succeed. -/
def CleansUp (env : Env) (store : Store) : Prop :=
  AllBatches env (filesToCleanup env store) ∧ env.succeeds 0 = true

instance (env : Env) (store : Store) : Decidable (CleansUp env store) := inferInstanceAs (Decidable (_ ∧ _))

/-- The job deletes the old messages when it cleans up, and otherwise some files at most. -/
theorem deleteMessagesJob_shape (env : Env) (store : Store) :
    ∃ kept : StorageKey → Bool,
      ((CleansUp env store → ∀ message ∈ store.messages, tooOld env message = false) ∧
          deleteMessagesJob env store = { store with bucket := store.bucket.filter kept }) ∨
        CleansUp env store ∧ deleteMessagesJob env store =
          { store.deleteMessages (tooOld env) with bucket := store.bucket.filter kept } := by
  unfold deleteMessagesJob
  simp only
  split
  · next none =>
      refine ⟨fun _ => true, .inl ⟨?_, by simp⟩⟩
      intro _ message inside
      exact Bool.eq_false_iff.mpr (List.filter_eq_nil_iff.mp none message inside)
  · obtain ⟨kept, shape, -⟩ := deleteFiles_shape env
      (AdminService.storageKeysOf store
        (MessageRepository.findMessagesToCleanup (jsDate env.now - maxMessageAge) store)) store
    refine ⟨kept, ?_⟩
    by_cases arrive : AllBatches env (filesToCleanup env store)
    · have done := deleteFiles_ok store arrive
      unfold filesToCleanup at done
      rw [done] at shape ⊢
      simp only at shape ⊢
      rw [shape]
      cases commits : env.succeeds 0 with
      | false =>
          refine .inl ⟨?_, by simp⟩
          intro cleans
          rw [cleans.2] at commits
          cases commits
      | true => exact .inr ⟨⟨arrive, commits⟩, rfl⟩
    · have failed := deleteFiles_error store arrive
      unfold filesToCleanup at failed
      generalize outcome : deleteFiles env (AdminService.storageKeysOf store
        (MessageRepository.findMessagesToCleanup (jsDate env.now - maxMessageAge) store)) store = result at shape failed ⊢
      obtain ⟨result, emptied⟩ := result
      simp only at shape failed
      rw [failed]
      exact .inl ⟨fun cleans => absurd cleans.1 arrive, shape⟩

section Steps
variable {store next : Store}

/-- Deleting messages and files keeps the counters and inserts nothing. -/
theorem counts_of_removal {doomed : Message → Bool} {bucket : List StorageKey}
    (removed : next = { store.deleteMessages doomed with bucket }) (conversationId userId : Uuid) :
    counterOf next conversationId userId = counterOf store conversationId userId ∧
      insertedFor store next conversationId userId = 0 := by
  rw [removed]
  refine ⟨counterOf_congr rfl conversationId userId, ?_⟩
  apply insertedFor_eq_zero
  intro delivery inside
  exact ⟨delivery, (List.mem_filter.mp inside).1, rfl⟩

theorem CountsKnown.deleteMessages (known : CountsKnown store) (doomed : Message → Bool) :
    CountsKnown (store.deleteMessages doomed) where
  chartered := by
    apply known.chartered.step (known.chartered.governed.deleteMessages doomed)
    apply RoomStep.of_eq
    change (store.conversations.map _).map Conversation.room = _
    rw [List.map_map]
    apply List.map_congr_left
    intro conversation _
    rw [Function.comp_apply]
    split <;> rfl
  messages := known.messages.filter rfl (Nat.le_refl _)
  deliveries := known.deliveries.filter rfl (Nat.le_refl _)

theorem CountsKnown.withBucket (known : CountsKnown store) (bucket : List StorageKey) :
    CountsKnown { store with bucket } where
  chartered := known.chartered.step (known.chartered.governed.of_frame rfl rfl (Nat.le_refl _)) (.of_eq rfl)
  messages := known.messages.of_same rfl (Nat.le_refl _)
  deliveries := known.deliveries.of_same rfl (Nat.le_refl _)

theorem confirmed_keeps (now : Nat) (status : MessageStatus) (row : MessageDelivery) :
    (confirmed now status row).id = row.id ∧ (confirmed now status row).messageId = row.messageId ∧
      (confirmed now status row).userId = row.userId := by
  unfold confirmed
  split <;> exact ⟨rfl, rfl, rfl⟩

/-- Every call keeps the keys of members, messages and deliveries distinct. -/
theorem CountsKnown.run (known : CountsKnown store) (platform : Platform) (action : Env × RetentionCall) :
    CountsKnown (runRetentionCall platform store action) := by
  obtain ⟨env, call⟩ := action
  cases call with
  | user call =>
      have chartered := (known.chartered.run platform (env, call)).1
      refine ⟨chartered, ?_, ?_⟩
      · cases call with
        | conversation call =>
            exact (runCall_countWrite known.chartered.governed platform (env, call)).messagesKnown known.messages
        | createGroupMessage senderId dto =>
            exact (createGroupMessage_countWrite known.chartered.governed platform env senderId dto).messagesKnown
              known.messages
        | confirmDelivery userId dto =>
            change MessagesKnown (confirmDelivery env userId dto store).2
            obtain ⟨-, same⟩ | ⟨delivery, -, -, equal⟩ := confirmDelivery_cases env userId dto store
            · rw [same]
              exact known.messages
            · rw [equal]
              exact known.messages.of_same rfl (Nat.le_refl _)
        | resetUnreadMessagesCount userId conversationId =>
            change MessagesKnown (resetUnreadMessagesCount env userId conversationId store).2
            rw [resetUnreadMessagesCount_eq]
            split
            · exact known.messages.of_same rfl (Nat.le_refl _)
            · exact known.messages
      · cases call with
        | conversation call =>
            exact (runCall_countWrite known.chartered.governed platform (env, call)).deliveriesKnown known.deliveries
        | createGroupMessage senderId dto =>
            exact (createGroupMessage_countWrite known.chartered.governed platform env senderId dto).deliveriesKnown
              known.deliveries
        | confirmDelivery userId dto =>
            change DeliveriesKnown (confirmDelivery env userId dto store).2
            obtain ⟨-, same⟩ | ⟨delivery, -, -, equal⟩ := confirmDelivery_cases env userId dto store
            · rw [same]
              exact known.deliveries
            · rw [equal]
              cases env.succeeds 1 with
              | true => exact known.deliveries.update (confirmed_keeps env.now dto.status) rfl (Nat.le_refl _)
              | false => exact known.deliveries.of_same rfl (Nat.le_refl _)
        | resetUnreadMessagesCount userId conversationId =>
            change DeliveriesKnown (resetUnreadMessagesCount env userId conversationId store).2
            rw [resetUnreadMessagesCount_eq]
            split
            · exact known.deliveries.of_same rfl (Nat.le_refl _)
            · exact known.deliveries
  | deleteMessages dto =>
      change CountsKnown (Controllers.deleteMessages env dto store).2
      obtain ⟨-, same⟩ | ⟨-, kept, shape, -⟩ := deleteMessages_shape env dto store
      · rw [same]
        exact known
      · rw [shape]
        exact (known.deleteMessages _).withBucket _
  | deleteMessagesJob =>
      change CountsKnown (deleteMessagesJob env store)
      obtain ⟨kept, ⟨-, shape⟩ | ⟨-, shape⟩⟩ := deleteMessagesJob_shape env store
      · rw [shape]
        exact known.withBucket _
      · rw [shape]
        exact (known.deleteMessages _).withBucket _

/-- An update of statuses inserts no delivery. -/
theorem insertedFor_of_update {matching : MessageDelivery → Bool} {change : MessageDelivery → MessageDelivery}
    (keeps : ∀ row, (change row).id = row.id) (changed : next.deliveries = updateWhere matching change store.deliveries)
    (conversationId userId : Uuid) : insertedFor store next conversationId userId = 0 := by
  apply insertedFor_eq_zero
  intro delivery inside
  rw [changed, mem_updateWhere] at inside
  obtain ⟨old, present, equal⟩ := inside
  refine ⟨old, present, ?_⟩
  rw [equal]
  split
  · exact (keeps old).symm
  · rfl

theorem insertedFor_of_same (same : next.deliveries = store.deliveries) (conversationId userId : Uuid) :
    insertedFor store next conversationId userId = 0 := by
  apply insertedFor_eq_zero
  intro delivery inside
  rw [same] at inside
  exact ⟨delivery, inside, rfl⟩

/-- A reset empties one counter and keeps the others. -/
theorem counterOf_resets (place reader conversationId userId : Uuid) :
    counterOf (resetUnreadCount place reader store) conversationId userId =
      if (conversationId, userId) = (place, reader) then 0 else counterOf store conversationId userId := by
  split
  · next same =>
      obtain ⟨rfl, rfl⟩ := Prod.mk.inj same
      exact counterOf_reset conversationId userId
  · next different => exact counterOf_reset_other different

theorem insertedFor_confirmDelivery (env : Env) (reader : Uuid) (dto : MessageDeliveryDto) (store : Store)
    (conversationId userId : Uuid) :
    insertedFor store (confirmDelivery env reader dto store).2 conversationId userId = 0 := by
  obtain ⟨-, same⟩ | ⟨delivery, -, -, equal⟩ := confirmDelivery_cases env reader dto store
  · rw [same]
    exact insertedFor_of_same rfl _ _
  · rw [equal]
    cases env.succeeds 1 with
    | true => exact insertedFor_of_update (fun row => (confirmed_keeps env.now dto.status row).1) rfl _ _
    | false => exact insertedFor_of_same rfl _ _

theorem counterOf_confirmDelivery (env : Env) (reader : Uuid) (dto : MessageDeliveryDto) (store : Store)
    (conversationId userId : Uuid) [Decidable (ResetsCount store (env, .user (.confirmDelivery reader dto))
      conversationId userId)] :
    counterOf (confirmDelivery env reader dto store).2 conversationId userId =
      if ResetsCount store (env, .user (.confirmDelivery reader dto)) conversationId userId then 0
      else counterOf store conversationId userId := by
  unfold ResetsCount
  obtain ⟨none | ⟨read, fails⟩, same⟩ | ⟨delivery, found, succeeds, equal⟩ := confirmDelivery_cases env reader dto store
  · rw [same]
    simp [none]
  · rw [same]
    simp [fails]
  · by_cases read : dto.status = .read
    · have kept : (confirmDelivery env reader dto store).2.members =
          (resetUnreadCount dto.conversationId reader store).members := by rw [equal, if_pos read]
      rw [counterOf_congr kept, counterOf_resets]
      simp [read, found, succeeds read]
    · have kept : (confirmDelivery env reader dto store).2.members = store.members := by rw [equal, if_neg read]
      rw [counterOf_congr kept]
      simp [read]

/-- The counter of a member restarts with a reset and otherwise grows by the deliveries that were inserted. -/
theorem counterOf_run (known : CountsKnown store) (platform : Platform) (action : Env × RetentionCall)
    {conversationId userId : Uuid}
    (present : (findMember (runRetentionCall platform store action) conversationId userId).isSome = true)
    [Decidable (ResetsCount store action conversationId userId)] :
    counterOf (runRetentionCall platform store action) conversationId userId =
      (if ResetsCount store action conversationId userId then 0 else counterOf store conversationId userId) +
        insertedFor store (runRetentionCall platform store action) conversationId userId := by
  obtain ⟨env, call⟩ := action
  cases call with
  | user call =>
      cases call with
      | conversation call =>
          rw [if_neg (fun resets => resets : ¬ ResetsCount store (env, .user (.conversation call)) _ _)]
          exact ((runCall_countWrite known.chartered.governed platform (env, call)).follow known.messages
            known.deliveries).counters _ _ present
      | createGroupMessage senderId dto =>
          rw [if_neg (fun resets => resets : ¬ ResetsCount store (env, .user (.createGroupMessage senderId dto)) _ _)]
          exact ((createGroupMessage_countWrite known.chartered.governed platform env senderId dto).follow
            known.messages known.deliveries).counters _ _ present
      | confirmDelivery reader dto =>
          change counterOf (confirmDelivery env reader dto store).2 conversationId userId = _ +
            insertedFor store (confirmDelivery env reader dto store).2 conversationId userId
          rw [insertedFor_confirmDelivery, counterOf_confirmDelivery, Nat.add_zero]
      | resetUnreadMessagesCount reader place =>
          change counterOf (resetUnreadMessagesCount env reader place store).2 conversationId userId = _ +
            insertedFor store (resetUnreadMessagesCount env reader place store).2 conversationId userId
          rw [resetUnreadMessagesCount_eq]
          by_cases commits : env.succeeds 0 = true
          · have resets : ResetsCount store (env, .user (.resetUnreadMessagesCount reader place)) conversationId userId ↔
                (conversationId, userId) = (place, reader) := ⟨And.left, fun same => ⟨same, commits⟩⟩
            have none : insertedFor store (resetUnreadCount place reader store) conversationId userId = 0 :=
              insertedFor_of_same rfl conversationId userId
            rw [if_pos commits, counterOf_resets, none]
            simp only [resets, Nat.add_zero]
          · rw [if_neg commits, insertedFor_of_same rfl, Nat.add_zero, if_neg fun resets => commits resets.2]
  | deleteMessages dto =>
      change counterOf (Controllers.deleteMessages env dto store).2 conversationId userId = _ +
        insertedFor store (Controllers.deleteMessages env dto store).2 conversationId userId
      rw [if_neg (fun resets => resets : ¬ ResetsCount store (env, .deleteMessages dto) _ _)]
      obtain ⟨-, same⟩ | ⟨-, kept, shape, -⟩ := deleteMessages_shape env dto store
      · rw [same, insertedFor_of_same rfl, Nat.add_zero]
      · obtain ⟨counter, none⟩ := counts_of_removal shape conversationId userId
        rw [counter, none, Nat.add_zero]
  | deleteMessagesJob =>
      change counterOf (deleteMessagesJob env store) conversationId userId = _ +
        insertedFor store (deleteMessagesJob env store) conversationId userId
      rw [if_neg (fun resets => resets : ¬ ResetsCount store (env, .deleteMessagesJob) _ _)]
      obtain ⟨kept, ⟨-, shape⟩ | ⟨-, shape⟩⟩ := deleteMessagesJob_shape env store
      · have members : (deleteMessagesJob env store).members = store.members := by rw [shape]
        have deliveries : (deleteMessagesJob env store).deliveries = store.deliveries := by rw [shape]
        rw [counterOf_congr members, insertedFor_of_same deliveries, Nat.add_zero]
      · obtain ⟨counter, none⟩ := counts_of_removal shape conversationId userId
        rw [counter, none, Nat.add_zero]

end Steps

theorem CountsKnown.empty (users : List User) (pendingUploads : List PendingUpload) (bucket : List StorageKey)
    (nextId : Uuid) : CountsKnown (emptyStore users pendingUploads bucket nextId) := by
  refine ⟨⟨governed_emptyStore soleHolder_office users pendingUploads bucket nextId, List.nodup_nil, ?_⟩,
    ⟨List.nodup_nil, ?_⟩, ⟨List.nodup_nil, List.nodup_nil, ?_⟩⟩
  · exact fun _ inside => absurd inside List.not_mem_nil
  · exact fun _ inside => absurd inside List.not_mem_nil
  · exact fun _ inside => absurd inside List.not_mem_nil

theorem CountsKnown.stateAt (platform : Platform) (users : List User) (pendingUploads : List PendingUpload)
    (bucket : List StorageKey) (nextId : Uuid) (actions : List (Env × RetentionCall)) (position : Nat) :
    CountsKnown (stateAt (runRetentionCall platform) (emptyStore users pendingUploads bucket nextId) actions
      position) := by
  refine run_invariant (runRetentionCall platform) CountsKnown ?_ _ _ (.empty users pendingUploads bucket nextId)
  exact fun store action known => known.run platform action

/-- In every run, the counter of a member is the number of deliveries that messages of the conversation have
inserted for it since its last reset, or since its row was created. -/
theorem unread_count_counts_deliveries (platform : Platform) (users : List User)
    (pendingUploads : List PendingUpload) (bucket : List StorageKey) (nextId : Uuid)
    (actions : List (Env × RetentionCall)) (position : Nat) (conversationId userId : Uuid)
    {member : ConversationMember}
    (found : findMember (stateAt (runRetentionCall platform) (emptyStore users pendingUploads bucket nextId) actions
      position) conversationId userId = some member) :
    Tallied (runRetentionCall platform)
      (fun store action => BeginsCount platform store action (conversationId, userId))
      (fun store action => insertedBy platform store action (conversationId, userId))
      (emptyStore users pendingUploads bucket nextId) actions position member.unreadCount := by
  classical
  let counter (store : Store) (member : Uuid × Uuid) : Option Nat :=
    (findMember store member.1 member.2).map (·.unreadCount)
  have counted : counter (stateAt (runRetentionCall platform) (emptyStore users pendingUploads bucket nextId) actions
      position) (conversationId, userId) = some member.unreadCount := congrArg (Option.map (·.unreadCount)) found
  refine stateAt_tallied CountsKnown rfl (CountsKnown.stateAt platform users pendingUploads bucket nextId actions)
    ?_ ?_ counted
  · intro store action total known begun now
    obtain ⟨row, present, rfl⟩ := Option.map_eq_some_iff.mp now
    have sum := counterOf_run known platform action (Option.isSome_of_eq_some present)
    rw [counterOf_of_found present] at sum
    obtain reset | ⟨missing, -⟩ := begun
    · rw [if_pos reset, Nat.zero_add] at sum
      exact sum
    · have zero : counterOf store conversationId userId = 0 := by
        unfold counterOf
        rw [missing]
        rfl
      rw [zero, ite_self, Nat.zero_add] at sum
      exact sum
  · intro store action total known quiet now
    obtain ⟨row, present, rfl⟩ := Option.map_eq_some_iff.mp now
    have isSome := Option.isSome_of_eq_some present
    have sum := counterOf_run known platform action isSome
    obtain ⟨unreset, old⟩ := not_or.mp quiet
    rw [counterOf_of_found present, if_neg unreset] at sum
    cases before : findMember store conversationId userId with
    | none => exact absurd ⟨before, isSome⟩ old
    | some member =>
        rw [counterOf_of_found before] at sum
        exact ⟨member.unreadCount, congrArg (Option.map (·.unreadCount)) before, sum⟩

/-- User 1 founds group 10 with user 2, who reads the first of two messages. -/
def countedRun : List (Env × RetentionCall) :=
  (succession.take 3).map (fun action => (action.1, .user (.conversation action.2))) ++
    [({ now := 4000000 }, .user (.createGroupMessage 1 { conversationId := 10, content := [104], attachments := [] })),
     ({ now := 5000000 }, .user (.resetUnreadMessagesCount 2 10)),
     ({ now := 6000000 }, .user (.createGroupMessage 1 { conversationId := 10, content := [105], attachments := [] }))]

/-- The counter of user 2 is one, which is what the calls from the reset on have delivered. -/
theorem counter_restarts_with_reset :
    ∃ member, findMember (stateAt (runRetentionCall plainPlatform)
        (emptyStore ([1, 2].map fun id => { id, role := .user, createdAt := 0 }) [] [] 10) countedRun 6) 10 2 =
          some member ∧ member.unreadCount = 1 ∧
      Tallied (runRetentionCall plainPlatform)
        (fun store action => BeginsCount plainPlatform store action (10, 2))
        (fun store action => insertedBy plainPlatform store action (10, 2))
        (emptyStore ([1, 2].map fun id => { id, role := .user, createdAt := 0 }) [] [] 10) countedRun 6
        member.unreadCount := by
  have found : findMember (stateAt (runRetentionCall plainPlatform)
      (emptyStore ([1, 2].map fun id => { id, role := .user, createdAt := 0 }) [] [] 10) countedRun 6) 10 2 =
        some { conversationId := 10, userId := 2, role := .member, unreadCount := 1, createdAt := 3000000 } := by
    decide
  exact ⟨_, found, rfl, unread_count_counts_deliveries plainPlatform _ [] [] 10 countedRun 6 10 2 found⟩

end Messinger
