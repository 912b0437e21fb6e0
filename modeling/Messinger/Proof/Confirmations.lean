import Messinger.Proof.FailedMessages
import Messinger.Proof.UnreadBounds

namespace Messinger
open Library ConversationMemberRepository MessageDeliveryRepository MessageService

/-- The row is unchanged, or it is the delivery of the message to the user. -/
def OwnDelivery (userId messageId : Uuid) (row after : MessageDelivery) : Prop :=
  after = row ∨ row.messageId = messageId ∧ row.userId = userId

/-- The row is unchanged, or it is the member row of the user in the conversation of the message, and nothing but its
counter has changed. -/
def OwnCounter (store : Store) (userId messageId : Uuid) (row after : ConversationMember) : Prop :=
  after = row ∨ row.userId = userId ∧ after = { row with unreadCount := after.unreadCount } ∧
    ∃ message ∈ store.messages, message.id = messageId ∧ message.conversationId = row.conversationId

/-- A confirmation changes the delivery of its message and, when the message is read, the counter of its conversation.
All other rows and tables stay, and a confirmation that throws changes nothing. -/
structure TouchesOwnMessage (userId : Uuid) (dto : MessageDeliveryDto) (store : Store)
    (outcome : Outcome MessageDelivery) : Prop where
  deliveries : List.Forall₂ (OwnDelivery userId dto.messageId) store.deliveries outcome.2.deliveries
  members : if dto.status = .read then
      List.Forall₂ (OwnCounter store userId dto.messageId) store.members outcome.2.members
    else outcome.2.members = store.members
  others : { outcome.2 with members := store.members, deliveries := store.deliveries } = store
  failed : LeavesNoTrace store outcome

/-- The confirmation resets a counter that is not zero. -/
structure ResetsCounter (env : Env) (userId : Uuid) (dto : MessageDeliveryDto) (store : Store) : Prop where
  read : dto.status = .read
  delivery : ∃ delivery ∈ store.deliveries, delivery.messageId = dto.messageId ∧ delivery.userId = userId
  reset : env.succeeds 0 = true
  counted : ∃ member ∈ store.members, member.key = (dto.conversationId, userId) ∧ member.unreadCount ≠ 0

section Confirmation
variable {env : Env} {userId : Uuid} {dto : MessageDeliveryDto} {store : Store}

/-- A reset leaves the members exactly when the counter is zero already. -/
theorem resetUnreadCount_same_iff (conversationId : Uuid) :
    (resetUnreadCount conversationId userId store).members = store.members ↔
      ¬ ∃ member ∈ store.members, member.key = (conversationId, userId) ∧ member.unreadCount ≠ 0 := by
  refine updateWhere_eq_self_iff.trans ?_
  constructor
  · rintro same ⟨member, inside, key, counted⟩
    exact counted (congrArg ConversationMember.unreadCount (same member inside (decide_eq_true key))).symm
  · intro none member inside selected
    have zero : member.unreadCount = 0 := by
      by_contra counted
      exact none ⟨member, inside, of_decide_eq_true selected, counted⟩
    rw [← zero]

/-- A reset touches the conversation of the message, or a counter that is zero already. -/
theorem resetUnreadCount_own_iff (conversationId messageId : Uuid) :
    List.Forall₂ (OwnCounter store userId messageId) store.members
        (resetUnreadCount conversationId userId store).members ↔
      ((∃ member ∈ store.members, member.key = (conversationId, userId) ∧ member.unreadCount ≠ 0) →
        ∃ message ∈ store.messages, message.id = messageId ∧ message.conversationId = conversationId) := by
  refine (forall₂_updateWhere_iff fun _ => .inl rfl).trans ?_
  constructor
  · rintro own ⟨member, inside, key, counted⟩
    rcases own member inside (decide_eq_true key) with same | ⟨-, -, message, stored, id, place⟩
    · exact absurd (congrArg ConversationMember.unreadCount same).symm counted
    · exact ⟨message, stored, id, place.trans (congrArg Prod.fst key)⟩
  · intro own member inside selected
    have key : member.key = (conversationId, userId) := of_decide_eq_true selected
    by_cases zero : member.unreadCount = 0
    · refine .inl ?_
      rw [← zero]
    · obtain ⟨message, stored, id, place⟩ := own ⟨member, inside, key, zero⟩
      exact .inr ⟨congrArg Prod.snd key, rfl, message, stored, id, place.trans (congrArg Prod.fst key).symm⟩

/-- The update of a delivery that was found touches no other delivery. -/
theorem updateDelivery_own (distinct : (store.deliveries.map MessageDelivery.id).Nodup) {scan messageId : Uuid}
    {delivery : MessageDelivery} (found : findByMessageAndUser scan store messageId userId = some delivery)
    (change : MessageDelivery → MessageDelivery) :
    List.Forall₂ (OwnDelivery userId messageId) store.deliveries
      (updateWhere (fun row => row.id == delivery.id) change store.deliveries) := by
  obtain ⟨stored, own⟩ := findByMessageAndUser_some found
  refine (forall₂_updateWhere_iff fun _ => .inl rfl).mpr ?_
  intro row inside selected
  obtain rfl := List.inj_on_of_nodup_map distinct inside stored (beq_iff_eq.mp selected)
  exact .inr own

/-- A confirmation whose delivery is found throws exactly when its last update fails. -/
theorem confirmDelivery_throws {delivery : MessageDelivery}
    (found : findByMessageAndUser env.scan store dto.messageId userId = some delivery)
    (reset : dto.status = .read → env.succeeds 0 = true) :
    (∃ exception, (confirmDelivery env userId dto store).1 = .error exception) ↔ env.succeeds 1 = false := by
  have passes : ¬ (dto.status = .read ∧ env.succeeds 0 = false) := by
    rintro ⟨read, fails⟩
    exact nomatch (reset read).symm.trans fails
  unfold confirmDelivery
  rw [found]
  simp only
  rw [if_neg passes]
  cases env.succeeds 1 with
  | false => exact iff_of_true ⟨_, rfl⟩ rfl
  | true => exact iff_of_false (fun ⟨_, thrown⟩ => nomatch thrown) Bool.noConfusion

/-- A confirmation touches only its own message exactly when it resets no counter, or when the counter is that of the
conversation of the message and the delivery is updated too. -/
theorem confirmation_touches_own_iff (distinct : (store.deliveries.map MessageDelivery.id).Nodup) :
    TouchesOwnMessage userId dto store (confirmDelivery env userId dto store) ↔
      (ResetsCounter env userId dto store →
        (∃ message ∈ store.messages, message.id = dto.messageId ∧ message.conversationId = dto.conversationId) ∧
          env.succeeds 1 = true) := by
  obtain ⟨absent, same⟩ | ⟨delivery, found, reset, equal⟩ := confirmDelivery_cases env userId dto store
  · refine iff_of_true ⟨?_, ?_, ?_, ?_⟩ ?_
    · rw [same]
      exact List.forall₂_same.mpr fun _ _ => .inl rfl
    · rw [same]
      split
      · exact List.forall₂_same.mpr fun _ _ => .inl rfl
      · rfl
    · rw [same]
    · intro exception _
      rw [same]
    · rintro ⟨-, ⟨delivery, inside, own⟩, resets, -⟩
      rcases absent with missing | ⟨-, fails⟩
      · exact absurd own (findByMessageAndUser_none missing delivery inside)
      · exact nomatch resets.symm.trans fails
  · have throws := confirmDelivery_throws found reset
    have deliveries : List.Forall₂ (OwnDelivery userId dto.messageId) store.deliveries
        (confirmDelivery env userId dto store).2.deliveries := by
      rw [equal]
      simp only
      split
      · exact updateDelivery_own distinct found _
      · exact List.forall₂_same.mpr fun _ _ => .inl rfl
    have others : { (confirmDelivery env userId dto store).2 with
        members := store.members, deliveries := store.deliveries } = store := by
      rw [equal]
    by_cases read : dto.status = .read
    · have members : (confirmDelivery env userId dto store).2.members =
          (resetUnreadCount dto.conversationId userId store).members := by
        rw [equal]
        exact if_pos read
      have condition : ResetsCounter env userId dto store ↔
          ∃ member ∈ store.members, member.key = (dto.conversationId, userId) ∧ member.unreadCount ≠ 0 :=
        ⟨ResetsCounter.counted, fun counted =>
          ⟨read, ⟨delivery, findByMessageAndUser_some found⟩, reset read, counted⟩⟩
      rw [condition]
      constructor
      · intro touches counted
        have own := touches.members
        rw [if_pos read, members] at own
        refine ⟨(resetUnreadCount_own_iff _ _).mp own counted, ?_⟩
        by_contra fails
        obtain ⟨exception, thrown⟩ := throws.mpr (Bool.eq_false_of_not_eq_true fails)
        have undone := congrArg Store.members (touches.failed exception thrown)
        exact (resetUnreadCount_same_iff _).mp (members.symm.trans undone) counted
      · intro allowed
        refine ⟨deliveries, ?_, others, ?_⟩
        · rw [if_pos read, members]
          exact (resetUnreadCount_own_iff _ _).mpr fun counted => (allowed counted).1
        · intro exception thrown
          have fails := throws.mp ⟨exception, thrown⟩
          have same : (resetUnreadCount dto.conversationId userId store).members = store.members :=
            (resetUnreadCount_same_iff dto.conversationId).mpr fun counted => nomatch fails.symm.trans (allowed counted).2
          rw [equal, fails, if_pos read, same]
          rfl
    · have kept : (confirmDelivery env userId dto store).2.members = store.members := by
        rw [equal]
        exact if_neg read
      refine iff_of_true ⟨deliveries, ?_, others, ?_⟩ fun resets => absurd resets.read read
      · rw [if_neg read]
        exact kept
      · intro exception thrown
        have fails := throws.mp ⟨exception, thrown⟩
        rw [equal, fails, if_neg read]
        rfl

end Confirmation

/-- User 2 has one unread message in each of two conversations. -/
def countedStore : Store :=
  { users := [{ id := 2, role := .user, createdAt := 0 }]
    conversations := [3, 7].map fun id => { id, type := .privateType, createdAt := 0, updatedAt := 0 }
    members := [3, 7].map fun conversationId =>
      { conversationId, userId := 2, role := .member, unreadCount := 1, createdAt := 0 }
    messages := [(4, 3), (8, 7)].map fun place =>
      { id := place.1, conversationId := place.2, senderId := none, cipheredContent := [], iv := [], authTag := []
        createdAt := 0 }
    deliveries := [(5, 4), (9, 8)].map fun place => { id := place.1, messageId := place.2, userId := 2, createdAt := 0 }
    nextId := 10 }

/-- The confirmation names conversation 3, and both of its updates succeed. -/
theorem countedStore_touches_own :
    TouchesOwnMessage 2 ⟨3, 4, .read⟩ countedStore (confirmDelivery { now := 9 } 2 ⟨3, 4, .read⟩ countedStore) :=
  (confirmation_touches_own_iff (by decide)).mpr fun _ => ⟨by decide, rfl⟩

/-- A confirmation that names conversation 7 resets its counter, and one that throws at its last await has reset the
counter of conversation 3. -/
theorem confirmation_touches_others :
    ¬ TouchesOwnMessage 2 ⟨7, 4, .read⟩ countedStore (confirmDelivery { now := 9 } 2 ⟨7, 4, .read⟩ countedStore) ∧
      ¬ TouchesOwnMessage 2 ⟨3, 4, .read⟩ countedStore
        (confirmDelivery { now := 9, succeeds := fun index => index != 1 } 2 ⟨3, 4, .read⟩ countedStore) := by
  constructor
  · rintro ⟨-, members, -, -⟩
    have second := (List.forall₂_cons.mp (List.forall₂_cons.mp members).2).1
    rcases second with same | ⟨-, -, message, stored, id, place⟩
    · exact absurd (congrArg ConversationMember.unreadCount same) (by decide)
    · exact absurd ⟨message, stored, id, place⟩ (by decide : ¬ ∃ message ∈ countedStore.messages,
        message.id = 4 ∧ message.conversationId = 7)
  · rintro ⟨-, -, -, failed⟩
    have kept := congrArg (fun store => store.members.map ConversationMember.unreadCount) (failed .failedCall rfl)
    exact absurd kept (by decide)

end Messinger
