import Messinger.Proof.DeliveryRecords

namespace Messinger
open Library ConversationMemberRepository ConversationRepository ConversationService MessageService
  MessageDeliveryRepository StorageService

/-- The write touches neither counters nor messages nor deliveries. -/
structure SameCounts (store next : Store) : Prop where
  counters : ∀ conversationId userId, counterOf next conversationId userId = counterOf store conversationId userId
  messages : next.messages = store.messages
  deliveries : next.deliveries = store.deliveries
  later : store.nextId ≤ next.nextId

/-- The counter of every member and its unread messages grow by the deliveries that were inserted. -/
structure CountsFollow (store next : Store) : Prop where
  counters : ∀ conversationId userId, (findMember next conversationId userId).isSome = true →
    counterOf next conversationId userId =
      counterOf store conversationId userId + insertedFor store next conversationId userId
  unread : ∀ conversationId userId, (findMember next conversationId userId).isSome = true →
    unreadIn next conversationId userId =
      unreadIn store conversationId userId + insertedFor store next conversationId userId

section Counters
variable {store next : Store} {conversationId userId : Uuid}

theorem counterOf_of_found {member : ConversationMember}
    (found : findMember store conversationId userId = some member) :
    counterOf store conversationId userId = member.unreadCount := by
  simp [counterOf, found]

theorem counterOf_congr (same : next.members = store.members) (conversationId userId : Uuid) :
    counterOf next conversationId userId = counterOf store conversationId userId := by
  unfold counterOf
  rw [findMember_congr same]

/-- An update of another column keeps the counters. -/
theorem counterOf_updateMember (changedConversation changedUser : Uuid)
    (change : ConversationMember → ConversationMember) (keeps : ∀ member, (change member).key = member.key)
    (counts : ∀ member, (change member).unreadCount = member.unreadCount) (conversationId userId : Uuid) :
    counterOf (updateMember store changedConversation changedUser change) conversationId userId =
      counterOf store conversationId userId := by
  unfold counterOf
  by_cases same : (conversationId, userId) = (changedConversation, changedUser)
  · obtain ⟨rfl, rfl⟩ := Prod.mk.inj same
    rw [findMember_updateMember_same store _ _ change keeps, Option.map_map]
    have column : (fun member : ConversationMember => member.unreadCount) ∘ change = (·.unreadCount) := by
      funext member
      exact counts member
    rw [column]
  · rw [findMember_updateMember_other store _ _ change keeps _ _ same]

/-- A new row starts with an empty counter. -/
theorem counterOf_append {rows : List ConversationMember} (members : next.members = store.members ++ rows)
    (empty : ∀ row ∈ rows, row.unreadCount = 0) (conversationId userId : Uuid) :
    counterOf next conversationId userId = counterOf store conversationId userId := by
  have appended : findMember next conversationId userId =
      findMember { store with members := store.members ++ rows } conversationId userId :=
    findMember_congr members conversationId userId
  unfold counterOf
  rw [appended, findMember_append]
  cases found : findMember store conversationId userId with
  | some member => rfl
  | none =>
      rw [Option.none_or]
      cases added : lookup ConversationMember.key (conversationId, userId) rows with
      | none => rfl
      | some row => exact empty row (lookup_mem _ added).1

theorem counterOf_reset (conversationId userId : Uuid) :
    counterOf (resetUnreadCount conversationId userId store) conversationId userId = 0 := by
  have keeps (member : ConversationMember) : { member with unreadCount := 0 }.key = member.key := rfl
  unfold counterOf resetUnreadCount
  rw [findMember_updateMember_same store conversationId userId _ keeps]
  cases findMember store conversationId userId <;> rfl

theorem counterOf_reset_other {resetConversation resetUser : Uuid}
    (different : (conversationId, userId) ≠ (resetConversation, resetUser)) :
    counterOf (resetUnreadCount resetConversation resetUser store) conversationId userId =
      counterOf store conversationId userId := by
  have keeps (member : ConversationMember) : { member with unreadCount := 0 }.key = member.key := rfl
  unfold counterOf resetUnreadCount
  rw [findMember_updateMember_other store resetConversation resetUser _ keeps _ _ different]

end Counters

section Unread
variable {store next : Store} {conversationId userId : Uuid}

theorem unreadIn_congr (messages : next.messages = store.messages) (deliveries : next.deliveries = store.deliveries)
    (conversationId userId : Uuid) :
    unreadIn next conversationId userId = unreadIn store conversationId userId := by
  unfold unreadIn unreadAmong isUnread
  rw [messages, deliveries]

/-- A write that inserts no delivery gains none. -/
theorem insertedFor_eq_zero (known : ∀ delivery ∈ next.deliveries, ∃ old ∈ store.deliveries, old.id = delivery.id) :
    insertedFor store next conversationId userId = 0 := by
  unfold insertedFor
  rw [List.countP_eq_zero]
  intro delivery inside fresh
  obtain ⟨old, present, same⟩ := known delivery inside
  have listed : (store.deliveries.any fun old => old.id == delivery.id) = true :=
    List.any_eq_true.mpr ⟨old, present, beq_iff_eq.mpr same⟩
  rw [listed] at fresh
  simp at fresh

theorem insertedFor_congr {between : Store} (same : between.deliveries = store.deliveries) :
    insertedFor store next conversationId userId = insertedFor between next conversationId userId := by
  unfold insertedFor
  rw [same]

/-- Deleting messages leaves the unread ones that it spares. -/
theorem unreadIn_deleteMessages (known : MessagesKnown store) (doomed : Message → Bool)
    (conversationId userId : Uuid) :
    unreadIn (store.deleteMessages doomed) conversationId userId =
      unreadAmong store (fun message => !doomed message) conversationId userId := by
  unfold unreadIn unreadAmong
  change (store.messages.filter fun message => !doomed message).countP _ = _
  rw [List.countP_filter]
  apply List.countP_congr
  intro message inside
  have stays : doomed message = false →
      isUnread (store.deleteMessages doomed) userId message.id = isUnread store userId message.id := by
    intro spared
    unfold isUnread Store.deleteMessages
    simp only [List.any_filter]
    congr 1
    funext delivery
    by_cases place : delivery.messageId = message.id
    · have stored : (store.messages.any fun other => other.id == delivery.messageId && doomed other) = false := by
        rw [List.any_eq_false]
        intro other present selected
        simp only [Bool.and_eq_true, beq_iff_eq] at selected
        have same := List.inj_on_of_nodup_map known.distinct present inside (selected.1.trans place)
        rw [same, spared] at selected
        cases selected.2
      rw [stored, Bool.not_false, Bool.true_and]
    · rw [beq_eq_false_iff_ne.mpr place]
      simp
  cases spared : doomed message with
  | true => simp [spared]
  | false => simp [stays spared, spared]

end Unread

section Writes
variable {store between next : Store}

namespace SameCounts

theorem refl (store : Store) : SameCounts store store := ⟨fun _ _ => rfl, rfl, rfl, Nat.le_refl _⟩

theorem trans (first : SameCounts store between) (second : SameCounts between next) : SameCounts store next where
  counters conversationId userId :=
    (second.counters conversationId userId).trans (first.counters conversationId userId)
  messages := second.messages.trans first.messages
  deliveries := second.deliveries.trans first.deliveries
  later := Nat.le_trans first.later second.later

theorem messagesKnown (same : SameCounts store next) (known : MessagesKnown store) : MessagesKnown next :=
  known.of_same same.messages same.later

theorem deliveriesKnown (same : SameCounts store next) (known : DeliveriesKnown store) : DeliveriesKnown next :=
  known.of_same same.deliveries same.later

theorem follow (same : SameCounts store next) : CountsFollow store next := by
  have none (conversationId userId : Uuid) : insertedFor store next conversationId userId = 0 := by
    apply insertedFor_eq_zero
    intro delivery inside
    rw [same.deliveries] at inside
    exact ⟨delivery, inside, rfl⟩
  constructor
  · intro conversationId userId _
    rw [none, same.counters, Nat.add_zero]
  · intro conversationId userId _
    rw [none, unreadIn_congr same.messages same.deliveries, Nat.add_zero]

end SameCounts

/-- Deleting a conversation leaves the counters and the messages of all others. -/
theorem CountsFollow.drop (same : SameCounts store between) (known : MessagesKnown between) (deleted : Uuid) :
    CountsFollow store (deleteConversation deleted between) := by
  have none (conversationId userId : Uuid) :
      insertedFor store (deleteConversation deleted between) conversationId userId = 0 := by
    apply insertedFor_eq_zero
    intro delivery inside
    rw [← same.deliveries]
    exact ⟨delivery, (List.mem_filter.mp inside).1, rfl⟩
  have apart (conversationId userId : Uuid)
      (found : (findMember (deleteConversation deleted between) conversationId userId).isSome = true) :
      conversationId ≠ deleted := by
    obtain ⟨member, present⟩ := Option.isSome_iff_exists.mp found
    obtain ⟨inside, place, -⟩ := findMember_some present
    have kept := (List.mem_filter.mp inside).2
    simp only [Bool.not_eq_true', beq_eq_false_iff_ne] at kept
    rw [← place]
    exact kept
  constructor
  · intro conversationId userId found
    have other : (conversationId == deleted) = false := beq_eq_false_iff_ne.mpr (apart _ _ found)
    have kept : counterOf (deleteConversation deleted between) conversationId userId =
        counterOf between conversationId userId := by
      unfold counterOf deleteConversation
      rw [findMember_deleteConversations between _ conversationId userId other]
    rw [none, kept, same.counters, Nat.add_zero]
  · intro conversationId userId found
    have other := apart _ _ found
    have kept : unreadIn (deleteConversation deleted between) conversationId userId =
        unreadIn (between.deleteMessages fun message => message.conversationId == deleted) conversationId userId :=
      unreadIn_congr rfl rfl conversationId userId
    have spared : unreadAmong between (fun message => !(message.conversationId == deleted)) conversationId userId =
        unreadIn between conversationId userId := by
      unfold unreadIn unreadAmong
      apply List.countP_congr
      intro message _
      by_cases place : message.conversationId = conversationId
      · simp [place, other]
      · simp [place]
    rw [none, kept, unreadIn_deleteMessages known, spared, unreadIn_congr same.messages same.deliveries, Nat.add_zero]

/-- A user is addressed at most once by a message to distinct users. -/
theorem countP_key {targets : List Uuid} (distinct : targets.Nodup) (sentTo : Uuid) {member : ConversationMember}
    {conversationId userId : Uuid} (key : member.key = (conversationId, userId)) :
    (targets.countP fun target => decide (member.key = (sentTo, target))) =
      if conversationId = sentTo ∧ userId ∈ targets then 1 else 0 := by
  rw [key]
  by_cases place : conversationId = sentTo
  · have column : (fun target => decide ((conversationId, userId) = (sentTo, target))) = (· == userId) := by
      funext target
      rw [Bool.eq_iff_iff, decide_eq_true_iff, beq_iff_eq, Prod.mk.injEq]
      exact ⟨fun both => both.2.symm, fun same => ⟨place, same.symm⟩⟩
    rw [column, ← List.count, distinct.count]
    simp [place]
  · have column : (fun target => decide ((conversationId, userId) = (sentTo, target))) = fun _ => false := by
      funext target
      exact decide_eq_false fun same => place (Prod.mk.inj same).1
    rw [column]
    simp [place]

section Sending
variable (now : Nat) (senderId sentTo : Uuid) (members : List ConversationMember) (ciphered : CipheredMessage)
  (uploads : List PendingUpload)

theorem persisted_deliveries : (persisted now senderId sentTo members ciphered uploads store).deliveries =
    store.deliveries ++ newDeliveries now store.nextId (store.nextId + 1) (recipients members senderId) := rfl

theorem persisted_messages : (persisted now senderId sentTo members ciphered uploads store).messages =
    store.messages ++ [newMessage now senderId sentTo ciphered store.nextId] := rfl

theorem persisted_later : store.nextId + 1 + (recipients members senderId).length ≤
    (persisted now senderId sentTo members ciphered uploads store).nextId := Nat.le_add_right _ _

theorem findMember_persisted (conversationId userId : Uuid) :
    findMember (persisted now senderId sentTo members ciphered uploads store) conversationId userId =
      (findMember store conversationId userId).map (countUnread sentTo (recipients members senderId)) := by
  have written : (persisted now senderId sentTo members ciphered uploads store).members =
      updateWhere (fun _ => true) (countUnread sentTo (recipients members senderId)) store.members := by
    unfold updateWhere
    simp only [if_true]
    rfl
  have keeps (member : ConversationMember) :
      (countUnread sentTo (recipients members senderId) member).key = member.key := rfl
  unfold findMember
  rw [written, lookup_updateWhere ConversationMember.key _ _ _ keeps]
  simp only [if_true]

/-- The counter of a member grows by one when the message addresses it. -/
theorem counterOf_persisted (distinct : (recipients members senderId).Nodup) {conversationId userId : Uuid}
    (present : (findMember store conversationId userId).isSome = true) :
    counterOf (persisted now senderId sentTo members ciphered uploads store) conversationId userId =
      counterOf store conversationId userId +
        if conversationId = sentTo ∧ userId ∈ recipients members senderId then 1 else 0 := by
  obtain ⟨member, found⟩ := Option.isSome_iff_exists.mp present
  have key : member.key = (conversationId, userId) := (lookup_mem ConversationMember.key found).2
  unfold counterOf
  rw [findMember_persisted, found, ← countP_key distinct sentTo key]
  rfl

theorem owns_persisted (known : MessagesKnown store) (conversationId : Uuid) :
    (persisted now senderId sentTo members ciphered uploads store).owns conversationId store.nextId = true ↔
      conversationId = sentTo := by
  rw [owns_iff, persisted_messages]
  constructor
  · rintro ⟨message, inside, place, id⟩
    obtain old | new := List.mem_append.mp inside
    · have spent := known.spent message old
      rw [id] at spent
      exact absurd spent (Nat.lt_irrefl _)
    · rw [List.mem_singleton.mp new] at place
      exact place.symm
  · rintro rfl
    exact ⟨_, List.mem_append_right _ (List.mem_singleton_self _), rfl, rfl⟩

/-- The message inserts one delivery for each user that it addresses. -/
theorem insertedFor_persisted (known : MessagesKnown store) (delivered : DeliveriesKnown store)
    (distinct : (recipients members senderId).Nodup) (conversationId userId : Uuid) :
    insertedFor store (persisted now senderId sentTo members ciphered uploads store) conversationId userId =
      if conversationId = sentTo ∧ userId ∈ recipients members senderId then 1 else 0 := by
  have old (condition : MessageDelivery → Bool) : (store.deliveries.countP fun delivery =>
      condition delivery && !(store.deliveries.any fun other => other.id == delivery.id)) = 0 := by
    rw [List.countP_eq_zero]
    intro delivery inside selected
    have listed : (store.deliveries.any fun other => other.id == delivery.id) = true :=
      List.any_eq_true.mpr ⟨delivery, inside, beq_self_eq_true _⟩
    rw [listed] at selected
    simp at selected
  have fresh : ∀ delivery ∈ newDeliveries now store.nextId (store.nextId + 1) (recipients members senderId),
      delivery.messageId = store.nextId ∧
        (store.deliveries.any fun other => other.id == delivery.id) = false := by
    intro delivery inside
    obtain ⟨message, -, -, first, -⟩ := mem_newDeliveries inside
    refine ⟨message, ?_⟩
    rw [List.any_eq_false]
    intro other present same
    have spent := (delivered.spent other present).1
    rw [beq_iff_eq.mp same] at spent
    exact Nat.lt_irrefl _ (Nat.lt_trans spent first)
  unfold insertedFor
  rw [persisted_deliveries, List.countP_append, old, Nat.zero_add]
  by_cases place : conversationId = sentTo
  · have owned := (owns_persisted now senderId sentTo members ciphered uploads known conversationId).mpr place
    have column : (newDeliveries now store.nextId (store.nextId + 1) (recipients members senderId)).countP
        (fun delivery => delivery.userId == userId &&
          (persisted now senderId sentTo members ciphered uploads store).owns conversationId delivery.messageId &&
          !(store.deliveries.any fun other => other.id == delivery.id)) =
        (newDeliveries now store.nextId (store.nextId + 1) (recipients members senderId)).countP
          ((· == userId) ∘ (·.userId)) := by
      apply List.countP_congr
      intro delivery inside
      obtain ⟨message, new⟩ := fresh delivery inside
      rw [message, owned, new]
      simp
    rw [column, ← List.countP_map, newDeliveries_users, ← List.count, distinct.count]
    simp [place]
  · rw [if_neg fun both => place both.1, List.countP_eq_zero]
    intro delivery inside selected
    simp only [Bool.and_eq_true] at selected
    rw [(fresh delivery inside).1] at selected
    exact place ((owns_persisted now senderId sentTo members ciphered uploads known conversationId).mp selected.1.2)

/-- The unread messages of a user grow by one when the message addresses the user. -/
theorem unreadIn_persisted (known : MessagesKnown store) (delivered : DeliveriesKnown store)
    (conversationId userId : Uuid) :
    unreadIn (persisted now senderId sentTo members ciphered uploads store) conversationId userId =
      unreadIn store conversationId userId +
        if conversationId = sentTo ∧ userId ∈ recipients members senderId then 1 else 0 := by
  have old : ∀ message ∈ store.messages,
      isUnread (persisted now senderId sentTo members ciphered uploads store) userId message.id =
        isUnread store userId message.id := by
    intro message inside
    unfold isUnread
    rw [persisted_deliveries, List.any_append]
    have none : (newDeliveries now store.nextId (store.nextId + 1) (recipients members senderId)).any
        (fun delivery => delivery.messageId == message.id && delivery.userId == userId &&
          delivery.status != .read) = false := by
      rw [List.any_eq_false]
      intro delivery new selected
      simp only [Bool.and_eq_true, beq_iff_eq] at selected
      have spent := known.spent message inside
      rw [← selected.1.1, (mem_newDeliveries new).1] at spent
      exact Nat.lt_irrefl _ spent
    rw [none, Bool.or_false]
  have new : isUnread (persisted now senderId sentTo members ciphered uploads store) userId store.nextId = true ↔
      userId ∈ recipients members senderId := by
    unfold isUnread
    rw [List.any_eq_true]
    constructor
    · rintro ⟨delivery, inside, selected⟩
      simp only [Bool.and_eq_true, beq_iff_eq] at selected
      rw [persisted_deliveries, List.mem_append] at inside
      obtain before | added := inside
      · have spent := (delivered.spent delivery before).2
        rw [selected.1.1] at spent
        exact absurd spent (Nat.lt_irrefl _)
      · rw [← selected.1.2]
        exact (mem_newDeliveries added).2.2.1
    · intro addressed
      rw [← newDeliveries_users now store.nextId (store.nextId + 1) (recipients members senderId)] at addressed
      obtain ⟨delivery, inside, same⟩ := List.mem_map.mp addressed
      refine ⟨delivery, List.mem_append_right _ inside, ?_⟩
      obtain ⟨message, status, -⟩ := mem_newDeliveries inside
      rw [message, status, same]
      simp
  unfold unreadIn unreadAmong
  rw [persisted_messages, List.countP_append, List.countP_singleton]
  congr 1
  · apply List.countP_congr
    intro message inside
    rw [old message inside]
  · unfold newMessage
    by_cases place : conversationId = sentTo
    · by_cases addressed : userId ∈ recipients members senderId
      · simp [place, new.mpr addressed, addressed]
      · simp [addressed, Bool.eq_false_iff.mpr (mt new.mp addressed)]
    · have apart : (sentTo == conversationId) = false := beq_eq_false_iff_ne.mpr (Ne.symm place)
      simp [place, apart]

end Sending

/-- A message to distinct members raises their counters with the deliveries. -/
theorem CountsFollow.send (same : SameCounts store between) (known : MessagesKnown between)
    (delivered : DeliveriesKnown between) {members : List ConversationMember} {senderId : Uuid}
    (distinct : (recipients members senderId).Nodup) (now : Nat) (sentTo : Uuid) (ciphered : CipheredMessage)
    (uploads : List PendingUpload) :
    CountsFollow store (persisted now senderId sentTo members ciphered uploads between) := by
  constructor
  · intro conversationId userId found
    rw [findMember_persisted, Option.isSome_map] at found
    rw [insertedFor_congr same.deliveries, insertedFor_persisted _ _ _ _ _ _ known delivered distinct,
      counterOf_persisted _ _ _ _ _ _ distinct found, same.counters]
  · intro conversationId userId _
    rw [insertedFor_congr same.deliveries, insertedFor_persisted _ _ _ _ _ _ known delivered distinct,
      unreadIn_persisted _ _ _ _ _ _ known delivered, unreadIn_congr same.messages same.deliveries]

end Writes

end Messinger
