import Messinger.Model.RetentionCalls
import Messinger.Proof.FileDeletions
import Messinger.Proof.GroupAuthority

namespace Messinger
open Library ConversationMemberRepository ConversationRepository ConversationService MessageService
  MessageDeliveryRepository StorageService

/-- Delivery rows have their own identifiers, and a user has at most one row for a message. -/
structure DeliveriesKnown (store : Store) : Prop where
  distinct : (store.deliveries.map MessageDelivery.id).Nodup
  single : (store.deliveries.map fun delivery => (delivery.messageId, delivery.userId)).Nodup
  spent : ∀ delivery ∈ store.deliveries, delivery.id < store.nextId ∧ delivery.messageId < store.nextId

/-- Members, messages and deliveries have distinct keys, and all of them are spent. -/
structure CountsKnown (store : Store) : Prop where
  chartered : Chartered store
  messages : MessagesKnown store
  deliveries : DeliveriesKnown store

/-- This is the counter of the member, and a user without a row counts as zero. -/
def counterOf (store : Store) (conversationId userId : Uuid) : Nat :=
  ((findMember store conversationId userId).map (·.unreadCount)).getD 0

/-- The user has a delivery of the message that is not read. -/
def isUnread (store : Store) (userId messageId : Uuid) : Bool :=
  store.deliveries.any fun delivery =>
    delivery.messageId == messageId && delivery.userId == userId && delivery.status != .read

/-- This is the number of selected messages of the conversation that the user has not read. -/
def unreadAmong (store : Store) (selected : Message → Bool) (conversationId userId : Uuid) : Nat :=
  store.messages.countP fun message =>
    message.conversationId == conversationId && isUnread store userId message.id && selected message

/-- This is the number of messages stored in the conversation that the user has not read. -/
def unreadIn (store : Store) (conversationId userId : Uuid) : Nat :=
  unreadAmong store (fun _ => true) conversationId userId

/-- This is the number of deliveries to the user that messages of the conversation have gained. -/
def insertedFor (store next : Store) (conversationId userId : Uuid) : Nat :=
  next.deliveries.countP fun delivery =>
    delivery.userId == userId && next.owns conversationId delivery.messageId &&
      !(store.deliveries.any fun old => old.id == delivery.id)

section Deliveries
variable {store next : Store}

theorem DeliveriesKnown.of_same (known : DeliveriesKnown store) (same : next.deliveries = store.deliveries)
    (later : store.nextId ≤ next.nextId) : DeliveriesKnown next := by
  constructor
  · rw [same]
    exact known.distinct
  · rw [same]
    exact known.single
  · intro delivery inside
    rw [same] at inside
    obtain ⟨id, message⟩ := known.spent delivery inside
    exact ⟨Nat.lt_of_lt_of_le id later, Nat.lt_of_lt_of_le message later⟩

theorem DeliveriesKnown.filter (known : DeliveriesKnown store) {keep : MessageDelivery → Bool}
    (less : next.deliveries = store.deliveries.filter keep) (later : store.nextId ≤ next.nextId) :
    DeliveriesKnown next := by
  constructor
  · rw [less]
    exact known.distinct.sublist (List.filter_sublist.map _)
  · rw [less]
    exact known.single.sublist (List.filter_sublist.map _)
  · intro delivery inside
    rw [less] at inside
    obtain ⟨id, message⟩ := known.spent delivery (List.mem_filter.mp inside).1
    exact ⟨Nat.lt_of_lt_of_le id later, Nat.lt_of_lt_of_le message later⟩

/-- A change of status keeps what the rows are about. -/
theorem DeliveriesKnown.update (known : DeliveriesKnown store) {matching : MessageDelivery → Bool}
    {change : MessageDelivery → MessageDelivery}
    (keeps : ∀ row, (change row).id = row.id ∧ (change row).messageId = row.messageId ∧
      (change row).userId = row.userId)
    (changed : next.deliveries = updateWhere matching change store.deliveries) (later : store.nextId ≤ next.nextId) :
    DeliveriesKnown next := by
  constructor
  · rw [changed, map_updateWhere _ _ _ fun row => (keeps row).1]
    exact known.distinct
  · rw [changed, map_updateWhere _ _ _ fun row => by rw [(keeps row).2.1, (keeps row).2.2]]
    exact known.single
  · intro delivery inside
    rw [changed, mem_updateWhere] at inside
    obtain ⟨old, present, equal⟩ := inside
    have same : delivery.id = old.id ∧ delivery.messageId = old.messageId := by
      rw [equal]
      split
      · exact ⟨(keeps old).1, (keeps old).2.1⟩
      · exact ⟨rfl, rfl⟩
    rw [same.1, same.2]
    obtain ⟨id, message⟩ := known.spent old present
    exact ⟨Nat.lt_of_lt_of_le id later, Nat.lt_of_lt_of_le message later⟩

/-- These are the deliveries that a new message inserts. -/
def newDeliveries (now : Nat) (messageId first : Uuid) (userIds : List Uuid) : List MessageDelivery :=
  userIds.zipIdx.map fun (userId, index) =>
    { id := first + index, messageId, userId, status := .sent, createdAt := now }

theorem newDeliveries_users (now : Nat) (messageId first : Uuid) (userIds : List Uuid) :
    (newDeliveries now messageId first userIds).map (·.userId) = userIds := by
  unfold newDeliveries
  rw [List.map_map]
  exact List.zipIdx_map_fst 0 userIds

theorem newDeliveries_ids (now : Nat) (messageId first : Uuid) (userIds : List Uuid) :
    (newDeliveries now messageId first userIds).map MessageDelivery.id =
      (List.range' 0 userIds.length).map (first + ·) := by
  unfold newDeliveries
  rw [← List.zipIdx_map_snd 0 userIds, List.map_map, List.map_map]
  rfl

theorem mem_newDeliveries {now : Nat} {messageId first : Uuid} {userIds : List Uuid} {delivery : MessageDelivery}
    (inside : delivery ∈ newDeliveries now messageId first userIds) :
    delivery.messageId = messageId ∧ delivery.status = .sent ∧ delivery.userId ∈ userIds ∧
      first ≤ delivery.id ∧ delivery.id < first + userIds.length := by
  obtain ⟨⟨userId, index⟩, listed, rfl⟩ := List.mem_map.mp inside
  obtain ⟨-, bound, same⟩ := List.mem_zipIdx listed
  refine ⟨rfl, rfl, ?_, Nat.le_add_right _ _, ?_⟩
  · rw [same]
    exact List.getElem_mem _
  · simp only [Nat.zero_add] at bound
    exact Nat.add_lt_add_left bound first

/-- The deliveries of a new message take new identifiers. -/
theorem DeliveriesKnown.append (known : DeliveriesKnown store) {now : Nat} {userIds : List Uuid}
    (targets : userIds.Nodup)
    (more : next.deliveries = store.deliveries ++ newDeliveries now store.nextId (store.nextId + 1) userIds)
    (later : store.nextId + 1 + userIds.length ≤ next.nextId) : DeliveriesKnown next := by
  constructor
  · rw [more, List.map_append, List.nodup_append]
    refine ⟨known.distinct, ?_, ?_⟩
    · rw [newDeliveries_ids]
      exact (List.nodup_range').map fun _ _ same => Nat.add_left_cancel same
    · intro old left new right same
      obtain ⟨delivery, present, rfl⟩ := List.mem_map.mp left
      obtain ⟨added, inside, rfl⟩ := List.mem_map.mp right
      have first := (mem_newDeliveries inside).2.2.2.1
      have spent := (known.spent delivery present).1
      rw [same] at spent
      exact Nat.lt_irrefl _ (Nat.lt_of_lt_of_le (Nat.lt_trans spent (Nat.lt_succ_self _)) first)
  · rw [more, List.map_append, List.nodup_append]
    refine ⟨known.single, ?_, ?_⟩
    · apply List.Nodup.of_map Prod.snd
      rw [List.map_map]
      change ((newDeliveries now store.nextId (store.nextId + 1) userIds).map (·.userId)).Nodup
      rw [newDeliveries_users]
      exact targets
    · intro old left new right same
      obtain ⟨delivery, present, rfl⟩ := List.mem_map.mp left
      obtain ⟨added, inside, rfl⟩ := List.mem_map.mp right
      have place := (mem_newDeliveries inside).1
      have spent := (known.spent delivery present).2
      have equal := congrArg Prod.fst same
      simp only at equal
      rw [equal, place] at spent
      exact Nat.lt_irrefl _ spent
  · have bound : store.nextId < next.nextId := Nat.le_trans (Nat.le_add_right _ _) later
    intro delivery inside
    rw [more, List.mem_append] at inside
    obtain old | new := inside
    · obtain ⟨id, message⟩ := known.spent delivery old
      exact ⟨Nat.lt_trans id bound, Nat.lt_trans message bound⟩
    · obtain ⟨message, -, -, -, id⟩ := mem_newDeliveries new
      rw [message]
      exact ⟨Nat.lt_of_lt_of_le id later, bound⟩

end Deliveries

end Messinger
