import Mathlib.Data.Fintype.EquivFin
import Messinger.Model.ConversationCalls
import Messinger.Proof.HistoryQueries

namespace Messinger
open Library ConversationMemberRepository MessageService

/-- A user who is not an active member was never entitled to a message of the conversation without a
membership row, nor to one that is newer than the soft deletion of the row. -/
def unentitled (store : Store) (conversationId userId : Uuid) (message : Message) : Bool :=
  !existsMember store conversationId userId && (message.conversationId == conversationId &&
    (lastDeletedAt store conversationId userId).all fun deleted => decide (deleted < message.createdAt))

/-- Without the unentitled messages and what refers to them, the two stores are the same. -/
def DifferInUnentitled (conversationId userId : Uuid) (first second : Store) : Prop :=
  first.deleteMessages (unentitled first conversationId userId) =
    second.deleteMessages (unentitled first conversationId userId)

/-- Message identifiers are distinct, and the service can read the messages. -/
structure Legible (platform : Platform) (conversationId : Uuid) (store : Store) : Prop where
  distinct : (store.messages.map Message.id).Nodup
  readable : Readable platform store conversationId

/-- This is the sealed empty message that distinguishes two stores. -/
def probe (platform : Platform) (conversationId id : Uuid) (createdAt : Nat) : Message :=
  let sealed := cipherMessage platform { now := 0 } []
  { id, conversationId, senderId := none, cipheredContent := sealed.cipheredContent, iv := sealed.iv,
    authTag := sealed.authTag, createdAt }

/-- This is the store without the messages to which the user was never entitled. -/
def entitledPart (store : Store) (conversationId userId : Uuid) : Store :=
  store.deleteMessages (unentitled store conversationId userId)

def addMessage (store : Store) (message : Message) : Store :=
  { store with messages := store.messages ++ [message] }

/-- Some identifier names no message and is neither the cursor nor referred to. -/
theorem exists_fresh_message (store : Store) (cursor : Option Uuid) :
    ∃ id : Uuid, cursor ≠ some id ∧ (∀ message ∈ store.messages, message.id ≠ id) ∧
      (∀ delivery ∈ store.deliveries, delivery.messageId ≠ id) ∧
      (∀ attachment ∈ store.attachments, attachment.messageId ≠ id) ∧
      ∀ conversation ∈ store.conversations, conversation.lastMessageId ≠ some id := by
  obtain ⟨id, fresh⟩ := Infinite.exists_notMem_finset (cursor.toList ++ store.messages.map Message.id ++
    store.deliveries.map MessageDelivery.messageId ++ store.attachments.map MessageAttachment.messageId ++
    store.conversations.filterMap Conversation.lastMessageId).toFinset
  simp only [List.mem_toFinset, List.mem_append, Option.mem_toList, List.mem_map, List.mem_filterMap,
    not_or, not_exists, not_and] at fresh
  obtain ⟨⟨⟨⟨notCursor, notMessage⟩, notDelivery⟩, notAttachment⟩, notLast⟩ := fresh
  exact ⟨id, notCursor, notMessage, notDelivery, notAttachment, notLast⟩

theorem probe_readable {platform : Platform} (opens : platform.Opens) (conversationId id : Uuid)
    (createdAt : Nat) :
    (decipherMessage platform (probe platform conversationId id createdAt).cipheredContent
      (probe platform conversationId id createdAt).iv
      (probe platform conversationId id createdAt).authTag).isOk = true := by
  unfold probe decipherMessage cipherMessage
  simp only [opens.base64, opens.aes]
  rfl

section Distinguish
variable {platform : Platform} {store : Store} {conversationId userId : Uuid}

theorem mem_entitledPart {message : Message}
    (inside : message ∈ (entitledPart store conversationId userId).messages) :
    message ∈ store.messages ∧ unentitled store conversationId userId message = false := by
  obtain ⟨present, kept⟩ := List.mem_filter.mp inside
  exact ⟨present, by simpa using kept⟩

/-- The store without the unentitled messages differs in them only. -/
theorem differ_entitledPart :
    DifferInUnentitled conversationId userId store (entitledPart store conversationId userId) := by
  have same : (entitledPart store conversationId userId).messages.filter
      (fun message => !unentitled store conversationId userId message) =
        (entitledPart store conversationId userId).messages := by
    rw [List.filter_eq_self]
    intro message inside
    rw [(mem_entitledPart inside).2]
    rfl
  unfold DifferInUnentitled
  rw [deleteMessages_of_unreferenced (entitledPart store conversationId userId) _
    (fun _ _ message inside _ => (mem_entitledPart inside).2)
    (fun _ _ message inside _ => (mem_entitledPart inside).2)
    (fun _ _ message inside _ => (mem_entitledPart inside).2), same]
  rfl

/-- Adding one unentitled message to it under a fresh identifier still differs in them only. -/
theorem differ_addMessage {message : Message}
    (hidden : unentitled store conversationId userId message = true)
    (deliveries : ∀ delivery ∈ store.deliveries, delivery.messageId ≠ message.id)
    (attachments : ∀ attachment ∈ store.attachments, attachment.messageId ≠ message.id)
    (conversations : ∀ conversation ∈ store.conversations,
      conversation.lastMessageId ≠ some message.id) :
    DifferInUnentitled conversationId userId store
      (addMessage (entitledPart store conversationId userId) message) := by
  have known : ∀ other ∈ (addMessage (entitledPart store conversationId userId) message).messages,
      other.id ≠ message.id → unentitled store conversationId userId other = false := by
    intro other inside different
    obtain old | new := List.mem_append.mp inside
    · exact (mem_entitledPart old).2
    · exact absurd (congrArg Message.id (List.mem_singleton.mp new)) different
  have same : (addMessage (entitledPart store conversationId userId) message).messages.filter
      (fun other => !unentitled store conversationId userId other) =
        (entitledPart store conversationId userId).messages := by
    unfold addMessage
    rw [List.filter_append, List.filter_cons_of_neg (by simp [hidden]), List.filter_nil,
      List.append_nil, List.filter_eq_self]
    intro other inside
    rw [(mem_entitledPart inside).2]
    rfl
  unfold DifferInUnentitled
  rw [deleteMessages_of_unreferenced (addMessage (entitledPart store conversationId userId) message),
    same]
  · rfl
  · intro delivery inside other present equal
    apply known other present
    rw [equal]
    exact deliveries delivery (List.mem_filter.mp inside).1
  · intro attachment inside other present equal
    apply known other present
    rw [equal]
    exact attachments attachment (List.mem_filter.mp inside).1
  · intro conversation inside other present equal
    apply known other present
    intro same
    obtain ⟨old, oldInside, changed⟩ := List.mem_map.mp inside
    rw [same, ← changed] at equal
    split at equal
    · cases equal
    · exact conversations old oldInside equal

theorem legible_entitledPart (legible : Legible platform conversationId store) :
    Legible platform conversationId (entitledPart store conversationId userId) := by
  refine ⟨legible.distinct.sublist (List.filter_sublist.map _), ?_⟩
  intro message inside place
  exact legible.readable message (mem_entitledPart inside).1 place

theorem legible_addMessage {message : Message} (legible : Legible platform conversationId store)
    (fresh : ∀ other ∈ store.messages, other.id ≠ message.id)
    (readable : (decipherMessage platform message.cipheredContent message.iv message.authTag).isOk = true) :
    Legible platform conversationId (addMessage store message) := by
  constructor
  · unfold addMessage
    rw [List.map_append, List.nodup_append]
    refine ⟨legible.distinct, List.nodup_singleton _, ?_⟩
    intro first old second new same
    obtain ⟨other, inside, equal⟩ := List.mem_map.mp old
    rw [List.map_singleton, List.mem_singleton] at new
    exact fresh other inside (by rw [equal, same, new])
  · intro other inside place
    obtain old | new := List.mem_append.mp inside
    · exact legible.readable other old place
    · rw [List.mem_singleton.mp new]
      exact readable

/-- No message that the user was entitled to passes the filter of the query. -/
theorem entitled_not_selected (inactive : existsMember store conversationId userId = false)
    {message : Message} {date : Option Nat}
    (inside : message ∈ (entitledPart store conversationId userId).messages) :
    (message.conversationId == conversationId &&
      (lastDeletedAt store conversationId userId).all (fun deleted => decide (deleted < message.createdAt)) &&
      date.all (fun date => decide (message.createdAt < date))) = false := by
  have entitled := (mem_entitledPart inside).2
  unfold unentitled at entitled
  rw [inactive, Bool.not_false, Bool.true_and] at entitled
  rw [entitled, Bool.false_and]

/-- Without the unentitled messages, the query finds nothing. -/
theorem findByConversation_entitledPart (inactive : existsMember store conversationId userId = false)
    {limit : Nat} {cursor : Option Uuid} :
    MessageRepository.findByConversation (entitledPart store conversationId userId) conversationId limit
      cursor (lastDeletedAt store conversationId userId) = [] := by
  have empty : ∀ date : Option Nat,
      (entitledPart store conversationId userId).messages.filter (fun message =>
        message.conversationId == conversationId &&
          (lastDeletedAt store conversationId userId).all
            (fun deleted => decide (deleted < message.createdAt)) &&
          date.all (fun date => decide (message.createdAt < date))) = [] := by
    intro date
    rw [List.filter_eq_nil_iff]
    intro message inside selected
    rw [entitled_not_selected inactive inside] at selected
    cases selected
  unfold MessageRepository.findByConversation
  simp only [empty, List.insertionSort_nil, List.take_nil]

/-- With one unentitled message and no date of the cursor, the query finds that message. -/
theorem findByConversation_addMessage (inactive : existsMember store conversationId userId = false)
    {limit : Nat} {cursor : Option Uuid} {message : Message}
    (hidden : unentitled store conversationId userId message = true)
    (undated : MessageRepository.cursorCreatedAt
      (addMessage (entitledPart store conversationId userId) message) conversationId cursor = none) :
    MessageRepository.findByConversation (addMessage (entitledPart store conversationId userId) message)
      conversationId limit cursor (lastDeletedAt store conversationId userId) = [message] := by
  have found : ((entitledPart store conversationId userId).messages ++ [message]).filter
      (fun message => message.conversationId == conversationId &&
        (lastDeletedAt store conversationId userId).all
          (fun deleted => decide (deleted < message.createdAt)) &&
        (none : Option Nat).all (fun date => decide (message.createdAt < date))) = [message] := by
    rw [List.filter_append, List.filter_eq_nil_iff.mpr, List.nil_append, List.filter_eq_self]
    · intro other inside
      obtain rfl := List.mem_singleton.mp inside
      unfold unentitled at hidden
      rw [inactive, Bool.not_false, Bool.true_and] at hidden
      rw [hidden]
      rfl
    · intro other inside selected
      rw [entitled_not_selected inactive inside] at selected
      cases selected
  have single : [message].length ≤ limit + 1 := Nat.le_add_left 1 limit
  unfold MessageRepository.findByConversation
  rw [undated]
  unfold addMessage
  simp only [found]
  exact List.take_of_length_le single

/-- A cursor that names no entitled message has no date there. -/
theorem cursorCreatedAt_addMessage {cursor : Option Uuid} {message : Message}
    (fresh : cursor ≠ some message.id)
    (unknown : ∀ other ∈ store.messages, cursor = some other.id →
      other.conversationId = conversationId → unentitled store conversationId userId other = true) :
    MessageRepository.cursorCreatedAt (addMessage (entitledPart store conversationId userId) message)
      conversationId cursor = none := by
  unfold MessageRepository.cursorCreatedAt
  cases cursor with
  | none => rfl
  | some id =>
      rw [Option.bind_some, Option.map_eq_none_iff, List.find?_eq_none]
      intro other inside matched
      simp only [Bool.and_eq_true, beq_iff_eq] at matched
      obtain old | new := List.mem_append.mp inside
      · obtain ⟨present, kept⟩ := mem_entitledPart old
        rw [unknown other present (by rw [matched.1]) matched.2] at kept
        cases kept
      · rw [List.mem_singleton.mp new] at matched
        exact fresh (by rw [matched.1])

end Distinguish

/-- Without messages the page shows none, and with one message that has room the page shows it. -/
theorem paginateHistory_shows {limit : Nat} (item : HistoryItem) {events : List ConversationEvent}
    (isMessage : item.isMessage = true)
    (room : events.length < limit + 1 ∨
      ∃ event ∈ events, getTime item.createdAt ≤ getTime event.createdAt ∧ events.length ≤ limit + 1) :
    paginateHistory limit (item :: events.map eventItem) ≠ paginateHistory limit (events.map eventItem) := by
  intro same
  have shown : item ∈ (paginateHistory limit (item :: events.map eventItem)).page := by
    apply mem_take_sortBy_cons (fun item : HistoryItem => getTime item.createdAt)
    rw [List.length_map]
    obtain fewer | ⟨event, inside, tie, fits⟩ := room
    · exact .inl fewer
    · refine .inr ⟨eventItem event, List.mem_map_of_mem inside, ?_, fits⟩
      change getTime item.createdAt ≤ getTime (jsDate event.createdAt)
      rw [getTime_jsDate]
      exact tie
  rw [same] at shown
  have present := (List.mem_insertionSort _).mp (List.mem_of_mem_take shown)
  obtain ⟨event, -, equal⟩ := List.mem_map.mp present
  rw [← equal] at isMessage
  cases isMessage

end Messinger
