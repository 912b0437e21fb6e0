import Messinger.Library.Ordered
import Messinger.Proof.HistoryPages

namespace Messinger
open Library ConversationMemberRepository MessageService

theorem getTime_jsDate (time : Nat) : getTime (jsDate time) = getTime time := by
  unfold getTime jsDate
  omega

/-- The soft deletion is read as a date. -/
theorem jsDate_lastDeletedAt {store : Store} {conversationId userId : Uuid} {deleted : Nat}
    (found : lastDeletedAt store conversationId userId = some deleted) : jsDate deleted = deleted := by
  obtain ⟨time, -, rfl⟩ := Option.map_eq_some_iff.mp found
  unfold jsDate
  omega

/-- The answer is a page of the rows of the two queries. -/
theorem getConversationMessages_of_readable {platform : Platform} {store : Store} {userId : Uuid}
    {dto : GetConversationMessagesDto} (readable : Readable platform store dto.conversationId) :
    getConversationMessages platform store userId dto =
      .ok (paginateHistory dto.limit
        ((MessageRepository.findByConversation store dto.conversationId dto.limit dto.cursor
            (lastDeletedAt store dto.conversationId userId)).map (readItem platform store) ++
          (ConversationEventRepository.findByConversation store dto.conversationId dto.limit
            dto.cursor).map eventItem)) := by
  have read := mapM_eq_map (messageItem platform store) (readItem platform store)
    (MessageRepository.findByConversation store dto.conversationId dto.limit dto.cursor
      (lastDeletedAt store dto.conversationId userId)) (by
      intro message inside
      obtain ⟨row, same, -⟩ := mem_findByConversation inside
      exact messageItem_of_readable (readable message row same))
  unfold getConversationMessages
  change (do
    let items ← (MessageRepository.findByConversation store dto.conversationId dto.limit dto.cursor
      (lastDeletedAt store dto.conversationId userId)).mapM (messageItem platform store)
    return paginateHistory dto.limit (items ++ (ConversationEventRepository.findByConversation store
      dto.conversationId dto.limit dto.cursor).map eventItem)) = _
  rw [read]
  rfl

section Deletion
variable (store : Store) (doomed : Message → Bool)

/-- Deleting changes nothing but messages when no other row refers to a doomed message. -/
theorem deleteMessages_of_unreferenced
    (deliveries : ∀ delivery ∈ store.deliveries, ∀ message ∈ store.messages,
      message.id = delivery.messageId → doomed message = false)
    (attachments : ∀ attachment ∈ store.attachments, ∀ message ∈ store.messages,
      message.id = attachment.messageId → doomed message = false)
    (conversations : ∀ conversation ∈ store.conversations, ∀ message ∈ store.messages,
      conversation.lastMessageId = some message.id → doomed message = false) :
    store.deleteMessages doomed =
      { store with messages := store.messages.filter fun message => !doomed message } := by
  have kept : ∀ id, (∀ message ∈ store.messages, message.id = id → doomed message = false) →
      (store.messages.any fun message => message.id == id && doomed message) = false := by
    intro id safe
    rw [List.any_eq_false]
    intro message inside selected
    simp only [Bool.and_eq_true, beq_iff_eq] at selected
    rw [safe message inside selected.1] at selected
    cases selected.2
  unfold Store.deleteMessages
  simp only
  congr 1
  · refine (List.map_congr_left ?_).trans (List.map_id _)
    intro conversation inside
    cases last : conversation.lastMessageId with
    | none => simp
    | some id =>
        have safe := kept id fun message present same =>
          conversations conversation inside message present (by rw [last, same])
        simp [safe]
  · rw [List.filter_eq_self]
    intro delivery inside
    rw [kept delivery.messageId (deliveries delivery inside)]
    rfl
  · rw [List.filter_eq_self]
    intro attachment inside
    rw [kept attachment.messageId (attachments attachment inside)]
    rfl

end Deletion

section Queries
variable {store : Store} {conversationId userId : Uuid} {limit : Nat} {cursor : Option Uuid}

theorem events_congr {first second : Store} (same : second.events = first.events)
    (conversationId : Uuid) (limit : Nat) (cursor : Option Uuid) :
    ConversationEventRepository.findByConversation second conversationId limit cursor =
      ConversationEventRepository.findByConversation first conversationId limit cursor := by
  unfold ConversationEventRepository.findByConversation ConversationEventRepository.cursorCreatedAt
  rw [same]

theorem lastDeletedAt_congr {first second : Store} (same : second.members = first.members)
    (conversationId userId : Uuid) :
    lastDeletedAt second conversationId userId = lastDeletedAt first conversationId userId := by
  unfold lastDeletedAt
  rw [findMember_congr same]

/-- A cursor that names a message finds the date of that message. -/
theorem cursorCreatedAt_of_mem (distinct : (store.messages.map Message.id).Nodup) {message : Message}
    (inside : message ∈ store.messages) (place : message.conversationId = conversationId) :
    MessageRepository.cursorCreatedAt store conversationId (some message.id) =
      some (jsDate message.createdAt) := by
  unfold MessageRepository.cursorCreatedAt
  rw [Option.bind_some]
  cases found : store.messages.find? fun row =>
      row.id == message.id && row.conversationId == conversationId with
  | none =>
      have missing := List.find?_eq_none.mp found message inside
      simp [place] at missing
  | some row =>
      have selected := List.find?_some found
      simp only [Bool.and_eq_true, beq_iff_eq] at selected
      rw [List.inj_on_of_nodup_map distinct (List.mem_of_find?_eq_some found) inside selected.1]
      rfl

/-- Before a message that is no newer than the soft deletion, the query finds nothing. -/
theorem findByConversation_eq_nil {deleted date : Nat}
    (found : MessageRepository.cursorCreatedAt store conversationId cursor = some date)
    (before : date ≤ deleted) :
    MessageRepository.findByConversation store conversationId limit cursor (some deleted) = [] := by
  unfold MessageRepository.findByConversation
  rw [found]
  have empty : (store.messages.filter fun message => message.conversationId == conversationId &&
      (some deleted).all (fun deleted => decide (deleted < message.createdAt)) &&
      (some date).all (fun date => decide (message.createdAt < date))) = [] := by
    rw [List.filter_eq_nil_iff]
    intro message _ selected
    simp only [Option.all_some, Bool.and_eq_true, decide_eq_true_eq] at selected
    omega
  simp only [empty, List.insertionSort_nil, List.take_nil]

end Queries

/-- A page that events fill does not depend on later messages. -/
theorem paginateHistory_of_events {limit : Nat} {messages events : List HistoryItem}
    (full : events.length = limit + 1)
    (older : ∀ message ∈ messages, ∀ event ∈ events,
      getTime event.createdAt < getTime message.createdAt) :
    paginateHistory limit (messages ++ events) = paginateHistory limit events := by
  have sorted := sortBy_append_of_lt (fun item : HistoryItem => getTime item.createdAt) older
  have length : (sortBy (fun item : HistoryItem => getTime item.createdAt) events).length = limit + 1 := by
    rw [List.length_insertionSort, full]
  have page : (sortBy (fun item : HistoryItem => getTime item.createdAt) (messages ++ events)).take
      (limit + 1) = sortBy (fun item : HistoryItem => getTime item.createdAt) events := by
    rw [sorted, ← length, List.take_left]
  have same : (sortBy (fun item : HistoryItem => getTime item.createdAt) events).take (limit + 1) =
      sortBy (fun item : HistoryItem => getTime item.createdAt) events := by
    rw [← length, List.take_length]
  unfold paginateHistory
  simp only [page, same, List.length_insertionSort, List.length_append, full]
  rw [if_pos (by omega), if_pos (by omega)]

end Messinger
