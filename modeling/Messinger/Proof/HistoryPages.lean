import Messinger.Proof.Calls

namespace Messinger
open Library ConversationMemberRepository

/-- Every result of a successful traversal comes from an element of the list. -/
theorem mem_of_mapM_ok {A B : Type} {visit : A → Except Exception B} {list : List A} {results : List B}
    (done : list.mapM visit = .ok results) {result : B} (inside : result ∈ results) :
    ∃ element ∈ list, visit element = .ok result := by
  induction list generalizing results with
  | nil =>
      cases done
      cases inside
  | cons head tail ih =>
      rw [List.mapM_cons] at done
      obtain ⟨first, visited, rest⟩ := ok_of_bind done
      obtain ⟨others, traversed, last⟩ := ok_of_bind rest
      cases last
      obtain rfl | later := List.mem_cons.mp inside
      · exact ⟨head, List.mem_cons_self, visited⟩
      · obtain ⟨element, present, equal⟩ := ih traversed later
        exact ⟨element, List.mem_cons_of_mem head present, equal⟩

/-- A traversal that succeeds on every element is a map. -/
theorem mapM_eq_map {A B : Type} (visit : A → Except Exception B) (result : A → B) (list : List A)
    (succeeds : ∀ element ∈ list, visit element = .ok (result element)) :
    list.mapM visit = .ok (list.map result) := by
  induction list with
  | nil => rfl
  | cons head tail ih =>
      rw [List.mapM_cons, succeeds head List.mem_cons_self,
        ih fun element inside => succeeds element (List.mem_cons_of_mem head inside)]
      rfl

namespace MessageService

/-- This is the date that the message query filters on. -/
def lastDeletedAt (store : Store) (conversationId userId : Uuid) : Option Nat :=
  ((findMember store conversationId userId).bind (·.softDeletedAt)).map jsDate

def HistoryItem.isMessage : HistoryItem → Bool
  | .message _ _ _ _ _ _ => true
  | .event _ _ _ _ _ _ => false

/-- This is the item of a message, with its content where the cipher text can be read. -/
def readItem (platform : Platform) (store : Store) (message : Message) : HistoryItem :=
  .message message.id message.conversationId message.senderId (jsDate message.createdAt)
    (store.attachmentsOf message.id)
    (match decipherMessage platform message.cipheredContent message.iv message.authTag with
      | .ok content => content
      | .error _ => [])

/-- The service can read every message of the conversation. -/
def Readable (platform : Platform) (store : Store) (conversationId : Uuid) : Prop :=
  ∀ message ∈ store.messages, message.conversationId = conversationId →
    (decipherMessage platform message.cipheredContent message.iv message.authTag).isOk = true

theorem messageItem_ok {platform : Platform} {store : Store} {message : Message} {item : HistoryItem}
    (read : messageItem platform store message = .ok item) :
    item = readItem platform store message := by
  obtain ⟨content, deciphered, rest⟩ := ok_of_bind read
  cases rest
  rw [readItem, deciphered]

theorem messageItem_of_readable {platform : Platform} {store : Store} {message : Message}
    (readable : (decipherMessage platform message.cipheredContent message.iv
      message.authTag).isOk = true) :
    messageItem platform store message = .ok (readItem platform store message) := by
  unfold messageItem readItem
  cases deciphered : decipherMessage platform message.cipheredContent message.iv message.authTag with
  | error exception =>
      rw [deciphered] at readable
      cases readable
  | ok content => rfl

theorem mem_findByConversation {store : Store} {conversationId : Uuid} {limit : Nat}
    {cursor : Option Uuid} {deletedAt : Option Nat} {message : Message}
    (inside : message ∈
      MessageRepository.findByConversation store conversationId limit cursor deletedAt) :
    message ∈ store.messages ∧ message.conversationId = conversationId ∧
      ∀ deleted, deletedAt = some deleted → deleted < message.createdAt := by
  have present := (List.mem_insertionSort _).mp (List.mem_of_mem_take inside)
  obtain ⟨row, selected⟩ := List.mem_filter.mp present
  simp only [Bool.and_eq_true, beq_iff_eq] at selected
  refine ⟨row, selected.1.1, ?_⟩
  intro deleted same
  have later := selected.1.2
  rw [same] at later
  simpa using later

theorem mem_eventsByConversation {store : Store} {conversationId : Uuid} {limit : Nat}
    {cursor : Option Uuid} {event : ConversationEvent}
    (inside : event ∈ ConversationEventRepository.findByConversation store conversationId limit cursor) :
    event ∈ store.events ∧ event.conversationId = conversationId := by
  have present := (List.mem_insertionSort _).mp (List.mem_of_mem_take inside)
  obtain ⟨row, selected⟩ := List.mem_filter.mp present
  simp only [Bool.and_eq_true, beq_iff_eq] at selected
  exact ⟨row, selected.1⟩

/-- A message on a page is a stored message of the conversation that is newer than the date. -/
theorem message_of_page {platform : Platform} {store : Store} {userId : Uuid}
    {dto : GetConversationMessagesDto} {answer : HistoryPage}
    (answered : getConversationMessages platform store userId dto = .ok answer) {item : HistoryItem}
    (inside : item ∈ answer.page) (isMessage : item.isMessage = true) :
    ∃ message ∈ store.messages, message.conversationId = dto.conversationId ∧
      (∀ deleted, lastDeletedAt store dto.conversationId userId = some deleted →
        deleted < message.createdAt) ∧ item = readItem platform store message := by
  obtain ⟨items, read, rest⟩ := ok_of_bind answered
  cases rest
  have present := (List.mem_insertionSort _).mp (List.mem_of_mem_take inside)
  obtain fromMessages | fromEvents := List.mem_append.mp present
  · obtain ⟨message, found, deciphered⟩ := mem_of_mapM_ok read fromMessages
    obtain ⟨row, same, later⟩ := mem_findByConversation found
    exact ⟨message, row, same, later, messageItem_ok deciphered⟩
  · obtain ⟨event, -, equal⟩ := List.mem_map.mp fromEvents
    rw [← equal] at isMessage
    cases isMessage

end MessageService

end Messinger
