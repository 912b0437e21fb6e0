import Mathlib.Data.List.Perm.Subperm
import Messinger.Model.ConversationCalls
import Messinger.Proof.HistoryChronology

namespace Messinger
open Library ConversationMemberRepository MessageService

section Windows
variable {platform : Platform} {store : Store} {conversationId userId : Uuid} {limit : Nat}

def historyItems (platform : Platform) (store : Store) (conversationId : Uuid) : List HistoryItem :=
  (messagesOf store conversationId).map (readItem platform store) ++
    (eventsOf store conversationId).map eventItem

theorem timelineOf_messages (active : lastDeletedAt store conversationId userId = none) :
    (timelineOf store conversationId userId).messages = (messagesOf store conversationId).map messageTime := by
  unfold timelineOf visibleMessages messagesOf
  rw [active]
  simp only [Option.all_none, Bool.and_true]
  rfl

/-- The window at a place has as many items as the two lists of times. -/
theorem length_windowOf {cursor : Option Uuid} {place : Option Place}
    (located : Locates store conversationId cursor place) :
    (windowOf platform store conversationId userId limit cursor).length =
      ((timelineOf store conversationId userId).shownMessages limit place).length +
        ((timelineOf store conversationId userId).shownEvents limit place).length := by
  rw [← findByConversation_messageTimes located, ← findByConversation_eventTimes located]
  unfold windowOf
  simp only [List.length_append, List.length_map]

theorem length_firstWindow (active : lastDeletedAt store conversationId userId = none) :
    (windowOf platform store conversationId userId limit none).length =
      min (limit + 1) (messagesOf store conversationId).length +
        min (limit + 1) (eventsOf store conversationId).length := by
  have start : Locates store conversationId none none := ⟨rfl, rfl⟩
  rw [length_windowOf start]
  change (latest (limit + 1) _).length + (earliest (limit + 1) _).length = _
  rw [length_latest, length_earliest, timelineOf_messages active, List.length_map]
  change _ + min _ ((eventsOf store conversationId).map _).length = _
  rw [List.length_map]

/-- Without a date the event query takes the oldest events. -/
theorem findByConversation_oldest (cursor : Option Uuid)
    (undated : ConversationEventRepository.cursorCreatedAt store conversationId cursor = none) :
    ConversationEventRepository.findByConversation store conversationId limit cursor =
      ((eventsOf store conversationId).insertionSort fun first second =>
        first.createdAt ≤ second.createdAt).take (limit + 1) := by
  unfold ConversationEventRepository.findByConversation eventsOf
  simp only [undated, Option.all_none, Bool.and_true]

variable (platform limit) in
/-- The first window holds items of the history, each of them once. -/
theorem firstWindow_subperm (active : lastDeletedAt store conversationId userId = none) :
    (windowOf platform store conversationId userId limit none).Subperm
      (historyItems platform store conversationId) := by
  have start : Locates store conversationId none none := ⟨rfl, rfl⟩
  unfold windowOf historyItems
  rw [findByConversation_before active start, findByConversation_oldest none rfl]
  apply List.Subperm.append
  · exact ((List.take_sublist _ _).map _).subperm.trans ((List.perm_insertionSort _ _).map _).subperm
  · exact ((List.take_sublist _ _).map _).subperm.trans ((List.perm_insertionSort _ _).map _).subperm

theorem distinct_firstWindow (active : lastDeletedAt store conversationId userId = none)
    (times : DistinctTimes store conversationId) :
    ((windowOf platform store conversationId userId limit none).map itemTime).Nodup := by
  obtain ⟨arranged, perm, sub⟩ := firstWindow_subperm platform limit active
  exact (perm.map itemTime).nodup_iff.mp ((distinct_items times).sublist (sub.map itemTime))

/-- A first window that is not cut holds the whole history. -/
theorem firstWindow_perm (active : lastDeletedAt store conversationId userId = none)
    (messages : (messagesOf store conversationId).length ≤ limit + 1)
    (events : (eventsOf store conversationId).length ≤ limit + 1) :
    (windowOf platform store conversationId userId limit none).Perm
      (historyItems platform store conversationId) := by
  have start : Locates store conversationId none none := ⟨rfl, rfl⟩
  unfold windowOf historyItems
  rw [findByConversation_before active start, findByConversation_oldest none rfl,
    List.take_of_length_le, List.take_of_length_le]
  · exact ((List.perm_insertionSort _ _).map _).append ((List.perm_insertionSort _ _).map _)
  · rw [List.length_insertionSort]
    exact events
  · rw [List.length_insertionSort]
    exact messages

variable (platform limit) in
theorem sortBy_firstWindow (active : lastDeletedAt store conversationId userId = none)
    (times : DistinctTimes store conversationId)
    (messages : (messagesOf store conversationId).length ≤ limit + 1)
    (events : (eventsOf store conversationId).length ≤ limit + 1) :
    sortBy itemTime (windowOf platform store conversationId userId limit none) =
      chronology platform store conversationId :=
  sortBy_congr (distinct_firstWindow active times) (firstWindow_perm active messages events)

theorem length_chronology :
    (chronology platform store conversationId).length =
      (messagesOf store conversationId).length + (eventsOf store conversationId).length := by
  unfold chronology
  rw [List.length_insertionSort, List.length_append, List.length_map, List.length_map]

theorem pageOf_requestHistory (readable : Readable platform store conversationId) (cursor : Option Uuid) :
    pageOf (requestHistory platform store conversationId userId limit cursor) =
      (sortBy itemTime (windowOf platform store conversationId userId limit cursor)).take (limit + 1) := by
  rw [requestHistory_eq userId limit readable]
  rfl

end Windows

end Messinger
