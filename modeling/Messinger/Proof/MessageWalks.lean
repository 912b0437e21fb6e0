import Messinger.Library.Keyset
import Messinger.Proof.HistoryPagination

namespace Messinger
open Library ConversationMemberRepository MessageService

/-- Following the cursors ends, and the pages show each message of the conversation once. -/
def WalksHistory (platform : Platform) (store : Store) (conversationId userId : Uuid) (limit : Nat) : Prop :=
  ∃ count, (∃ answer ∈ walk (requestHistory platform store conversationId userId limit) nextCursorOf count
      none, nextCursorOf answer = none) ∧
    ((walk (requestHistory platform store conversationId userId limit) nextCursorOf count none).flatMap
      pageOf).Perm ((messagesOf store conversationId).map (readItem platform store))

abbrev NewestMessages (first second : Message) : Prop := second.createdAt ≤ first.createdAt

/-- The message was sent in an earlier millisecond than the last one. -/
def sentBefore (last message : Message) : Bool := decide (messageTime message < messageTime last)

theorem newest_messages_total (first second : Message) :
    NewestMessages first second ∨ NewestMessages second first := Nat.le_total second.createdAt first.createdAt

theorem newest_messages_transitive (first second third : Message) (one : NewestMessages first second)
    (two : NewestMessages second third) : NewestMessages first third := Nat.le_trans two one

/-- These are the messages of the conversation, the newest first. -/
def newestFirst (store : Store) (conversationId : Uuid) : List Message :=
  (messagesOf store conversationId).insertionSort NewestMessages

theorem newestFirst_sorted (store : Store) (conversationId : Uuid) :
    (newestFirst store conversationId).Pairwise NewestMessages := by
  have : Std.Total NewestMessages := ⟨newest_messages_total⟩
  have : IsTrans Message NewestMessages := ⟨newest_messages_transitive⟩
  exact List.pairwise_insertionSort NewestMessages _

theorem messageTime_le {first second : Message} (newest : NewestMessages first second) :
    messageTime second ≤ messageTime first := Nat.div_le_div_right newest

theorem onward_messages (store : Store) (conversationId : Uuid) :
    Onward sentBefore (newestFirst store conversationId) :=
  .of_keys messageTime messageTime (fun _ => Nat.le_refl _)
    ((newestFirst_sorted store conversationId).imp messageTime_le)

section Requests
variable {platform : Platform} {store : Store} {conversationId userId : Uuid} {limit : Nat}
  {cursor : Option Uuid} {anchor : Option Message}

/-- The cursor stands for the millisecond of the message. -/
def StandsFor (store : Store) (conversationId : Uuid) (cursor : Option Uuid) (anchor : Option Message) :
    Prop :=
  Locates store conversationId cursor (anchor.map fun last => .message (messageTime last))

theorem standsFor_message (ids : (store.messages.map Message.id).Nodup)
    (noEvents : eventsOf store conversationId = []) {message last : Message}
    (inside : message ∈ messagesOf store conversationId) (same : messageTime message = messageTime last) :
    StandsFor store conversationId (some message.id) (some last) := by
  obtain ⟨stored, listed⟩ := List.mem_filter.mp inside
  constructor
  · rw [cursorCreatedAt_of_mem ids stored (by simpa using listed), Option.map_some, ← same]
    rfl
  · unfold ConversationEventRepository.cursorCreatedAt
    rw [Option.bind_some]
    refine Option.map_eq_none_iff.mpr (List.find?_eq_none.mpr ?_)
    intro event present matched
    have missing := List.filter_eq_nil_iff.mp noEvents event present
    exact missing (Bool.and_eq_true _ _ ▸ matched).2

theorem insertionSort_messagesBefore (store : Store) (conversationId : Uuid) (anchor : Option Message) :
    (messagesBefore store conversationId (anchor.map fun last => .message (messageTime last))).insertionSort
        NewestMessages = beyond sentBefore (newestFirst store conversationId) anchor := by
  cases anchor with
  | none => rfl
  | some last =>
      exact filter_insertionSort NewestMessages (sentBefore last) newest_messages_total
        newest_messages_transitive _

/-- Without events the window holds the first messages behind the cursor. -/
theorem windowOf_beyond (active : lastDeletedAt store conversationId userId = none)
    (noEvents : eventsOf store conversationId = []) (stands : StandsFor store conversationId cursor anchor) :
    windowOf platform store conversationId userId limit cursor =
      ((beyond sentBefore (newestFirst store conversationId) anchor).take (limit + 1)).map
        (readItem platform store) := by
  have undated : ConversationEventRepository.cursorCreatedAt store conversationId cursor = none := by
    rw [stands.event]
    cases anchor <;> rfl
  unfold windowOf
  rw [findByConversation_before active stands, findByConversation_oldest cursor undated, noEvents,
    ← insertionSort_messagesBefore]
  simp only [List.insertionSort_nil, List.take_nil, List.map_nil, List.append_nil]

theorem mem_newestFirst {message : Message} :
    message ∈ newestFirst store conversationId ↔ message ∈ messagesOf store conversationId :=
  List.mem_insertionSort NewestMessages

theorem sorted_beyond (store : Store) (conversationId : Uuid) (anchor : Option Message) :
    (beyond sentBefore (newestFirst store conversationId) anchor).Pairwise NewestMessages := by
  cases anchor with
  | none => exact newestFirst_sorted store conversationId
  | some last => exact (newestFirst_sorted store conversationId).filter _

theorem mem_of_beyond {message : Message}
    (inside : message ∈ beyond sentBefore (newestFirst store conversationId) anchor) :
    message ∈ messagesOf store conversationId := by
  cases anchor with
  | none => exact mem_newestFirst.mp inside
  | some last => exact mem_newestFirst.mp (List.mem_of_mem_filter inside)

/-- The first of the oldest messages of a full window shares the millisecond of its last one. -/
theorem firstMin_beyond (long : limit < (beyond sentBefore (newestFirst store conversationId) anchor).length) :
    ∃ message last, firstMin itemTime
        (((beyond sentBefore (newestFirst store conversationId) anchor).take (limit + 1)).map
          (readItem platform store)) = some (readItem platform store message) ∧
      (beyond sentBefore (newestFirst store conversationId) anchor)[limit]? = some last ∧
      message ∈ messagesOf store conversationId ∧ messageTime message = messageTime last := by
  let rows := beyond sentBefore (newestFirst store conversationId) anchor
  have ends : rows[limit]? = some rows[limit] := List.getElem?_eq_getElem long
  have shown : rows[limit] ∈ rows.take (limit + 1) := by
    refine List.mem_of_getElem? (i := limit) ?_
    rw [List.getElem?_take_of_lt (Nat.lt_succ_self limit), ends]
  cases least : firstMin itemTime ((rows.take (limit + 1)).map (readItem platform store)) with
  | none =>
      have empty := (firstMin_eq_none itemTime).mp least
      rw [List.map_eq_nil_iff] at empty
      rw [empty] at shown
      cases shown
  | some item =>
      obtain ⟨message, inside, rfl⟩ := List.mem_map.mp (firstMin_mem itemTime least)
      have smallest := firstMin_le itemTime least _ (List.mem_map_of_mem shown)
      rw [itemTime_readItem, itemTime_readItem] at smallest
      refine ⟨message, rows[limit], rfl, ends, mem_of_beyond (List.mem_of_mem_take inside), ?_⟩
      have newest : NewestMessages message rows[limit] :=
        before_last (sorted_beyond store conversationId anchor) (fun _ => Nat.le_refl _) ends inside
      exact Nat.le_antisymm smallest (messageTime_le newest)

theorem paginates_messages (readable : Readable platform store conversationId)
    (ids : (store.messages.map Message.id).Nodup) (active : lastDeletedAt store conversationId userId = none)
    (noEvents : eventsOf store conversationId = []) :
    Paginates (requestHistory platform store conversationId userId limit) nextCursorOf pageOf
      (readItem platform store) sentBefore (limit + 1) (newestFirst store conversationId) List.Perm
      (StandsFor store conversationId) where
  starts := ⟨rfl, rfl⟩
  shows := by
    intro cursor anchor stands
    rw [pageOf_requestHistory readable, windowOf_beyond active noEvents stands, List.take_of_length_le]
    · exact List.perm_insertionSort _ _
    · rw [List.length_insertionSort, List.length_map, List.length_take]
      exact Nat.min_le_left _ _
  goes := by
    intro cursor anchor stands
    rw [requestHistory_eq userId limit readable, nextCursorOf, nextCursor_paginateHistory,
      windowOf_beyond active noEvents stands, List.length_map, List.length_take]
    by_cases long : limit < (beyond sentBefore (newestFirst store conversationId) anchor).length
    · obtain ⟨message, last, least, ends, inside, same⟩ := @firstMin_beyond platform store conversationId limit anchor long
      refine .inr ⟨message.id, last, ?_, ends, standsFor_message ids noEvents inside same⟩
      rw [if_pos (by omega)]
      exact congrArg (Option.map HistoryItem.id) least
    · refine .inl ⟨if_neg (by omega), by omega⟩

/-- The messages may be listed in any order. -/
theorem walksHistory_iff :
    WalksHistory platform store conversationId userId limit ↔
      ShowsAll (requestHistory platform store conversationId userId limit) nextCursorOf pageOf
        (readItem platform store) (newestFirst store conversationId) List.Perm := by
  have sorted := (List.perm_insertionSort NewestMessages (messagesOf store conversationId)).map
    (readItem platform store)
  constructor
  · rintro ⟨count, ends, all⟩
    exact ⟨count, ends, all.trans sorted.symm⟩
  · rintro ⟨count, ends, all⟩
    exact ⟨count, ends, all.trans sorted⟩

end Requests

/-- The walk over a history without events loses nothing exactly when each page ends in a later millisecond
than the next message. -/
theorem history_walk_complete_iff {platform : Platform} {store : Store} {conversationId userId : Uuid}
    {limit : Nat} {member : ConversationMember} (readable : Readable platform store conversationId)
    (ids : (store.messages.map Message.id).Nodup) (noEvents : eventsOf store conversationId = [])
    (found : findMember store conversationId userId = some member) (active : member.softDeletedAt = none) :
    WalksHistory platform store conversationId userId limit ↔
      Joined sentBefore (limit + 1) (newestFirst store conversationId) := by
  have undeleted := lastDeletedAt_of_active found active
  rw [walksHistory_iff]
  exact (paginates_messages readable ids undeleted noEvents).shows_all_iff (comparison_perm _)
    (Nat.succ_pos limit) (onward_messages store conversationId)

/-- User 1 sends user 2 a message at each of the times. -/
def historyAt (times : List Nat) : Store :=
  times.foldl
    (fun store now => (createPrivateMessage plainPlatform { now } 1
      { receiverId := uuidText 2, content := [104], attachments := [] } store).2)
    (emptyStore [{ id := 1, role := .user, createdAt := 0 }, { id := 2, role := .user, createdAt := 0 }] [] []
      10)

/-- Three messages of different milliseconds are all shown. -/
theorem spacedHistory_walked : WalksHistory plainPlatform (historyAt [1000200, 2000700, 5000000]) 10 1 1 := by
  have readable : Readable plainPlatform (historyAt [1000200, 2000700, 5000000]) 10 := by
    unfold Readable
    decide
  have member : findMember (historyAt [1000200, 2000700, 5000000]) 10 1 =
      some { conversationId := 10, userId := 1, role := .member, createdAt := 1000200 } := by
    decide
  exact (history_walk_complete_iff readable (by decide) (by decide) member rfl).mpr (by decide)

/-- User 1 sends two messages within one millisecond and a third one later. -/
def privateHistory : Store := historyAt [1000200, 1000700, 5000000]

theorem privateHistory_readable : Readable plainPlatform privateHistory 10 := by
  unfold Readable
  decide

theorem privateHistory_member : findMember privateHistory 10 1 =
    some { conversationId := 10, userId := 1, role := .member, createdAt := 1000200 } := by
  decide

/-- With limit 1 the oldest message is lost: it shares the millisecond of the one before it. -/
theorem oldest_message_lost : ¬ WalksHistory plainPlatform privateHistory 10 1 1 := by
  intro complete
  have undeleted := lastDeletedAt_of_active privateHistory_member rfl
  have joined := ((paginates_messages privateHistory_readable (by decide) undeleted (by decide)).shows_all_iff
    (comparison_perm _) (Nat.succ_pos 1) (onward_messages privateHistory 10)).mp
      (walksHistory_iff.mp complete)
  exact absurd (joined 0 _ _ rfl rfl) (by decide)

end Messinger
