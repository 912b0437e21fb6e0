import Messinger.Library.DistinctKeys
import Messinger.Proof.HistoryWalk

namespace Messinger
open Library ConversationMemberRepository MessageService

def messagesOf (store : Store) (conversationId : Uuid) : List Message :=
  store.messages.filter fun message => message.conversationId == conversationId

def itemTime (item : HistoryItem) : Nat := getTime item.createdAt

/-- These are all messages and events of the conversation, the oldest first. -/
def chronology (platform : Platform) (store : Store) (conversationId : Uuid) : List HistoryItem :=
  sortBy itemTime ((messagesOf store conversationId).map (readItem platform store) ++
    (eventsOf store conversationId).map eventItem)

def pageOf : Except Exception HistoryPage → List HistoryItem
  | .ok answer => answer.page
  | .error _ => []

/-- The pages fetched so far are the newest items, and the first page ends with the newest one. -/
def PaginatesChronologically (platform : Platform) (store : Store) (conversationId userId : Uuid)
    (limit : Nat) : Prop :=
  (∀ count, (walk (requestHistory platform store conversationId userId limit) nextCursorOf count
      none).reverse.flatMap pageOf <:+ chronology platform store conversationId) ∧
    (pageOf (requestHistory platform store conversationId userId limit none)).getLast? =
      (chronology platform store conversationId).getLast?

/-- No two messages or events of the conversation fall into one millisecond. -/
def DistinctTimes (store : Store) (conversationId : Uuid) : Prop :=
  ((messagesOf store conversationId).map (fun message => getTime message.createdAt) ++
    (eventsOf store conversationId).map fun event => getTime event.createdAt).Nodup

section Walk
variable {platform : Platform} {store : Store} {conversationId userId : Uuid} {limit : Nat}

theorem itemTime_readItem (message : Message) :
    itemTime (readItem platform store message) = getTime message.createdAt :=
  getTime_jsDate message.createdAt

theorem itemTime_eventItem (event : ConversationEvent) : itemTime (eventItem event) = getTime event.createdAt :=
  getTime_jsDate event.createdAt

theorem map_itemTime_messages (messages : List Message) :
    (messages.map (readItem platform store)).map itemTime =
      messages.map fun message => getTime message.createdAt := by
  rw [List.map_map]
  exact List.map_congr_left fun message _ => itemTime_readItem message

theorem map_itemTime_events (events : List ConversationEvent) :
    (events.map eventItem).map itemTime = events.map fun event => getTime event.createdAt := by
  rw [List.map_map]
  exact List.map_congr_left fun event _ => itemTime_eventItem event

theorem distinct_items (times : DistinctTimes store conversationId) :
    (((messagesOf store conversationId).map (readItem platform store) ++
      (eventsOf store conversationId).map eventItem).map itemTime).Nodup := by
  rw [List.map_append, map_itemTime_messages, map_itemTime_events]
  exact times

theorem chronology_increases (times : DistinctTimes store conversationId) :
    (chronology platform store conversationId).Pairwise fun first second =>
      itemTime first < itemTime second :=
  pairwise_lt_sortBy (distinct_items times)

/-- This is the list of items from which the page is cut. -/
def windowOf (platform : Platform) (store : Store) (conversationId userId : Uuid) (limit : Nat)
    (cursor : Option Uuid) : List HistoryItem :=
  (MessageRepository.findByConversation store conversationId limit cursor
      (lastDeletedAt store conversationId userId)).map (readItem platform store) ++
    (ConversationEventRepository.findByConversation store conversationId limit cursor).map eventItem

variable (userId limit) in
theorem requestHistory_eq (readable : Readable platform store conversationId) (cursor : Option Uuid) :
    requestHistory platform store conversationId userId limit cursor =
      .ok (paginateHistory limit (windowOf platform store conversationId userId limit cursor)) :=
  getConversationMessages_of_readable readable

/-- A window within the limit is the last page. -/
theorem walk_of_short (readable : Readable platform store conversationId) {cursor : Option Uuid}
    (short : (windowOf platform store conversationId userId limit cursor).length ≤ limit) (count : Nat) :
    (walk (requestHistory platform store conversationId userId limit) nextCursorOf (count + 1)
        cursor).reverse.flatMap pageOf =
      sortBy itemTime (windowOf platform store conversationId userId limit cursor) := by
  have answered := requestHistory_eq userId limit readable cursor
  have last : nextCursorOf (requestHistory platform store conversationId userId limit cursor) = none := by
    rw [answered, nextCursorOf, nextCursor_paginateHistory, if_neg (Nat.not_lt_of_le short)]
  have page : pageOf (requestHistory platform store conversationId userId limit cursor) =
      sortBy itemTime (windowOf platform store conversationId userId limit cursor) := by
    rw [answered]
    apply List.take_of_length_le
    rw [List.length_insertionSort]
    exact Nat.le_succ_of_le short
  unfold walk
  rw [last]
  simp only [List.reverse_cons, List.reverse_nil, List.nil_append, List.flatMap_cons, List.flatMap_nil,
    List.append_nil]
  exact page

end Walk

section Messages
variable {platform : Platform} {store : Store} {conversationId userId : Uuid} {limit : Nat}

def messageTime (message : Message) : Nat := getTime message.createdAt

/-- These are the messages that a cursor of the given time leaves. -/
def messagesBefore (store : Store) (conversationId : Uuid) : Option Place → List Message
  | some (.message time) => (messagesOf store conversationId).filter fun message => messageTime message < time
  | _ => messagesOf store conversationId

theorem findByConversation_before (active : lastDeletedAt store conversationId userId = none)
    {cursor : Option Uuid} {place : Option Place} (located : Locates store conversationId cursor place) :
    MessageRepository.findByConversation store conversationId limit cursor
        (lastDeletedAt store conversationId userId) =
      ((messagesBefore store conversationId place).insertionSort fun first second =>
        second.createdAt ≤ first.createdAt).take (limit + 1) := by
  have rows : (store.messages.filter fun message => message.conversationId == conversationId &&
      (none : Option Nat).all (fun deleted => decide (deleted < message.createdAt)) &&
      (messageDate place).all (fun date => decide (message.createdAt < date))) =
        messagesBefore store conversationId place := by
    unfold messagesBefore messagesOf
    split
    · rw [List.filter_filter]
      apply List.filter_congr
      intro message _
      simp only [messageDate, Option.all_none, Bool.and_true, Option.all_some, lt_thousand_iff]
      exact Bool.and_comm _ _
    · next other =>
        have undated : messageDate place = none := by
          unfold messageDate
          split
          · next time => exact absurd rfl (other time)
          · rfl
        simp only [undated, Option.all_none, Bool.and_true]
  unfold MessageRepository.findByConversation
  rw [located.message, active]
  simp only [rows]

theorem map_sortBy_readItem (messages : List Message) :
    sortBy itemTime (messages.map (readItem platform store)) =
      (sortBy messageTime messages).map (readItem platform store) := by
  symm
  apply List.map_insertionSort
  intro first _ second _
  rw [itemTime_readItem, itemTime_readItem]
  rfl

theorem mem_messagesBefore {place : Option Place} {message : Message}
    (inside : message ∈ messagesBefore store conversationId place) :
    message ∈ store.messages ∧ message.conversationId = conversationId := by
  have listed : message ∈ messagesOf store conversationId := by
    unfold messagesBefore at inside
    split at inside
    · exact (List.mem_filter.mp inside).1
    · exact inside
  obtain ⟨present, same⟩ := List.mem_filter.mp listed
  exact ⟨present, by simpa using same⟩

theorem distinct_messagesBefore (times : DistinctTimes store conversationId) (place : Option Place) :
    ((messagesBefore store conversationId place).map messageTime).Nodup := by
  have all : ((messagesOf store conversationId).map messageTime).Nodup := (List.nodup_append.mp times).1
  unfold messagesBefore
  split
  · exact all.sublist (List.filter_sublist.map _)
  · exact all

/-- The messages before one of the window are the ones in front of it. -/
theorem sortBy_messagesBefore (times : DistinctTimes store conversationId) {place : Option Place}
    {front rest : List Message} {first : Message}
    (split : sortBy messageTime (messagesBefore store conversationId place) = front ++ first :: rest) :
    sortBy messageTime (messagesBefore store conversationId (some (.message (messageTime first)))) = front := by
  have sorted := pairwise_lt_sortBy (distinct_messagesBefore times place)
  rw [split] at sorted
  have cut : (sortBy messageTime (messagesBefore store conversationId place)).filter
      (fun message => messageTime message < messageTime first) = front := by
    rw [split]
    exact filter_lt_of_sorted sorted
  have inside : first ∈ messagesBefore store conversationId place := by
    have sorted : first ∈ sortBy messageTime (messagesBefore store conversationId place) := by
      rw [split]
      exact List.mem_append_right front List.mem_cons_self
    exact (List.mem_insertionSort _).mp sorted
  have fewer : (messagesBefore store conversationId place).filter
      (fun message => messageTime message < messageTime first) =
        messagesBefore store conversationId (some (.message (messageTime first))) := by
    cases place with
    | none => rfl
    | some place =>
        cases place with
        | event time => rfl
        | message time =>
            have selected := List.of_mem_filter inside
            have before := of_decide_eq_true selected
            unfold messagesBefore
            rw [List.filter_filter]
            apply List.filter_congr
            intro message _
            rw [Bool.and_eq_left_iff_imp, decide_eq_true_eq, decide_eq_true_eq]
            exact fun smaller => Nat.lt_trans smaller before
  apply sortBy_eq_of_perm
  · rw [← fewer, ← cut]
    exact ((List.perm_insertionSort _ _).filter _).symm
  · exact (List.pairwise_append.mp sorted).1

variable (limit) in
/-- Without events each request answers the newest messages before its cursor. -/
theorem window_of_no_events (readable : Readable platform store conversationId)
    (active : lastDeletedAt store conversationId userId = none)
    (times : DistinctTimes store conversationId) (noEvents : eventsOf store conversationId = [])
    {cursor : Option Uuid} {place : Option Place} (located : Locates store conversationId cursor place) :
    let sorted := sortBy messageTime (messagesBefore store conversationId place)
    let page := sorted.drop (sorted.length - (limit + 1))
    pageOf (requestHistory platform store conversationId userId limit cursor) =
        page.map (readItem platform store) ∧
      nextCursorOf (requestHistory platform store conversationId userId limit cursor) =
        if limit < sorted.length then page.head?.map Message.id else none := by
  intro sorted page
  have events : ConversationEventRepository.findByConversation store conversationId limit cursor = [] := by
    rw [List.eq_nil_iff_forall_not_mem]
    intro event inside
    obtain ⟨present, same⟩ := mem_eventsByConversation inside
    have listed : event ∈ eventsOf store conversationId :=
      List.mem_filter.mpr ⟨present, by rw [same]; exact beq_self_eq_true conversationId⟩
    rw [noEvents] at listed
    cases listed
  have total : sorted.length = (messagesBefore store conversationId place).length :=
    List.length_insertionSort _ _
  have cut : sortBy itemTime (windowOf platform store conversationId userId limit cursor) =
      page.map (readItem platform store) := by
    have newest := sortBy_take_desc messageTime Message.createdAt
      (fun _ _ ordered => Nat.div_le_div_right ordered) (distinct_messagesBefore times place) (limit + 1)
    unfold windowOf
    rw [events, List.map_nil, List.append_nil, findByConversation_before active located,
      map_sortBy_readItem, newest, ← total]
  have size : page.length = min (limit + 1) sorted.length := by
    rw [List.length_drop]
    omega
  have answered := requestHistory_eq userId limit readable cursor
  have history : (windowOf platform store conversationId userId limit cursor).length = page.length := by
    have lengths := congrArg List.length cut
    rw [List.length_insertionSort, List.length_map] at lengths
    exact lengths
  rw [answered]
  constructor
  · change (sortBy itemTime (windowOf platform store conversationId userId limit cursor)).take
      (limit + 1) = _
    rw [cut, List.take_of_length_le]
    rw [List.length_map, size]
    exact Nat.min_le_left _ _
  · rw [nextCursorOf, nextCursor_paginateHistory, ← head?_sortBy]
    change (if limit < _ then (sortBy itemTime _).head?.map HistoryItem.id else none) = _
    rw [cut, history, size, List.head?_map, Option.map_map]
    have same : limit < min (limit + 1) sorted.length ↔ limit < sorted.length := by omega
    simp only [same]
    rfl

/-- Without events the pages follow each other through the messages. -/
theorem pages_of_no_events (readable : Readable platform store conversationId) (ids : DistinctIds store)
    (active : lastDeletedAt store conversationId userId = none)
    (times : DistinctTimes store conversationId) (noEvents : eventsOf store conversationId = [])
    (count : Nat) {cursor : Option Uuid} {place : Option Place}
    (located : Locates store conversationId cursor place) :
    (walk (requestHistory platform store conversationId userId limit) nextCursorOf count
        cursor).reverse.flatMap pageOf <:+
      (sortBy messageTime (messagesBefore store conversationId place)).map (readItem platform store) := by
  induction count generalizing cursor place with
  | zero => exact List.nil_suffix
  | succ count ih =>
      obtain ⟨page, next⟩ := window_of_no_events limit readable active times noEvents located
      have whole := List.take_append_drop
        ((sortBy messageTime (messagesBefore store conversationId place)).length - (limit + 1))
        (sortBy messageTime (messagesBefore store conversationId place))
      unfold walk
      rw [List.reverse_cons, List.flatMap_append, List.flatMap_singleton, page]
      conv_rhs => rw [← whole, List.map_append]
      cases first : ((sortBy messageTime (messagesBefore store conversationId place)).drop
          ((sortBy messageTime (messagesBefore store conversationId place)).length - (limit + 1))) with
      | nil =>
          rw [first] at next
          have stops : nextCursorOf (requestHistory platform store conversationId userId limit cursor) =
              none := by
            rw [next]
            split <;> rfl
          rw [stops]
          exact List.nil_suffix
      | cons message rest =>
          rw [first] at next whole
          cases goes : nextCursorOf (requestHistory platform store conversationId userId limit cursor) with
          | none =>
              simp only [List.reverse_nil, List.flatMap_nil, List.nil_append]
              exact List.suffix_append _ _
          | some following =>
              rw [goes] at next
              split at next
              · cases next
                have inside : message ∈ sortBy messageTime (messagesBefore store conversationId place) := by
                  rw [← whole]
                  exact List.mem_append_right _ List.mem_cons_self
                obtain ⟨present, same⟩ := mem_messagesBefore ((List.mem_insertionSort _).mp inside)
                have there : Locates store conversationId (some message.id)
                    (some (.message (messageTime message))) := locates_message ids present same
                obtain ⟨front, further⟩ := ih there
                rw [sortBy_messagesBefore times whole.symm] at further
                exact ⟨front, by rw [← List.append_assoc, further]⟩
              · cases next

end Messages

end Messinger
