import Messinger.Abstract.Timeline
import Messinger.Proof.HistoryQueries

namespace Messinger
open Library ConversationMemberRepository MessageService

/-- The primary keys and the generated identifiers keep messages and events apart. -/
structure DistinctIds (store : Store) : Prop where
  messages : (store.messages.map Message.id).Nodup
  events : (store.events.map ConversationEvent.id).Nodup
  apart : ∀ message ∈ store.messages, ∀ event ∈ store.events, message.id ≠ event.id

/-- These are the messages that the history of the user can show. -/
def visibleMessages (store : Store) (conversationId userId : Uuid) : List Message :=
  store.messages.filter fun message => message.conversationId == conversationId &&
    (lastDeletedAt store conversationId userId).all fun deleted => decide (deleted < message.createdAt)

def eventsOf (store : Store) (conversationId : Uuid) : List ConversationEvent :=
  store.events.filter fun event => event.conversationId == conversationId

/-- The history of the user counts in milliseconds. -/
def timelineOf (store : Store) (conversationId userId : Uuid) : Timeline where
  messages := (visibleMessages store conversationId userId).map fun message => getTime message.createdAt
  events := (eventsOf store conversationId).map fun event => getTime event.createdAt

/-- The client asks with the cursor of the previous answer. -/
def requestHistory (platform : Platform) (store : Store) (conversationId userId : Uuid) (limit : Nat)
    (cursor : Option Uuid) : Except Exception HistoryPage :=
  getConversationMessages platform store userId { conversationId, limit, cursor }

def nextCursorOf : Except Exception HistoryPage → Option Uuid
  | .ok answer => answer.nextCursor
  | .error _ => none

def messageDate : Option Place → Option Nat
  | some (.message time) => some (time * 1000)
  | _ => none

def eventDate : Option Place → Option Nat
  | some (.event time) => some (time * 1000)
  | _ => none

/-- The database finds for the cursor the dates that belong to the place. -/
structure Locates (store : Store) (conversationId : Uuid) (cursor : Option Uuid) (place : Option Place) :
    Prop where
  message : MessageRepository.cursorCreatedAt store conversationId cursor = messageDate place
  event : ConversationEventRepository.cursorCreatedAt store conversationId cursor = eventDate place

section Queries
variable {store : Store} {conversationId userId : Uuid} {limit : Nat} {cursor : Option Uuid}
  {place : Option Place}

theorem lt_thousand_iff (instant time : Nat) : instant < time * 1000 ↔ getTime instant < time := by
  unfold getTime
  omega

/-- The message query shows the times of the first window. -/
theorem findByConversation_messageTimes (located : Locates store conversationId cursor place) :
    (MessageRepository.findByConversation store conversationId limit cursor
        (lastDeletedAt store conversationId userId)).map (fun message => getTime message.createdAt) =
      (timelineOf store conversationId userId).shownMessages limit place := by
  have window : ∀ rows : List Message,
      ((rows.insertionSort fun first second => second.createdAt ≤ first.createdAt).take (limit + 1)).map
          (fun message => getTime message.createdAt) =
        latest (limit + 1) (rows.map fun message => getTime message.createdAt) := by
    intro rows
    rw [List.map_take, latest]
    congr 1
    apply map_insertionSort_of_monotone (fun first second => second ≤ first) Message.createdAt
    exact fun _ _ ordered => Nat.div_le_div_right ordered
  unfold MessageRepository.findByConversation
  rw [located.message]
  simp only
  rw [window]
  cases place with
  | none =>
      simp only [messageDate, Option.all_none, Bool.and_true]
      rfl
  | some place =>
      cases place with
      | event time =>
          simp only [messageDate, Option.all_none, Bool.and_true]
          rfl
      | message time =>
          change _ = latest (limit + 1) (((visibleMessages store conversationId userId).map _).filter _)
          rw [List.filter_map, visibleMessages, List.filter_filter]
          congr 2
          apply List.filter_congr
          intro message _
          simp only [messageDate, Option.all_some, Function.comp_apply, lt_thousand_iff]
          exact Bool.and_comm _ _

/-- The event query shows the times of the second window. -/
theorem findByConversation_eventTimes (located : Locates store conversationId cursor place) :
    (ConversationEventRepository.findByConversation store conversationId limit cursor).map
        (fun event => getTime event.createdAt) =
      (timelineOf store conversationId userId).shownEvents limit place := by
  have window : ∀ rows : List ConversationEvent,
      ((rows.insertionSort fun first second => first.createdAt ≤ second.createdAt).take (limit + 1)).map
          (fun event => getTime event.createdAt) =
        earliest (limit + 1) (rows.map fun event => getTime event.createdAt) := by
    intro rows
    rw [List.map_take, earliest]
    congr 1
    apply map_insertionSort_of_monotone (fun first second => first ≤ second) ConversationEvent.createdAt
    exact fun _ _ ordered => Nat.div_le_div_right ordered
  unfold ConversationEventRepository.findByConversation
  rw [located.event]
  simp only
  rw [window]
  cases place with
  | none =>
      simp only [eventDate, Option.all_none, Bool.and_true]
      rfl
  | some place =>
      cases place with
      | message time =>
          simp only [eventDate, Option.all_none, Bool.and_true]
          rfl
      | event time =>
          change _ = earliest (limit + 1) (((eventsOf store conversationId).map _).filter _)
          rw [List.filter_map, eventsOf, List.filter_filter]
          congr 2
          apply List.filter_congr
          intro event _
          simp only [eventDate, Option.all_some, Function.comp_apply, lt_thousand_iff]
          exact Bool.and_comm _ _

end Queries

/-- The next cursor names the first of the earliest items. -/
theorem nextCursor_paginateHistory (limit : Nat) (items : List HistoryItem) :
    (paginateHistory limit items).nextCursor =
      if limit < items.length then
        (firstMin (fun item : HistoryItem => getTime item.createdAt) items).map HistoryItem.id
      else none := by
  unfold paginateHistory
  simp only [List.length_insertionSort, List.head?_take, Nat.add_eq_zero_iff, Nat.succ_ne_self, and_false,
    if_false]
  rw [← head?_sortBy]

section Step
variable {platform : Platform} {store : Store} {conversationId userId : Uuid} {limit : Nat}
  {cursor : Option Uuid} {place : Option Place}

theorem locates_message (ids : DistinctIds store) {message : Message} (inside : message ∈ store.messages)
    (same : message.conversationId = conversationId) :
    Locates store conversationId (some message.id) (some (.message (getTime message.createdAt))) := by
  constructor
  · exact cursorCreatedAt_of_mem ids.messages inside same
  · unfold ConversationEventRepository.cursorCreatedAt
    rw [Option.bind_some]
    refine Option.map_eq_none_iff.mpr (List.find?_eq_none.mpr ?_)
    intro event present matched
    simp only [Bool.and_eq_true, beq_iff_eq] at matched
    exact ids.apart message inside event present matched.1.symm

theorem locates_event (ids : DistinctIds store) {event : ConversationEvent} (inside : event ∈ store.events)
    (same : event.conversationId = conversationId) :
    Locates store conversationId (some event.id) (some (.event (getTime event.createdAt))) := by
  constructor
  · unfold MessageRepository.cursorCreatedAt
    rw [Option.bind_some]
    refine Option.map_eq_none_iff.mpr (List.find?_eq_none.mpr ?_)
    intro message present matched
    simp only [Bool.and_eq_true, beq_iff_eq] at matched
    exact ids.apart message present event inside matched.1
  · unfold ConversationEventRepository.cursorCreatedAt
    rw [Option.bind_some]
    cases found : store.events.find? fun row => row.id == event.id && row.conversationId == conversationId with
    | none =>
        have missing := List.find?_eq_none.mp found event inside
        simp [same] at missing
    | some row =>
        have selected := List.find?_some found
        simp only [Bool.and_eq_true, beq_iff_eq] at selected
        rw [List.inj_on_of_nodup_map ids.events (List.mem_of_find?_eq_some found) inside selected.1]
        rfl

variable (userId limit) in
/-- One request moves the cursor as the abstract walk moves the place. -/
theorem requestHistory_simulates (readable : Readable platform store conversationId)
    (ids : DistinctIds store) (located : Locates store conversationId cursor place) :
    (nextCursorOf (requestHistory platform store conversationId userId limit cursor) = none ∧
        (timelineOf store conversationId userId).next limit place = none) ∨
      ∃ following target,
        nextCursorOf (requestHistory platform store conversationId userId limit cursor) = some following ∧
        (timelineOf store conversationId userId).next limit place = some target ∧
        Locates store conversationId (some following) (some target) := by
  let key : HistoryItem → Nat := fun item => getTime item.createdAt
  let messages := MessageRepository.findByConversation store conversationId limit cursor
    (lastDeletedAt store conversationId userId)
  let events := ConversationEventRepository.findByConversation store conversationId limit cursor
  have answered : nextCursorOf (requestHistory platform store conversationId userId limit cursor) =
      if limit < messages.length + events.length then
        (firstMin key (messages.map (readItem platform store) ++ events.map eventItem)).map HistoryItem.id
      else none := by
    unfold requestHistory
    rw [getConversationMessages_of_readable readable, nextCursorOf, nextCursor_paginateHistory,
      List.length_append, List.length_map, List.length_map]
  have messageTimes : (messages.map (readItem platform store)).map key =
      (timelineOf store conversationId userId).shownMessages limit place := by
    rw [← findByConversation_messageTimes located, List.map_map]
    exact List.map_congr_left fun message _ => getTime_jsDate message.createdAt
  have eventTimes : (events.map eventItem).map key =
      (timelineOf store conversationId userId).shownEvents limit place := by
    rw [← findByConversation_eventTimes located, List.map_map]
    exact List.map_congr_left fun event _ => getTime_jsDate event.createdAt
  have messageCount := congrArg List.length messageTimes
  have eventCount := congrArg List.length eventTimes
  simp only [List.length_map] at messageCount eventCount
  have fromMessage : ∀ item, firstMin key (messages.map (readItem platform store)) = some item →
      Locates store conversationId (some item.id) (some (.message (key item))) := by
    intro item least
    obtain ⟨message, shown, rfl⟩ := List.mem_map.mp (firstMin_mem key least)
    obtain ⟨inside, same, -⟩ := mem_findByConversation shown
    have found := locates_message ids inside same
    rw [← getTime_jsDate] at found
    exact found
  have fromEvent : ∀ item, firstMin key (events.map eventItem) = some item →
      Locates store conversationId (some item.id) (some (.event (key item))) := by
    intro item least
    obtain ⟨event, shown, rfl⟩ := List.mem_map.mp (firstMin_mem key least)
    obtain ⟨inside, same⟩ := mem_eventsByConversation shown
    have found := locates_event ids inside same
    rw [← getTime_jsDate] at found
    exact found
  rw [answered, messageCount, eventCount, Timeline.next, ← messageTimes, ← eventTimes, min?_map_key,
    min?_map_key, firstMin_append]
  split
  · next many =>
      cases first : firstMin key (messages.map (readItem platform store)) with
      | none =>
          cases second : firstMin key (events.map eventItem) with
          | none => exact .inl ⟨rfl, rfl⟩
          | some event => exact .inr ⟨event.id, _, rfl, rfl, fromEvent event second⟩
      | some message =>
          cases second : firstMin key (events.map eventItem) with
          | none => exact .inr ⟨message.id, _, rfl, rfl, fromMessage message first⟩
          | some event =>
              by_cases tie : key message ≤ key event
              · refine .inr ⟨message.id, .message (key message), ?_, ?_, fromMessage message first⟩
                · simp only [if_pos tie, Option.map_some]
                · simp only [Option.map_some, Timeline.earlier, if_pos tie]
              · refine .inr ⟨event.id, .event (key event), ?_, ?_, fromEvent event second⟩
                · simp only [if_neg tie, Option.map_some]
                · simp only [Option.map_some, Timeline.earlier, if_neg tie]
  · exact .inl ⟨rfl, rfl⟩

end Step

end Messinger
