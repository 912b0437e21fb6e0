import Mathlib.Data.List.Infix
import Messinger.Proof.HistoryWindows

namespace Messinger
open Library ConversationMemberRepository MessageService

section Pages
variable {platform : Platform} {store : Store} {conversationId userId : Uuid} {limit : Nat}

/-- The walk puts later pages in front of the first one. -/
theorem pages_succ (cursor : Option Uuid) (count : Nat) :
    (walk (requestHistory platform store conversationId userId limit) nextCursorOf (count + 1)
        cursor).reverse.flatMap pageOf =
      (match nextCursorOf (requestHistory platform store conversationId userId limit cursor) with
        | none => []
        | some following => (walk (requestHistory platform store conversationId userId limit) nextCursorOf
            count (some following)).reverse.flatMap pageOf) ++
        pageOf (requestHistory platform store conversationId userId limit cursor) := by
  rw [walk, List.reverse_cons, List.flatMap_append, List.flatMap_singleton]
  cases nextCursorOf (requestHistory platform store conversationId userId limit cursor) <;> rfl

/-- The first page of a paginated history is the end of the history. -/
theorem firstPage_suffix
    (paginates : PaginatesChronologically platform store conversationId userId limit) :
    pageOf (requestHistory platform store conversationId userId limit none) <:+
      chronology platform store conversationId := by
  have first := paginates.1 1
  rw [pages_succ] at first
  exact (List.suffix_append _ _).trans first

/-- Without events the pages are the newest messages. -/
theorem paginates_of_no_events (readable : Readable platform store conversationId)
    (ids : DistinctIds store) (active : lastDeletedAt store conversationId userId = none)
    (times : DistinctTimes store conversationId) (noEvents : eventsOf store conversationId = []) :
    PaginatesChronologically platform store conversationId userId limit := by
  have start : Locates store conversationId none none := ⟨rfl, rfl⟩
  have whole : chronology platform store conversationId =
      (sortBy messageTime (messagesOf store conversationId)).map (readItem platform store) := by
    unfold chronology
    rw [noEvents, List.map_nil, List.append_nil, map_sortBy_readItem]
  constructor
  · intro count
    rw [whole]
    exact pages_of_no_events readable ids active times noEvents count start
  · obtain ⟨page, -⟩ := window_of_no_events limit readable active times noEvents start
    rw [page, whole]
    change (List.map _ (List.drop _ (sortBy messageTime (messagesOf store conversationId)))).getLast? = _
    rw [List.getLast?_map, List.getLast?_map, List.getLast?_drop]
    split
    · next short =>
        change (sortBy messageTime (messagesOf store conversationId)).length ≤
          (sortBy messageTime (messagesOf store conversationId)).length - (limit + 1) at short
        have empty : (sortBy messageTime (messagesOf store conversationId)).length = 0 := by omega
        rw [List.length_eq_zero_iff.mp empty]
        rfl
    · rfl

/-- A history within the limit is one page. -/
theorem paginates_of_short (readable : Readable platform store conversationId)
    (active : lastDeletedAt store conversationId userId = none)
    (times : DistinctTimes store conversationId)
    (short : (messagesOf store conversationId).length + (eventsOf store conversationId).length ≤ limit) :
    PaginatesChronologically platform store conversationId userId limit := by
  have window : (windowOf platform store conversationId userId limit none).length ≤ limit := by
    rw [length_firstWindow active]
    omega
  have whole := sortBy_firstWindow platform limit active times (by omega) (by omega)
  constructor
  · intro count
    cases count with
    | zero => exact List.nil_suffix
    | succ count =>
        rw [walk_of_short readable window, whole]
  · rw [pageOf_requestHistory readable, whole, List.take_of_length_le]
    rw [length_chronology]
    omega

/-- Events alone fill at most one page and an empty one. -/
theorem paginates_of_events (readable : Readable platform store conversationId)
    (ids : DistinctIds store) (active : lastDeletedAt store conversationId userId = none)
    (times : DistinctTimes store conversationId) (noMessages : messagesOf store conversationId = [])
    (few : (eventsOf store conversationId).length ≤ limit + 1) :
    PaginatesChronologically platform store conversationId userId limit := by
  have start : Locates store conversationId none none := ⟨rfl, rfl⟩
  have whole := sortBy_firstWindow platform limit active times
    (by rw [noMessages]; exact Nat.zero_le _) few
  have first : pageOf (requestHistory platform store conversationId userId limit none) =
      chronology platform store conversationId := by
    rw [pageOf_requestHistory readable, whole, List.take_of_length_le]
    rw [length_chronology, noMessages]
    simpa using few
  have noTimes : (timelineOf store conversationId userId).messages = [] := by
    rw [timelineOf_messages active, noMessages, List.map_nil]
  have noneShown : ∀ place, (timelineOf store conversationId userId).shownMessages limit place = [] := by
    intro place
    unfold Timeline.shownMessages
    rw [noTimes]
    split <;> exact latest_nil _
  refine ⟨?_, by rw [first]⟩
  intro count
  cases count with
  | zero => exact List.nil_suffix
  | succ count =>
      rw [pages_succ, first]
      obtain ⟨stops, -⟩ | ⟨following, target, goes, moves, located⟩ :=
        requestHistory_simulates userId limit readable ids start
      · rw [stops]
        exact List.suffix_rfl
      · rw [goes]
        obtain ⟨time, -, least, -⟩ | ⟨time, rfl, least, -⟩ := Timeline.next_cases moves
        · rw [noneShown] at least
          cases least
        · change (earliest (limit + 1) _).min? = _ at least
          rw [earliest_min?] at least
          have empty : (windowOf platform store conversationId userId limit (some following)).length = 0 := by
            rw [length_windowOf located, noneShown, Timeline.shownEvents_first least]
            rfl
          have nothing : (walk (requestHistory platform store conversationId userId limit) nextCursorOf
              count (some following)).reverse.flatMap pageOf = [] := by
            cases count with
            | zero => rfl
            | succ count =>
                rw [walk_of_short readable (by rw [empty]; exact Nat.zero_le _),
                  List.length_eq_zero_iff.mp empty]
                rfl
          simp only [nothing, List.nil_append]
          exact List.suffix_rfl

/-- An overfull first window shows older items instead of the newest one. -/
theorem not_paginates_of_overfull (readable : Readable platform store conversationId)
    (active : lastDeletedAt store conversationId userId = none)
    (times : DistinctTimes store conversationId)
    (overfull : limit + 1 < (windowOf platform store conversationId userId limit none).length) :
    ¬ PaginatesChronologically platform store conversationId userId limit := by
  intro paginates
  let sorted := sortBy itemTime (windowOf platform store conversationId userId limit none)
  have size : limit + 1 < sorted.length := by
    rw [List.length_insertionSort]
    exact overfull
  have page : pageOf (requestHistory platform store conversationId userId limit none) =
      sorted.take (limit + 1) := pageOf_requestHistory readable none
  have ends := firstPage_suffix paginates
  rw [page] at ends
  obtain ⟨newer, rest, left⟩ := List.exists_cons_of_ne_nil (List.ne_nil_of_length_pos
    (by rw [List.length_drop]; omega : 0 < (sorted.drop (limit + 1)).length))
  have increases : (sorted.take (limit + 1) ++ sorted.drop (limit + 1)).Pairwise
      fun first second => itemTime first < itemTime second := by
    rw [List.take_append_drop]
    exact pairwise_lt_sortBy (distinct_firstWindow active times)
  have inside : newer ∈ sorted.drop (limit + 1) := by
    rw [left]
    exact List.mem_cons_self
  have stored : newer ∈ chronology platform store conversationId := by
    have window := (List.mem_insertionSort _).mp (List.mem_of_mem_drop inside)
    exact (List.mem_insertionSort _).mpr ((firstWindow_subperm platform limit active).subset window)
  refine not_newer_of_suffix (chronology_increases times) ends ?_ stored ?_
  · apply List.ne_nil_of_length_pos
    rw [List.length_take]
    omega
  · exact fun shown present => (List.pairwise_append.mp increases).2.2 shown present newer inside

/-- Too many events alone leave out the newest one. -/
theorem not_paginates_of_many_events (readable : Readable platform store conversationId)
    (active : lastDeletedAt store conversationId userId = none)
    (times : DistinctTimes store conversationId) (noMessages : messagesOf store conversationId = [])
    (many : limit + 1 < (eventsOf store conversationId).length) :
    ¬ PaginatesChronologically platform store conversationId userId limit := by
  intro paginates
  let oldest := (eventsOf store conversationId).insertionSort fun first second =>
    first.createdAt ≤ second.createdAt
  have start : Locates store conversationId none none := ⟨rfl, rfl⟩
  have size : oldest.length = (eventsOf store conversationId).length := List.length_insertionSort _ _
  have window : windowOf platform store conversationId userId limit none =
      (oldest.take (limit + 1)).map eventItem := by
    unfold windowOf
    rw [findByConversation_before active start, findByConversation_oldest none rfl]
    change (List.map _ (List.take _ (List.insertionSort _ (messagesOf store conversationId)))) ++ _ = _
    rw [noMessages]
    rfl
  have ends := firstPage_suffix paginates
  rw [pageOf_requestHistory readable, window] at ends
  obtain ⟨newer, rest, left⟩ := List.exists_cons_of_ne_nil (List.ne_nil_of_length_pos
    (by rw [List.length_drop]; omega : 0 < (oldest.drop (limit + 1)).length))
  have inside : newer ∈ oldest.drop (limit + 1) := by
    rw [left]
    exact List.mem_cons_self
  have increases : (oldest.take (limit + 1) ++ oldest.drop (limit + 1)).Pairwise
      fun first second => getTime first.createdAt < getTime second.createdAt := by
    rw [List.take_append_drop]
    exact pairwise_lt_insertionSort (fun event : ConversationEvent => getTime event.createdAt)
      ConversationEvent.createdAt (fun _ _ ordered => Nat.div_le_div_right ordered)
      (List.nodup_append.mp times).2.1
  have stored : eventItem newer ∈ chronology platform store conversationId := by
    have present := (List.mem_insertionSort _).mp (List.mem_of_mem_drop inside)
    exact (List.mem_insertionSort _).mpr (List.mem_append_right _ (List.mem_map_of_mem present))
  refine not_newer_of_suffix (chronology_increases times) ends ?_ stored ?_
  · apply List.ne_nil_of_length_pos
    rw [List.length_take, List.length_insertionSort, List.length_map, List.length_take]
    omega
  · intro shown present
    obtain ⟨event, early, rfl⟩ :=
      List.mem_map.mp ((List.mem_insertionSort _).mp (List.mem_of_mem_take present))
    rw [itemTime_eventItem, itemTime_eventItem]
    exact (List.pairwise_append.mp increases).2.2 event early newer inside

/-- A mixed history that fills the first page exactly is shown again by the second request. -/
theorem not_paginates_of_full (readable : Readable platform store conversationId)
    (ids : DistinctIds store) (active : lastDeletedAt store conversationId userId = none)
    (messages : messagesOf store conversationId ≠ []) (events : eventsOf store conversationId ≠ [])
    (full : (messagesOf store conversationId).length + (eventsOf store conversationId).length = limit + 1) :
    ¬ PaginatesChronologically platform store conversationId userId limit := by
  intro paginates
  have start : Locates store conversationId none none := ⟨rfl, rfl⟩
  have someMessage := List.length_pos_iff.mpr messages
  have someEvent := List.length_pos_iff.mpr events
  have size : (windowOf platform store conversationId userId limit none).length = limit + 1 := by
    rw [length_firstWindow active]
    omega
  obtain ⟨-, halts⟩ | ⟨following, target, goes, -, located⟩ :=
    requestHistory_simulates userId limit readable ids start
  · rw [length_windowOf start] at size
    obtain ⟨place, moves⟩ := Timeline.next_isSome limit (timelineOf store conversationId userId) none
      (by omega)
    rw [moves] at halts
    cases halts
  · have two := (paginates.1 2).length_le
    have messageTimes : (timelineOf store conversationId userId).messages.length =
        (messagesOf store conversationId).length := by
      rw [timelineOf_messages active, List.length_map]
    have eventTimes : (timelineOf store conversationId userId).events.length =
        (eventsOf store conversationId).length := by
      change ((eventsOf store conversationId).map _).length = _
      rw [List.length_map]
    have again : 0 < (windowOf platform store conversationId userId limit (some following)).length := by
      rw [length_windowOf located]
      cases target with
      | message time =>
          change 0 < _ + (earliest (limit + 1) _).length
          rw [length_earliest, eventTimes]
          omega
      | event time =>
          change 0 < (latest (limit + 1) _).length + _
          rw [length_latest, messageTimes]
          omega
    rw [pages_succ, goes] at two
    simp only [pages_succ] at two
    rw [List.length_append, List.length_append, pageOf_requestHistory readable,
      pageOf_requestHistory readable, List.length_take, List.length_take, List.length_insertionSort,
      List.length_insertionSort, size, length_chronology, full] at two
    omega

end Pages

theorem lastDeletedAt_of_active {store : Store} {conversationId userId : Uuid} {member : ConversationMember}
    (found : findMember store conversationId userId = some member)
    (active : member.softDeletedAt = none) : lastDeletedAt store conversationId userId = none := by
  unfold lastDeletedAt
  rw [found, Option.bind_some, active]
  rfl

/-- The walk pages chronologically exactly without events, or when one page holds the history. -/
theorem history_paginates_iff {platform : Platform} {store : Store} {conversationId userId : Uuid}
    {limit : Nat} {member : ConversationMember} (readable : Readable platform store conversationId)
    (ids : DistinctIds store) (times : DistinctTimes store conversationId)
    (found : findMember store conversationId userId = some member)
    (active : member.softDeletedAt = none) :
    PaginatesChronologically platform store conversationId userId limit ↔
      eventsOf store conversationId = [] ∨
        (messagesOf store conversationId).length + (eventsOf store conversationId).length ≤ limit ∨
        (messagesOf store conversationId = [] ∧ (eventsOf store conversationId).length ≤ limit + 1) := by
  have undeleted := lastDeletedAt_of_active found active
  constructor
  · intro paginates
    by_contra outside
    obtain ⟨events, rest⟩ := not_or.mp outside
    obtain ⟨long, neither⟩ := not_or.mp rest
    have someEvent := List.length_pos_iff.mpr events
    by_cases messages : messagesOf store conversationId = []
    · have many := Nat.lt_of_not_le fun few => neither ⟨messages, few⟩
      exact not_paginates_of_many_events readable undeleted times messages many paginates
    · have someMessage := List.length_pos_iff.mpr messages
      by_cases full : (messagesOf store conversationId).length + (eventsOf store conversationId).length =
          limit + 1
      · exact not_paginates_of_full readable ids undeleted messages events full paginates
      · refine not_paginates_of_overfull readable undeleted times ?_ paginates
        rw [length_firstWindow undeleted]
        omega
  · rintro (noEvents | short | ⟨noMessages, few⟩)
    · exact paginates_of_no_events readable ids undeleted times noEvents
    · exact paginates_of_short readable undeleted times short
    · exact paginates_of_events readable ids undeleted times noMessages few

/-- User 1 creates group 10 and writes two messages to it. -/
def twoMessages : Store :=
  [1000000, 2000000].foldl
    (fun store now => (createGroupMessage plainPlatform { now } 1
      { conversationId := 10, content := [104], attachments := [] } store).2)
    (ConversationService.createGroup { now := 0 } 1 { name := "group" }
      (emptyStore [{ id := 1, role := .user, createdAt := 0 }] [] [] 10)).2

/-- Both messages and the event of the creation fit into a page of three. -/
theorem twoMessages_paginates : PaginatesChronologically plainPlatform twoMessages 10 1 3 := by
  have readable : Readable plainPlatform twoMessages 10 := by
    unfold Readable
    decide
  have ids : DistinctIds twoMessages := by
    constructor <;> decide
  have times : DistinctTimes twoMessages 10 := by
    unfold DistinctTimes
    decide
  have found : findMember twoMessages 10 1 =
      some { conversationId := 10, userId := 1, role := .owner, createdAt := 0 } := by
    decide
  exact (history_paginates_iff readable ids times found rfl).mpr (.inr (.inl (by decide)))

/-- The first page of at most one item per call ends with the older of the two messages. -/
theorem twoMessages_newest_not_on_first_page :
    ¬ PaginatesChronologically plainPlatform twoMessages 10 1 1 := by
  intro paginates
  have newest := paginates.2
  revert newest
  decide

end Messinger
