import Messinger.Abstract.TimelineWalks
import Messinger.Model.ConversationCalls
import Messinger.Proof.HistoryWalk

namespace Messinger
open Library MessageService

/-- A client that passes every next cursor on gets an answer without one. -/
def HistoryWalkEnds (platform : Platform) (store : Store) (conversationId userId : Uuid) (limit : Nat) :
    Prop :=
  ∃ count, ∃ answer ∈ walk (requestHistory platform store conversationId userId limit) nextCursorOf
      count none,
    ∃ page, answer = .ok page ∧ page.nextCursor = none

/-- Every answer of a readable history is a page. -/
theorem requestHistory_ok {platform : Platform} {store : Store} {conversationId : Uuid}
    (readable : Readable platform store conversationId) (userId : Uuid) (limit : Nat)
    (cursor : Option Uuid) :
    ∃ page, requestHistory platform store conversationId userId limit cursor = .ok page :=
  ⟨_, getConversationMessages_of_readable readable⟩

/-- The history walk ends exactly when the walk over the two timelines does. -/
theorem historyWalkEnds_iff_ends {platform : Platform} {store : Store} {conversationId userId : Uuid}
    {limit : Nat} (readable : Readable platform store conversationId) (ids : DistinctIds store) :
    HistoryWalkEnds platform store conversationId userId limit ↔
      Ends ((timelineOf store conversationId userId).next limit) none := by
  have related := ends_iff_of_related
    (fun cursor => nextCursorOf (requestHistory platform store conversationId userId limit cursor))
    (Locates store conversationId)
    (fun cursor place located => requestHistory_simulates userId limit readable ids located)
    none none ⟨rfl, rfl⟩
  rw [← related, ends_iff_walk]
  constructor
  · rintro ⟨count, answer, inside, page, rfl, last⟩
    exact ⟨count, _, inside, last⟩
  · rintro ⟨count, answer, inside, last⟩
    obtain ⟨cursor, rfl⟩ := mem_walk _ _ inside
    obtain ⟨page, answered⟩ := requestHistory_ok readable userId limit cursor
    rw [answered] at last
    exact ⟨count, _, inside, page, answered, last⟩

/-- The history walk ends exactly when the condition on the two timelines holds. -/
theorem history_walk_ends_iff {platform : Platform} {store : Store} {conversationId userId : Uuid}
    {limit : Nat} (readable : Readable platform store conversationId) (ids : DistinctIds store) :
    HistoryWalkEnds platform store conversationId userId limit ↔
      (timelineOf store conversationId userId).Finishes limit :=
  (historyWalkEnds_iff_ends readable ids).trans Timeline.ends_iff_finishes

/-- User 1 creates group 10 and writes three messages to it. -/
def threeMessages : Store :=
  [1000000, 2000000, 3000000].foldl
    (fun store now => (createGroupMessage plainPlatform { now } 1
      { conversationId := 10, content := [104], attachments := [] } store).2)
    (ConversationService.createGroup { now := 0 } 1 { name := "group" }
      (emptyStore [{ id := 1, role := .user, createdAt := 0 }] [] [] 10)).2

theorem threeMessages_readable : Readable plainPlatform threeMessages 10 := by
  unfold Readable
  decide

theorem threeMessages_ids : DistinctIds threeMessages := by
  constructor <;> decide

/-- With two items asked for at a time, the first window holds all messages and the walk ends. -/
theorem threeMessages_walk_ends : HistoryWalkEnds plainPlatform threeMessages 10 1 2 :=
  (history_walk_ends_iff threeMessages_readable threeMessages_ids).mpr (.inr (.inr ⟨by decide, .inl (by decide)⟩))

/-- With one item asked for at a time, the walk goes back and forth between event 11 and message 13. -/
theorem threeMessages_walk_cycles : ¬ HistoryWalkEnds plainPlatform threeMessages 10 1 1 := by
  rintro ⟨count, answer, inside, page, rfl, last⟩
  have ends : Ends (fun cursor => nextCursorOf (requestHistory plainPlatform threeMessages 10 1 1 cursor))
      none := (ends_iff_walk _ _ none).mpr ⟨count, _, inside, last⟩
  refine not_ends_of_closed _
    (fun cursor => cursor = none ∨ cursor = some 11 ∨ cursor = some 13) ?_ (.inl rfl) ends
  rintro cursor (rfl | rfl | rfl)
  · exact ⟨11, by decide, .inr (.inl rfl)⟩
  · exact ⟨13, by decide, .inr (.inr rfl)⟩
  · exact ⟨11, by decide, .inr (.inl rfl)⟩

end Messinger
