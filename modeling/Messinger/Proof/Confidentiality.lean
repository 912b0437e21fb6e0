import Messinger.Proof.EntitledMessages

namespace Messinger
open Library ConversationMemberRepository MessageService

/-- Stores that differ in messages to which the user was never entitled give the same answer. -/
def Confidential (platform : Platform) (userId : Uuid) (dto : GetConversationMessagesDto)
    (store : Store) : Prop :=
  ∀ second, Legible platform dto.conversationId second →
    DifferInUnentitled dto.conversationId userId store second →
    getConversationMessages platform store userId dto =
      getConversationMessages platform second userId dto

/-- The cursor is a message that the user may see, or older events fill the page. -/
def CoversUnentitled (userId : Uuid) (dto : GetConversationMessagesDto) (store : Store) : Prop :=
  ∃ deleted, lastDeletedAt store dto.conversationId userId = some deleted ∧
    ((∃ message ∈ store.messages, dto.cursor = some message.id ∧
        message.conversationId = dto.conversationId ∧ message.createdAt ≤ deleted) ∨
      (dto.limit < (ConversationEventRepository.findByConversation store dto.conversationId dto.limit
          dto.cursor).length ∧
        ∀ event ∈ ConversationEventRepository.findByConversation store dto.conversationId dto.limit
          dto.cursor, getTime event.createdAt < getTime deleted))

/-- An answer that the condition covers is the same in every such store. -/
theorem confidential_of_covers {platform : Platform} {userId : Uuid}
    {dto : GetConversationMessagesDto} {store : Store}
    (legible : Legible platform dto.conversationId store) (covers : CoversUnentitled userId dto store) :
    Confidential platform userId dto store := by
  intro second secondLegible differ
  have members : second.members = store.members := (congrArg Store.members differ).symm
  have events : second.events = store.events := (congrArg Store.events differ).symm
  rw [getConversationMessages_of_readable legible.readable,
    getConversationMessages_of_readable secondLegible.readable, lastDeletedAt_congr members,
    events_congr events]
  obtain ⟨deleted, date, ⟨message, inside, cursor, place, old⟩ | ⟨full, older⟩⟩ := covers
  · have kept : message ∈ second.messages := by
      have entitled : message ∈ (store.deleteMessages
          (unentitled store dto.conversationId userId)).messages := by
        refine List.mem_filter.mpr ⟨inside, ?_⟩
        simp only [unentitled, place, date, Option.all_some, beq_self_eq_true, Bool.true_and]
        rw [decide_eq_false (Nat.not_lt_of_le old), Bool.and_false]
        rfl
      have shared : message ∈ (second.deleteMessages
          (unentitled store dto.conversationId userId)).messages := by
        rw [← differ]
        exact entitled
      exact (List.mem_filter.mp shared).1
    have before : jsDate message.createdAt ≤ deleted := Nat.le_trans (jsDate_le _) old
    have here := cursorCreatedAt_of_mem legible.distinct inside place
    have there := cursorCreatedAt_of_mem secondLegible.distinct kept place
    rw [← cursor] at here there
    rw [date, findByConversation_eq_nil here before, findByConversation_eq_nil there before]
    rfl
  · have bounded : (ConversationEventRepository.findByConversation store dto.conversationId dto.limit
        dto.cursor).length ≤ dto.limit + 1 := List.length_take_le _ _
    have fits : ((ConversationEventRepository.findByConversation store dto.conversationId dto.limit
        dto.cursor).map eventItem).length = dto.limit + 1 := by
      rw [List.length_map]
      omega
    have later : ∀ other : Store, ∀ item ∈ (MessageRepository.findByConversation other
          dto.conversationId dto.limit dto.cursor (some deleted)).map (readItem platform other),
        ∀ event ∈ (ConversationEventRepository.findByConversation store dto.conversationId dto.limit
          dto.cursor).map eventItem, getTime event.createdAt < getTime item.createdAt := by
      intro other item fromMessages event fromEvents
      obtain ⟨message, found, rfl⟩ := List.mem_map.mp fromMessages
      obtain ⟨row, present, rfl⟩ := List.mem_map.mp fromEvents
      obtain ⟨-, -, newer⟩ := mem_findByConversation found
      change getTime (jsDate row.createdAt) < getTime (jsDate message.createdAt)
      rw [getTime_jsDate, getTime_jsDate]
      have strictly := newer deleted rfl
      refine Nat.lt_of_lt_of_le (older row present) ?_
      exact Nat.div_le_div_right (Nat.le_of_lt strictly)
    rw [date, paginateHistory_of_events fits (later store), paginateHistory_of_events fits (later second)]

/-- Outside the condition, the answer shows whether a fresh unentitled message exists. -/
theorem covers_of_confidential {platform : Platform} (opens : platform.Opens) {userId : Uuid}
    {dto : GetConversationMessagesDto} {store : Store}
    (legible : Legible platform dto.conversationId store)
    (inactive : existsMember store dto.conversationId userId = false)
    (confidential : Confidential platform userId dto store) : CoversUnentitled userId dto store := by
  by_contra uncovered
  obtain ⟨id, notCursor, notMessage, notDelivery, notAttachment, notLast⟩ :=
    exists_fresh_message store dto.cursor
  let time := (lastDeletedAt store dto.conversationId userId).elim 0 fun deleted => deleted + 1
  let message := probe platform dto.conversationId id time
  let entitled := entitledPart store dto.conversationId userId
  have hidden : unentitled store dto.conversationId userId message = true := by
    unfold unentitled
    rw [inactive]
    cases date : lastDeletedAt store dto.conversationId userId with
    | none => simp [message, probe]
    | some deleted => simp [message, probe, time, date]
  have undated : MessageRepository.cursorCreatedAt (addMessage entitled message) dto.conversationId
      dto.cursor = none := by
    apply cursorCreatedAt_addMessage notCursor
    intro other present cursor place
    unfold unentitled
    rw [inactive, place, beq_self_eq_true, Bool.not_false, Bool.true_and, Bool.true_and]
    cases date : lastDeletedAt store dto.conversationId userId with
    | none => rfl
    | some deleted =>
        rw [Option.all_some, decide_eq_true_eq]
        by_contra old
        exact uncovered ⟨deleted, date, .inl ⟨other, present, cursor, place, Nat.le_of_not_lt old⟩⟩
  have entitledLegible : Legible platform dto.conversationId entitled := legible_entitledPart legible
  have probedLegible : Legible platform dto.conversationId (addMessage entitled message) :=
    legible_addMessage entitledLegible (fun other inside => notMessage other (mem_entitledPart inside).1)
      (probe_readable opens dto.conversationId id time)
  have same : getConversationMessages platform (addMessage entitled message) userId dto =
      getConversationMessages platform entitled userId dto :=
    (confidential _ probedLegible (differ_addMessage hidden notDelivery notAttachment notLast)).symm.trans
      (confidential _ entitledLegible differ_entitledPart)
  have members : entitled.members = store.members := rfl
  have members' : (addMessage entitled message).members = store.members := rfl
  rw [getConversationMessages_of_readable probedLegible.readable,
    getConversationMessages_of_readable entitledLegible.readable, lastDeletedAt_congr members,
    lastDeletedAt_congr members', findByConversation_entitledPart inactive,
    findByConversation_addMessage inactive hidden undated] at same
  refine paginateHistory_shows (readItem platform (addMessage entitled message) message) rfl ?_
    (Except.ok.inj same)
  have early : getTime (readItem platform (addMessage entitled message) message).createdAt = getTime time :=
    getTime_jsDate time
  have bounded : (ConversationEventRepository.findByConversation store dto.conversationId dto.limit
      dto.cursor).length ≤ dto.limit + 1 := List.length_take_le _ _
  have events : ConversationEventRepository.findByConversation (addMessage entitled message)
      dto.conversationId dto.limit dto.cursor = ConversationEventRepository.findByConversation store
        dto.conversationId dto.limit dto.cursor := events_congr rfl _ _ _
  rw [early, events]
  by_contra filled
  obtain ⟨full, older⟩ := not_or.mp filled
  have older' : ∀ event ∈ ConversationEventRepository.findByConversation store dto.conversationId
      dto.limit dto.cursor, getTime event.createdAt < getTime time := by
    intro event inside
    by_contra newer
    exact older ⟨event, inside, Nat.le_of_not_lt newer, bounded⟩
  cases date : lastDeletedAt store dto.conversationId userId with
  | none =>
      obtain ⟨event, inside⟩ := List.exists_mem_of_length_pos
        (Nat.lt_of_lt_of_le (Nat.succ_pos dto.limit) (Nat.le_of_not_lt full))
      have impossible := older' event inside
      simp only [time, date] at impossible
      exact Nat.not_lt_zero _ impossible
  | some deleted =>
      refine uncovered ⟨deleted, date, .inr ⟨Nat.lt_of_succ_le (Nat.le_of_not_lt full), ?_⟩⟩
      intro event inside
      have sameTime : getTime (deleted + 1) = getTime deleted := by
        have whole := jsDate_lastDeletedAt date
        unfold jsDate at whole
        unfold getTime
        omega
      have earlier := older' event inside
      simp only [time, date] at earlier
      rw [← sameTime]
      exact earlier

/-- A user who is not an active member learns nothing from the answer exactly when the condition
holds. -/
theorem history_confidential_iff {platform : Platform} (opens : platform.Opens) {userId : Uuid}
    {dto : GetConversationMessagesDto} {store : Store}
    (legible : Legible platform dto.conversationId store)
    (inactive : existsMember store dto.conversationId userId = false) :
    Confidential platform userId dto store ↔ CoversUnentitled userId dto store :=
  ⟨covers_of_confidential opens legible inactive, confidential_of_covers legible⟩

/-- User 3 joins group 10, and user 1 writes message 14 before user 3 leaves and another message afterwards. -/
def departedGroup : Store :=
  let joined := [(({ now := 1000000 } : Env), GroupCall.createGroup 1 { name := "group" }),
    ({ now := 2000000 }, .validateGroupInvitation 1 { conversationId := 10, targetUserId := uuidText 3 }),
    ({ now := 3000000 }, .acceptGroupInvitation 10 3)].foldl runGroupCall
      (emptyStore ([1, 3].map fun id => { id, role := .user, createdAt := 0 }) [] [] 10)
  let message : GroupMessageDto := { conversationId := 10, content := [104], attachments := [] }
  let written := (createGroupMessage plainPlatform { now := 4000000 } 1 message joined).2
  let left := runGroupCall written ({ now := 5000000 }, .leaveGroup 3 10)
  (createGroupMessage plainPlatform { now := 6000000 } 1 message left).2

/-- The page before message 14 tells user 3 nothing about the message that came after the departure. -/
theorem departedGroup_confidential :
    Confidential plainPlatform 3 { conversationId := 10, limit := 20, cursor := some 14 } departedGroup := by
  have legible : Legible plainPlatform 10 departedGroup := by
    refine ⟨by decide, ?_⟩
    unfold Readable
    decide
  refine (history_confidential_iff plainPlatform_opens legible (by decide)).mpr ?_
  exact ⟨5000000, by decide, .inl (by decide)⟩

/-- User 1 creates group 10 and writes a message to it, which user 3 never joined. -/
def writtenGroup : Store :=
  (createGroupMessage plainPlatform { now := 1000000 } 1
    { conversationId := 10, content := [104], attachments := [] }
    (ConversationService.createGroup { now := 0 } 1 { name := "group" }
      (emptyStore ([1, 3].map fun id => { id, role := .user, createdAt := 0 }) [] [] 10)).2).2

theorem writtenGroup_legible : Legible plainPlatform 10 writtenGroup := by
  constructor
  · decide
  · unfold Readable
    decide

/-- User 3 reads the message of the group without ever having been a member. -/
theorem outsider_reads_group_history :
    (ConversationRepository.findById writtenGroup 10).map Conversation.type = some .groupType ∧
      findMember writtenGroup 10 3 = none ∧
      ¬ Confidential plainPlatform 3 { conversationId := 10, limit := 20 } writtenGroup := by
  refine ⟨by decide, by decide, ?_⟩
  intro confidential
  have same := confidential (entitledPart writtenGroup 10 3)
    (legible_entitledPart writtenGroup_legible) differ_entitledPart
  revert same
  decide

end Messinger
