import Messinger.Proof.ActiveOwner
import Messinger.Proof.Contents
import Messinger.Proof.HistoryPages

namespace Messinger
open Library ConversationMemberRepository ConversationRepository ConversationService MessageService

/-- The user has deleted the conversation at the given time, and its older messages stay behind the
deletion date of the user's row. -/
structure Hidden (userId conversationId : Uuid) (time : Nat) (store : Store) : Prop where
  known : conversationId < store.nextId
  behind : ∀ message ∈ store.messages, message.conversationId = conversationId →
    message.createdAt ≤ time → ∃ row deleted,
      findMember store conversationId userId = some row ∧ row.softDeletedAt = some deleted ∧
        message.createdAt ≤ jsDate deleted

theorem jsDate_jsDate (time : Nat) : jsDate (jsDate time) = jsDate time := by
  unfold jsDate
  omega

section Writes
variable {userId conversationId : Uuid} {time : Nat} {store : Store}

/-- A store with the same rows of the user and no new old message keeps the history hidden. -/
theorem Hidden.of_rows {next : Store} (hidden : Hidden userId conversationId time store)
    (later : store.nextId ≤ next.nextId)
    (messages : ∀ message ∈ next.messages, message.conversationId = conversationId →
      message.createdAt ≤ time → message ∈ store.messages)
    (rows : ∀ row deleted, findMember store conversationId userId = some row →
      row.softDeletedAt = some deleted →
      (∃ message ∈ store.messages, message.conversationId = conversationId ∧
        message.createdAt ≤ time) →
      ∃ after, findMember next conversationId userId = some after ∧
        after.softDeletedAt = some deleted) :
    Hidden userId conversationId time next := by
  refine ⟨Nat.lt_of_lt_of_le hidden.known later, ?_⟩
  intro message inside same old
  have present := messages message inside same old
  obtain ⟨row, deleted, found, date, before⟩ := hidden.behind message present same old
  obtain ⟨after, foundAfter, dateAfter⟩ := rows row deleted found date ⟨message, present, same, old⟩
  exact ⟨after, deleted, foundAfter, dateAfter, before⟩

/-- Another deletion does not touch the row, because a deleted row cannot be deleted again. -/
theorem Hidden.mark (hidden : Hidden userId conversationId time store) (now : Nat)
    {otherConversation otherUser : Uuid} {member : ConversationMember}
    (found : findMember store otherConversation otherUser = some member)
    (active : member.softDeletedAt = none) :
    Hidden userId conversationId time
      (markConversationAsDeleted now otherConversation otherUser store) := by
  refine hidden.of_rows (Nat.le_refl _) ?_ ?_
  · exact fun message inside _ _ => inside
  intro row deleted foundRow date _
  refine ⟨row, ?_, date⟩
  rw [← foundRow]
  apply findMember_updateMember_other
  · exact fun _ => rfl
  · intro same
    obtain ⟨rfl, rfl⟩ := Prod.mk.inj same
    rw [found] at foundRow
    cases foundRow
    rw [active] at date
    cases date

/-- A deleted conversation takes its messages along. -/
theorem Hidden.deleteConversation (hidden : Hidden userId conversationId time store)
    (other : Uuid) :
    Hidden userId conversationId time (deleteConversation other store) := by
  refine ⟨hidden.known, ?_⟩
  intro message inside same old
  obtain ⟨present, kept⟩ := List.mem_filter.mp inside
  obtain ⟨row, deleted, found, date, before⟩ := hidden.behind message present same old
  refine ⟨row, deleted, ?_, date, before⟩
  rw [← found]
  apply findMember_deleteConversations store (fun id => id == other)
  change (!(message.conversationId == other)) = true at kept
  rw [same] at kept
  simpa using kept

theorem Hidden.deletePrivate (hidden : Hidden userId conversationId time store) (env : Env)
    (otherUser otherConversation : Uuid) :
    Hidden userId conversationId time
      (deletePrivateConversation env otherUser otherConversation store).2 := by
  have step := deletionStep env otherUser otherConversation store
  generalize (deletePrivateConversation env otherUser otherConversation store).2 = next at step ⊢
  cases step with
  | refused => exact hidden
  | hides conversation member found type foundMember active => exact hidden.mark env.now foundMember active
  | drops conversation member found type foundMember active =>
      exact (hidden.mark env.now foundMember active).deleteConversation otherConversation

/-- Whoever remains in the conversation after a deletion was an active member before it. -/
theorem remains_of_mark {now : Nat}
    (remaining : getRemainingConversations (markConversationAsDeleted now conversationId userId store)
      conversationId ≠ 0) : ∃ member ∈ getMembers store conversationId, member.userId ≠ userId := by
  unfold getRemainingConversations at remaining
  obtain ⟨member, inside⟩ := List.exists_mem_of_length_pos (Nat.pos_of_ne_zero remaining)
  obtain ⟨row, selected⟩ := List.mem_filter.mp inside
  obtain ⟨old, present, equal⟩ := mem_updateWhere.mp row
  split at equal
  · rw [equal] at selected
    simp at selected
  · rename_i other
    subst equal
    refine ⟨member, List.mem_filter.mpr ⟨present, selected⟩, ?_⟩
    intro same
    simp only [Bool.and_eq_true, beq_iff_eq] at selected
    apply other
    rw [ConversationMember.key, selected.1, same]
    exact decide_eq_true rfl

/-- A deletion that leaves the conversation to another user hides the messages that are not of the
deletion's own millisecond. -/
theorem hidden_of_deletePrivate (governed : Governed rule store) (env : Env)
    (done : (deletePrivateConversation env userId conversationId store).1.isOk = true)
    (apart : (∃ member ∈ getMembers store conversationId, member.userId ≠ userId) →
      ∀ message ∈ store.messages, message.conversationId = conversationId →
        message.createdAt ≤ env.now → message.createdAt ≤ jsDate env.now) :
    Hidden userId conversationId env.now
      (deletePrivateConversation env userId conversationId store).2 := by
  obtain ⟨exception, failed⟩ | ⟨conversation, member, found, -, foundMember, -, equal⟩ :=
    deletePrivateConversation_cases env userId conversationId store
  · rw [failed] at done
    cases done
  · obtain ⟨inside, id⟩ := findById_some found
    have known := governed.conversationsKnown conversation inside
    rw [id] at known
    rw [equal]
    unfold deletePrivateConversationBody
    simp only
    split
    · refine ⟨known, ?_⟩
      intro message present same _
      have kept := (List.mem_filter.mp present).2
      change (!(message.conversationId == conversationId)) = true at kept
      simp [same] at kept
    · rename_i remaining
      refine ⟨known, ?_⟩
      intro message present same old
      refine ⟨{ member with softDeletedAt := some (jsDate env.now) }, jsDate env.now, ?_, rfl, ?_⟩
      · have mapped := findMember_updateMember_same store conversationId userId
          (fun row => { row with softDeletedAt := some (jsDate env.now) }) (fun _ => rfl)
        rw [foundMember] at mapped
        exact mapped
      · rw [jsDate_jsDate]
        exact apart (remains_of_mark remaining) message present same old

theorem Hidden.opened (hidden : Hidden userId conversationId time store) (now : Nat)
    (params : CreateConversationParams) (privateKey : Option Text) (uniqueMembers : List Text) :
    Hidden userId conversationId time (opened now params privateKey uniqueMembers store) := by
  refine hidden.of_rows (Nat.le_succ _) ?_ ?_
  · exact fun message inside _ _ => inside
  intro row deleted found date _
  refine ⟨row, ?_, date⟩
  have appended := findMember_append store (newMembers now params uniqueMembers store.nextId)
    conversationId userId
  rw [found, Option.some_or] at appended
  exact appended

theorem Hidden.restoreIfDeleted (hidden : Hidden userId conversationId time store) (now : Nat)
    (member : Option ConversationMember) (otherConversation otherUser : Uuid)
    (allowed : otherConversation = conversationId → otherUser = userId →
      (∃ row, findMember store conversationId userId = some row ∧ row.softDeletedAt.isSome = true) →
      ∀ message ∈ store.messages, message.conversationId = conversationId → time < message.createdAt) :
    Hidden userId conversationId time
      (restoreIfDeleted now member otherConversation otherUser store) := by
  unfold MessageService.restoreIfDeleted
  split
  · refine hidden.of_rows (Nat.le_refl _) ?_ ?_
    · exact fun message inside _ _ => inside
    intro row deleted found date old
    refine ⟨row, ?_, date⟩
    rw [← found]
    apply findMember_updateMember_other
    · exact fun _ => rfl
    · intro same
      obtain ⟨rfl, rfl⟩ := Prod.mk.inj same
      obtain ⟨message, inside, place, before⟩ := old
      have later := allowed rfl rfl ⟨row, found, by rw [date]; rfl⟩ message inside place
      exact absurd before (Nat.not_le_of_lt later)
  · exact hidden

theorem Hidden.persisted (hidden : Hidden userId conversationId time store) (now : Nat)
    (senderId otherConversation : Uuid) (members : List ConversationMember) (ciphered : CipheredMessage)
    (uploads : List PendingUpload) (later : otherConversation = conversationId → time < now) :
    Hidden userId conversationId time
      (persisted now senderId otherConversation members ciphered uploads store) := by
  apply hidden.of_rows
  · exact Nat.le_trans (Nat.le_add_right _ (1 + (recipients members senderId).length)) (by
      rw [← Nat.add_assoc]
      exact Nat.le_add_right _ _)
  · intro message inside same old
    obtain present | new := List.mem_append.mp inside
    · exact present
    · rw [List.mem_singleton] at new
      subst new
      exact absurd old (Nat.not_le_of_lt (later same))
  · intro row deleted found date _
    refine ⟨countUnread otherConversation (recipients members senderId) row, ?_, date⟩
    unfold findMember lookup at found ⊢
    change List.find? _ (store.members.map _) = _
    rw [List.find?_map]
    exact Option.map_eq_some_iff.mpr ⟨row, found, rfl⟩

/-- Restoring never deletes a row. -/
theorem deleted_of_restoreIfDeleted (now : Nat) (member : Option ConversationMember)
    (otherConversation otherUser : Uuid) (store : Store) {row : ConversationMember}
    (found : findMember (restoreIfDeleted now member otherConversation otherUser store) conversationId
      userId = some row) (deleted : row.softDeletedAt.isSome = true) :
    findMember store conversationId userId = some row := by
  unfold MessageService.restoreIfDeleted at found
  split at found
  · by_cases same : (conversationId, userId) = (otherConversation, otherUser)
    · obtain ⟨rfl, rfl⟩ := Prod.mk.inj same
      have mapped := findMember_updateMember_same store conversationId userId
        (fun member => { member with softDeletedAt := none, restoredAt := some (jsDate now) })
        (fun _ => rfl)
      change findMember (restoreConversation now conversationId userId store) _ _ = _ at mapped
      rw [found] at mapped
      obtain ⟨old, -, equal⟩ := Option.map_eq_some_iff.mp mapped.symm
      rw [← equal] at deleted
      cases deleted
    · rw [← found]
      symm
      apply findMember_updateMember_other
      · exact fun _ => rfl
      · exact same
  · exact found

/-- A message restores a deleted row only where no older message would come back. -/
def RestoresNothing (platform : Platform) (userId conversationId : Uuid) (time : Nat) (now : Nat)
    (senderId : Uuid) (dto : PrivateMessageDto) (store : Store) : Prop :=
  ∀ conversation, findByPrivateKey store (generatePrivateKey platform
      (normalizeMembers (uuidText senderId) [dto.receiverId])) = some conversation →
    conversation.id = conversationId →
    time < now ∧
      (userId = senderId ∨ userId = parseUuid dto.receiverId →
        (∃ row, findMember store conversationId userId = some row ∧
          row.softDeletedAt.isSome = true) →
        ∀ message ∈ store.messages, message.conversationId = conversationId →
          time < message.createdAt)

theorem Hidden.createPrivateMessage (hidden : Hidden userId conversationId time store)
    (platform : Platform) (env : Env) (senderId : Uuid) (dto : PrivateMessageDto)
    (restores : (MessageService.createPrivateMessage platform env senderId dto store).1.isOk = true →
      RestoresNothing platform userId conversationId time env.now senderId dto store) :
    Hidden userId conversationId time (createPrivateMessage platform env senderId dto store).2 := by
  obtain ⟨exception, failed⟩ | ⟨conversation, between, opening, outcome⟩ :=
    createPrivateMessage_cases platform env senderId dto store
  · rw [failed]
    exact hidden
  have opens : Hidden userId conversationId time between ∧
      (conversation.id = conversationId → between = store ∧ findByPrivateKey store
        (generatePrivateKey platform (normalizeMembers (uuidText senderId) [dto.receiverId])) =
          some conversation) := by
    obtain ⟨exception, failed⟩ | ⟨privateKey, found, next, key, equal, ⟨same, existing⟩ |
      ⟨-, new, final, -⟩⟩ := getOrCreatePrivateConversation_cases platform env
        (privateMessageParams senderId dto) rfl store
    · rw [failed] at opening
      cases opening
    · rw [equal] at opening
      cases opening
      rw [same]
      refine ⟨hidden, fun _ => ⟨rfl, ?_⟩⟩
      rw [key] at existing
      exact existing
    · rw [equal] at opening
      cases opening
      refine ⟨final ▸ hidden.opened env.now _ _ _, ?_⟩
      intro id
      rw [new] at id
      exact absurd hidden.known (by rw [← id]; exact Nat.lt_irrefl _)
  obtain ⟨still, existing⟩ := opens
  obtain ⟨exception, failed⟩ | ⟨saved, next, equal, -, -, uploads, -, final⟩ := outcome
  · rw [failed]
    exact still
  have nothing := restores (by rw [equal]; rfl)
  rw [equal]
  subst final
  apply Hidden.persisted
  · apply Hidden.restoreIfDeleted
    · apply still.restoreIfDeleted
      intro id user deleted
      obtain ⟨same, found⟩ := existing id
      rw [same] at deleted ⊢
      exact (nothing conversation found id).2 (.inl user.symm) deleted
    · rintro id user ⟨row, foundRow, deleted⟩
      obtain ⟨same, found⟩ := existing id
      obtain ⟨rows, shape⟩ : ∃ rows, MessageService.restoreIfDeleted env.now
          (findMember between conversation.id senderId) conversation.id senderId between =
            { between with members := rows } := by
        unfold MessageService.restoreIfDeleted
        split <;> exact ⟨_, rfl⟩
      have before := deleted_of_restoreIfDeleted env.now _ _ _ between foundRow deleted
      rw [shape]
      rw [same] at before ⊢
      exact (nothing conversation found id).2 (.inr user.symm) ⟨row, before, deleted⟩
  · intro id
    exact (nothing conversation (existing id).2 id).1

end Writes

end Messinger
