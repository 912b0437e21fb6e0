import Messinger.Proof.HiddenHistory

namespace Messinger
open Library ConversationMemberRepository ConversationRepository ConversationService MessageService

theorem Governed.runPrivate {store : Store} (governed : Governed rule store) (platform : Platform)
    (action : Env × PrivateCall) : Governed rule (runPrivateCall platform store action) := by
  obtain ⟨env, call⟩ := action
  cases call with
  | createPrivateMessage senderId dto => exact governed.createPrivateMessage platform env senderId dto
  | deletePrivateConversation userId conversationId =>
      exact governed.deletePrivate env userId conversationId

theorem messagesKnown_createPrivateMessage {store : Store} (known : MessagesKnown store)
    (platform : Platform) (env : Env) (senderId : Uuid) (dto : PrivateMessageDto) :
    MessagesKnown (createPrivateMessage platform env senderId dto store).2 := by
  obtain ⟨exception, failed⟩ | ⟨conversation, between, opening, outcome⟩ :=
    createPrivateMessage_cases platform env senderId dto store
  · rw [failed]
    exact known
  have opens : MessagesKnown between := by
    obtain ⟨exception, failed⟩ | ⟨privateKey, found, next, -, equal, ⟨same, -⟩ | ⟨-, -, final, -⟩⟩ :=
      getOrCreatePrivateConversation_cases platform env (privateMessageParams senderId dto) rfl store
    · rw [failed] at opening
      cases opening
    · rw [equal] at opening
      cases opening
      rw [same]
      exact known
    · rw [equal] at opening
      cases opening
      rw [final]
      exact known.of_same rfl (Nat.le_succ _)
  obtain ⟨exception, failed⟩ | ⟨saved, next, equal, -, -, uploads, -, final⟩ := outcome
  · rw [failed]
    exact opens
  · rw [equal]
    subst final
    obtain ⟨rows, shape⟩ := restored_eq env.now senderId (parseUuid dto.receiverId) conversation.id between
    rw [shape]
    apply opens.append rfl rfl
    exact Nat.lt_of_lt_of_le (Nat.lt_succ_self _)
      (Nat.le_trans (Nat.le_add_right _ (recipients _ senderId).length) (Nat.le_add_right _ _))

theorem messagesKnown_deletePrivate {store : Store} (known : MessagesKnown store) (env : Env)
    (userId conversationId : Uuid) :
    MessagesKnown (deletePrivateConversation env userId conversationId store).2 := by
  have step := deletionStep env userId conversationId store
  generalize (deletePrivateConversation env userId conversationId store).2 = next at step ⊢
  cases step with
  | refused => exact known
  | hides => exact known.of_same rfl (Nat.le_refl _)
  | drops => exact known.filter rfl (Nat.le_refl _)

section Run
variable (platform : Platform) (start : Store) (actions : List (Env × PrivateCall))

/-- This is the store before the call at the given position of the run. -/
def privateStoreAt (position : Nat) : Store :=
  stateAt (runPrivateCall platform) start actions position

/-- The call at the position deletes the conversation for the user at the given time. -/
def DeletesAt (position : Nat) (userId conversationId : Uuid) (time : Nat) : Prop :=
  ∃ env, actions[position]? = some (env, .deletePrivateConversation userId conversationId) ∧
    (deletePrivateConversation env userId conversationId
      (privateStoreAt platform start actions position)).1.isOk = true ∧ env.now = time

/-- After a deletion no page of the user shows a message that is as old as the deletion. -/
def HidesDeletedHistory : Prop :=
  ∀ position userId conversationId time,
    DeletesAt platform start actions position userId conversationId time →
    ∀ later, position < later → ∀ limit cursor answer,
      getConversationMessages platform (privateStoreAt platform start actions later) userId
        { conversationId, limit, cursor } = .ok answer →
      ∀ message ∈ (privateStoreAt platform start actions later).messages,
        message.conversationId = conversationId → message.createdAt ≤ time →
        ∀ item ∈ answer.page, item.isMessage = true → item.id ≠ message.id

/-- A deletion that leaves the conversation to another user happens in a later millisecond than the
messages before it, and a message that is sent after a deletion is newer and restores the deleted row only
where no message is as old as the deletion. -/
def StepKeepsHidden (position : Nat) : Prop :=
  ∀ env call, actions[position]? = some (env, call) →
    match call with
    | .deletePrivateConversation userId conversationId =>
        (deletePrivateConversation env userId conversationId
          (privateStoreAt platform start actions position)).1.isOk = true →
        (∃ member ∈ getMembers (privateStoreAt platform start actions position) conversationId,
          member.userId ≠ userId) →
        ∀ message ∈ (privateStoreAt platform start actions position).messages,
          message.conversationId = conversationId → message.createdAt ≤ env.now →
          message.createdAt ≤ jsDate env.now
    | .createPrivateMessage senderId dto =>
        (createPrivateMessage platform env senderId dto
          (privateStoreAt platform start actions position)).1.isOk = true →
        ∀ earlier < position, ∀ userId conversationId time,
          DeletesAt platform start actions earlier userId conversationId time →
          RestoresNothing platform userId conversationId time env.now senderId dto
            (privateStoreAt platform start actions position)

variable {platform start actions}

/-- The steps of the run keep every deleted history behind its deletion date. -/
theorem hidden_at (governed : Governed rule start) (known : MessagesKnown start)
    (steps : ∀ position, StepKeepsHidden platform start actions position) (current : Nat) :
    Governed rule (privateStoreAt platform start actions current) ∧
      MessagesKnown (privateStoreAt platform start actions current) ∧
      ∀ position < current, ∀ userId conversationId time,
        DeletesAt platform start actions position userId conversationId time →
        Hidden userId conversationId time (privateStoreAt platform start actions current) := by
  induction current with
  | zero => exact ⟨governed, known, fun _ impossible => absurd impossible (Nat.not_lt_zero _)⟩
  | succ current ih =>
      obtain ⟨governedHere, knownHere, hidden⟩ := ih
      cases action : actions[current]? with
      | none =>
          have same : privateStoreAt platform start actions (current + 1) =
              privateStoreAt platform start actions current := stateAt_succ_of_none _ action
          rw [same]
          refine ⟨governedHere, knownHere, ?_⟩
          intro position before userId conversationId time deletes
          obtain sooner | equal := Nat.lt_succ_iff_lt_or_eq.mp before
          · exact hidden position sooner userId conversationId time deletes
          · obtain ⟨env, present, -⟩ := deletes
            rw [equal, action] at present
            cases present
      | some pair =>
          obtain ⟨env, call⟩ := pair
          have next : privateStoreAt platform start actions (current + 1) =
              runPrivateCall platform (privateStoreAt platform start actions current) (env, call) :=
            stateAt_succ _ action
          have step := steps current env call action
          rw [next]
          refine ⟨governedHere.runPrivate platform (env, call), ?_, ?_⟩
          · cases call with
            | createPrivateMessage senderId dto =>
                exact messagesKnown_createPrivateMessage knownHere platform env senderId dto
            | deletePrivateConversation userId conversationId =>
                exact messagesKnown_deletePrivate knownHere env userId conversationId
          · intro position before userId conversationId time deletes
            obtain sooner | equal := Nat.lt_succ_iff_lt_or_eq.mp before
            · have behind := hidden position sooner userId conversationId time deletes
              cases call with
              | createPrivateMessage senderId dto =>
                  exact behind.createPrivateMessage platform env senderId dto
                    fun done => step done position sooner userId conversationId time deletes
              | deletePrivateConversation otherUser otherConversation =>
                  exact behind.deletePrivate env otherUser otherConversation
            · subst equal
              obtain ⟨deleteEnv, present, done, rfl⟩ := deletes
              rw [action] at present
              cases present
              exact hidden_of_deletePrivate governedHere env done (step done)

end Run

/-- While every step keeps deleted history hidden, no page shows it again. -/
theorem deleted_history_hidden (platform : Platform) (users : List User)
    (pendingUploads : List PendingUpload) (bucket : List StorageKey) (nextId : Uuid)
    (actions : List (Env × PrivateCall))
    (steps : ∀ position, StepKeepsHidden platform (emptyStore users pendingUploads bucket nextId)
      actions position) :
    HidesDeletedHistory platform (emptyStore users pendingUploads bucket nextId) actions := by
  intro position userId conversationId time deletes later after limit cursor answer answered message
    present place old item inside isMessage same
  obtain ⟨-, known, hidden⟩ := hidden_at (governed_emptyStore soleHolder_office users pendingUploads bucket nextId)
    ⟨List.nodup_nil, fun _ impossible => nomatch impossible⟩ steps later
  obtain ⟨row, deleted, found, date, before⟩ :=
    (hidden position after userId conversationId time deletes).behind message present place old
  obtain ⟨shown, stored, -, newer, equal⟩ := message_of_page answered inside isMessage
  have identical : shown = message := by
    apply List.inj_on_of_nodup_map known.distinct stored present
    rw [equal] at same
    exact same
  have dated : lastDeletedAt (privateStoreAt platform (emptyStore users pendingUploads bucket nextId)
      actions later) conversationId userId = some (jsDate deleted) := by
    rw [lastDeletedAt, found, Option.bind_some, date]
    rfl
  have strictly := newer (jsDate deleted) dated
  rw [identical] at strictly
  exact absurd before (Nat.not_le_of_lt strictly)

def privateUsers : List User := [1, 2].map fun id => { id, role := .user, createdAt := 0 }

/-- User 1 writes to user 2 and deletes the conversation. -/
def deletingRun : List (Env × PrivateCall) :=
  [({ now := 1000000 }, .createPrivateMessage 1
      { receiverId := uuidText 2, content := [104], attachments := [] }),
   ({ now := 2000000 }, .deletePrivateConversation 1 10)]

/-- Nothing restores the conversation in the first run. -/
theorem deleted_history_hidden_in_deletingRun :
    HidesDeletedHistory plainPlatform (emptyStore privateUsers [] [] 10) deletingRun := by
  apply deleted_history_hidden
  intro position env call action
  match position, action with
  | 0, action =>
      cases action
      exact fun _ _ impossible => absurd impossible (Nat.not_lt_zero _)
  | 1, action =>
      cases action
      intro _ _
      decide
  | _ + 2, action => cases action

/-- User 2 then answers, which restores the conversation of user 1. -/
def answeringRun : List (Env × PrivateCall) :=
  deletingRun ++
    [({ now := 3000000 }, .createPrivateMessage 2
      { receiverId := uuidText 1, content := [105], attachments := [] })]

/-- The answer brings the deleted message back. -/
theorem answered_history_comes_back :
    ¬ HidesDeletedHistory plainPlatform (emptyStore privateUsers [] [] 10) answeringRun := by
  intro hides
  have answered : getConversationMessages plainPlatform
      (privateStoreAt plainPlatform (emptyStore privateUsers [] [] 10) answeringRun 3) 1
        { conversationId := 10, limit := 20, cursor := none } =
      .ok { page := [.message 11 10 (some 1) 1000000 [] [104], .message 13 10 (some 2) 3000000 [] [105]]
            nextCursor := none } := by
    decide
  have deletes : DeletesAt plainPlatform (emptyStore privateUsers [] [] 10) answeringRun 1 1 10 2000000 :=
    ⟨{ now := 2000000 }, rfl, by decide, rfl⟩
  have stored : ∃ message ∈ (privateStoreAt plainPlatform (emptyStore privateUsers [] [] 10)
      answeringRun 3).messages, message.id = 11 ∧ message.conversationId = 10 ∧
        message.createdAt ≤ 2000000 := by
    decide
  obtain ⟨message, present, id, place, old⟩ := stored
  exact hides 1 1 10 2000000 deletes 3 (by decide) 20 none _ answered message present place old
    _ List.mem_cons_self rfl id.symm

end Messinger
