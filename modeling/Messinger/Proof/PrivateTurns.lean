import Messinger.Model.PrivateTasks
import Messinger.Proof.PrivateCalls

namespace Messinger
open Library ConversationMemberRepository ConversationRepository ConversationService MessageService

/-- The lookup and the creation are the two steps of `getOrCreatePrivateConversation`. -/
theorem getOrCreate_steps (platform : Platform) (env : Env) (params : CreateConversationParams)
    (isPrivate : params.type = .privateType) (store : Store) :
    getOrCreatePrivateConversation platform env params store =
      match findPrivateConversation platform params store with
      | some answer => (answer, store)
      | none => createPrivateConversation platform env params store := by
  unfold getOrCreatePrivateConversation findPrivateConversation
  simp only [isPrivate]
  split
  · rfl
  · cases findByPrivateKey store (generatePrivateKey platform (normalizeMembers params.creatorId params.members)) with
    | none => rfl
    | some existing => rfl

/-- The store of the turn is the store of the service call, whether or not it fails. -/
theorem resume_createConversation_store (platform : Platform) (store : Store) (message : PrivateDraft) (env : Env) :
    (PrivateTask.resume platform store (.createConversation message) env).1 =
      (createPrivateConversation platform env message.params store).2 := by
  unfold PrivateTask.resume
  simp only
  split
  · next failed => rw [failed]
  · next done => rw [done]

theorem resume_deleteFiles_store (platform : Platform) (store : Store) (dto : UserDto) (doomed : List Uuid)
    (env : Env) :
    (PrivateTask.resume platform store (.deleteFiles dto doomed) env).1 =
      (StorageService.deleteFiles env (AdminService.storageKeysOf store
        (store.messages.filter fun message => doomed.contains message.conversationId)) store).2 := by
  unfold PrivateTask.resume
  simp only
  split
  · next failed => rw [failed]
  · next done => rw [done]

section Alone
variable {platform : Platform} (env : Env) (store : Store)

theorem private_start (call : OccupancyCall) :
    (privateSystem platform).advance ⟨store, []⟩ (.call (env, call)) =
      waiting [] (PrivateTask.start platform store (env, call)) :=
  Cooperative.advance_call_alone (privateSystem platform) store (env, call)

theorem private_resume (task : PrivateTask) :
    (privateSystem platform).advance ⟨store, [task]⟩ (.resume 0 env) =
      waiting [] (PrivateTask.resume platform store task env) :=
  Cooperative.advance_resume_alone (privateSystem platform) store task env

/-- A deletion of a private conversation that runs alone does what `deletePrivateConversation` does. -/
theorem deletePrivateConversation_alone (userId conversationId : Uuid) :
    [Turn.call (env, .deletePrivateConversation userId conversationId), .resume 0 env, .resume 0 env].foldl
        (privateSystem platform).advance ⟨store, []⟩ =
      ⟨(deletePrivateConversation env userId conversationId store).2, []⟩ := by
  rw [List.foldl_cons, private_start]
  unfold PrivateTask.start deletePrivateConversation guarded
  simp only
  cases deletePrivateConversationChecks store userId conversationId with
  | error exception => rfl
  | ok nothing => rfl

/-- A member that leaves alone does what `leaveGroup` does. -/
theorem leaveGroup_alone (userId conversationId : Uuid) :
    [Turn.call (env, .leaveGroup userId conversationId), .resume 0 env].foldl
        (privateSystem platform).advance ⟨store, []⟩ =
      ⟨(leaveGroup env userId conversationId store).2, []⟩ := by
  rw [List.foldl_cons, private_start]
  unfold PrivateTask.start leaveGroup guarded
  simp only
  cases leaveGroupChecks store userId conversationId with
  | error exception => rfl
  | ok members =>
      simp only [waiting_some]
      rw [transaction_snd, toOption_map_bind _ (fun pair => (members, pair.2)) fun _ => rfl, ← transaction_snd]
      rfl

/-- A deletion of a user that runs alone does what `deleteUser` does. -/
theorem deleteUser_alone (dto : UserDto) :
    [Turn.call (env, .deleteUser dto), .resume 0 env, .resume 0 env].foldl
        (privateSystem platform).advance ⟨store, []⟩ =
      ⟨(AdminService.deleteUser env dto store).2, []⟩ := by
  rw [List.foldl_cons, private_start]
  unfold PrivateTask.start AdminService.deleteUser
  simp only [waiting_some, List.foldl_cons, private_resume]
  unfold PrivateTask.resume
  simp only
  split
  · next failed =>
      rw [failed]
      rfl
  · next done =>
      rw [done]
      rfl

/-- The message of a conversation that has been found runs alone in two more turns. -/
theorem privateMessage_alone (message : PrivateDraft) (conversation : Conversation) :
    [Turn.resume 0 env, .resume 0 env].foldl (privateSystem platform).advance
        ⟨store, [.findMembers message conversation]⟩ =
      ⟨(transaction (env.succeeds 1) store
        (createPrivateMessageBody env.now message.senderId message.dto message.ciphered conversation
          (findMember store conversation.id message.senderId)
          (findMember store conversation.id (parseUuid message.dto.receiverId))
          (getConversationMembers store conversation.id))).2, []⟩ := rfl

/-- A private message that runs alone does what `createPrivateMessage` does. -/
theorem createPrivateMessage_turns (senderId : Uuid) (dto : PrivateMessageDto) :
    [Turn.call (env, .createPrivateMessage senderId dto), .resume 0 env, .resume 0 env, .resume 0 env].foldl
        (privateSystem platform).advance ⟨store, []⟩ =
      ⟨(createPrivateMessage platform env senderId dto store).2, []⟩ := by
  rw [List.foldl_cons, private_start]
  unfold PrivateTask.start createPrivateMessage
  rw [getOrCreate_steps platform env _ rfl store]
  simp only [PrivateDraft.params]
  cases findPrivateConversation platform
      { type := .privateType, creatorId := uuidText senderId, members := [dto.receiverId] } store with
  | some answer =>
      cases answer with
      | error exception => rfl
      | ok conversation =>
          rw [transaction_snd, toOption_map_bind _
            (fun pair => ((getConversationMembers store conversation.id, _), pair.2)) fun _ => rfl, ← transaction_snd]
          rfl
  | none =>
      simp only [waiting_some]
      rw [List.foldl_cons, private_resume]
      unfold PrivateTask.resume
      simp only [PrivateDraft.params]
      generalize createPrivateConversation platform env
        { type := .privateType, creatorId := uuidText senderId, members := [dto.receiverId] } store = outcome
      obtain ⟨result, opened⟩ := outcome
      cases result with
      | error exception => rfl
      | ok conversation =>
          simp only
          rw [transaction_snd, toOption_map_bind _
            (fun pair => ((getConversationMembers opened conversation.id, _), pair.2)) fun _ => rfl, ← transaction_snd]
          rfl

end Alone

end Messinger
