import Messinger.Proof.ContentWrites

namespace Messinger
open Library ConversationMemberRepository ConversationRepository ConversationService MessageService
  StorageService

/-- A synchronization writes only the deliveries. -/
theorem syncPendingMessages_writes (platform : Platform) (env : Env) (connected : Bool) (userId : Uuid) (store : Store) :
    ∃ rows, (syncPendingMessages platform env connected userId store).2 = { store with deliveries := rows } := by
  unfold syncPendingMessages guarded
  simp only
  split
  · exact ⟨_, rfl⟩
  · split
    · exact ⟨_, rfl⟩
    · rw [transaction_snd]
      cases env.succeeds 0 with
      | true => exact ⟨_, rfl⟩
      | false => exact ⟨_, rfl⟩

section Services
variable {store : Store} (before : Consistent store) (platform : Platform) (env : Env)
include before

theorem Consistent.deleteGroup (userId conversationId : Uuid) :
    Consistent (deleteGroup env userId conversationId store).2 := by
  obtain ⟨exception, failed⟩ | ⟨conversation, owner, -, -, -, -, done⟩ :=
    deleteGroup_cases env userId conversationId store
  · rw [failed]
    exact before
  · rw [done]
    exact before.deleteConversations fun id => id == conversationId

theorem Consistent.deletePrivateConversation (userId conversationId : Uuid) :
    Consistent (deletePrivateConversation env userId conversationId store).2 := by
  have governed := before.governed.deletePrivate env userId conversationId
  have step := deletionStep env userId conversationId store
  generalize (ConversationService.deletePrivateConversation env userId conversationId store).2 = next at step governed ⊢
  cases step with
  | refused => exact before
  | hides => exact before.of_rows rfl rfl rfl (Nat.le_refl _) governed
  | drops =>
      exact
        { messages := before.messages.filter rfl (Nat.le_refl _)
          files := before.files.shrink (fun _ inside => (List.mem_filter.mp inside).1)
            (fun _ inside => inside) (Nat.le_refl _)
          governed := governed }

theorem Consistent.deleteMessagesRequest (dto : DeleteMessagesDto) :
    Consistent (Controllers.deleteMessages env dto store).2 := by
  have removed : Consistent (MessageService.deleteMessages env dto store).2 := by
    refine transaction_keeps before ?_
    intro value next done
    unfold MessageRepository.deleteMessages at done
    split at done
    · cases done
      exact before
    · cases done
      exact before.deleteMessages _
  unfold Controllers.deleteMessages
  split
  · next equal =>
      rw [equal] at removed
      exact removed
  · next equal =>
      rw [equal] at removed
      exact removed
  · next equal =>
      rw [equal] at removed
      rw [answer_store]
      exact removed.deleteFiles _ _

theorem Consistent.deleteUser (dto : UserDto) : Consistent (AdminService.deleteUser env dto store).2 := by
  unfold AdminService.deleteUser
  simp only
  have emptied := before.deleteFiles env (AdminService.storageKeysOf store (store.messages.filter fun message =>
      (AdminService.conversationsToDelete store dto.userId).contains message.conversationId))
  split
  · next equal =>
      rw [equal] at emptied
      exact emptied
  · next equal =>
      rw [equal] at emptied
      refine transaction_keeps emptied ?_
      intro value next done
      cases done
      exact (emptied.deleteConversations _).deleteUsers _

theorem Consistent.deleteAdmin (dto : UserDto) : Consistent (AdminService.deleteAdmin env dto store).2 := by
  refine transaction_keeps before ?_
  intro value next done
  cases done
  exact before.deleteUsers _

theorem Consistent.restored (now : Nat) (senderId receiverId conversationId : Uuid) :
    Consistent (restored now senderId receiverId conversationId store) := by
  have governed : Governed (fun roster => HoldersActive roster)
      (MessageService.restored now senderId receiverId conversationId store) :=
    (before.governed.restoreIfDeleted now _ _ _).restoreIfDeleted now _ _ _
  obtain ⟨rows, shape⟩ := restored_eq now senderId receiverId conversationId store
  rw [shape] at governed ⊢
  exact before.of_rows rfl rfl rfl (Nat.le_refl _) governed

theorem Consistent.createPrivateMessage (senderId : Uuid) (dto : PrivateMessageDto) :
    Consistent (createPrivateMessage platform env senderId dto store).2 := by
  have opened : ∀ conversation between,
      getOrCreatePrivateConversation platform env (privateMessageParams senderId dto) store =
        (.ok conversation, between) → Consistent between := by
    intro conversation between opening
    have governed := before.governed.getOrCreate platform env (privateMessageParams senderId dto) rfl
    rw [opening] at governed
    obtain ⟨exception, failed⟩ | ⟨privateKey, found, next, -, equal, ⟨same, -⟩ | ⟨-, -, final, -⟩⟩ :=
      getOrCreatePrivateConversation_cases platform env (privateMessageParams senderId dto) rfl store
    · rw [opening] at failed
      cases failed
    · rw [opening] at equal
      cases equal
      rw [same]
      exact before
    · rw [opening] at equal
      cases equal
      subst final
      exact before.of_rows rfl rfl rfl (Nat.le_succ _) governed
  obtain ⟨exception, failed⟩ | ⟨conversation, between, opening, ⟨exception, failed⟩ |
    ⟨saved, next, done, -, -, uploads, found, final⟩⟩ :=
    createPrivateMessage_cases platform env senderId dto store
  · rw [failed]
    exact before
  · rw [failed]
    exact opened conversation between opening
  · rw [done, final]
    have between := opened conversation between opening
    apply (between.restored env.now senderId (parseUuid dto.receiverId) conversation.id).persisted
    have pending := findUploads_mem found
    obtain ⟨rows, shape⟩ := restored_eq env.now senderId (parseUuid dto.receiverId) conversation.id _
    rw [shape]
    exact pending

theorem Consistent.createGroupMessage (senderId : Uuid) (dto : GroupMessageDto) :
    Consistent (createGroupMessage platform env senderId dto store).2 := by
  obtain ⟨exception, failed⟩ | ⟨-, -, saved, uploads, -, -, -, -, -, found, answered⟩ :=
    createGroupMessage_cases platform env senderId dto store
  · rw [failed]
    exact before
  · rw [answered]
    exact before.persisted env.now senderId dto.conversationId _ _ (findUploads_mem found)

theorem Consistent.confirmDelivery (userId : Uuid) (dto : MessageDeliveryDto) :
    Consistent (confirmDelivery env userId dto store).2 := by
  obtain ⟨rows, same | counted⟩ := confirmDelivery_writes env userId dto store
  · rw [same]
    exact before.of_rows rfl rfl rfl (Nat.le_refl _) (before.governed.of_frame rfl rfl (Nat.le_refl _))
  · rw [counted]
    have governed := before.governed.resetUnread dto.conversationId userId
    exact before.of_rows rfl rfl rfl (Nat.le_refl _) (governed.of_frame rfl rfl (Nat.le_refl _))

theorem Consistent.syncPendingMessages (connected : Bool) (userId : Uuid) :
    Consistent (syncPendingMessages platform env connected userId store).2 := by
  obtain ⟨rows, same⟩ := syncPendingMessages_writes platform env connected userId store
  rw [same]
  exact before.of_rows rfl rfl rfl (Nat.le_refl _) (before.governed.of_frame rfl rfl (Nat.le_refl _))

theorem Consistent.deleteMessagesJob : Consistent (deleteMessagesJob env store) := by
  unfold Messinger.deleteMessagesJob
  simp only
  have emptied := before.deleteFiles env (AdminService.storageKeysOf store
      (MessageRepository.findMessagesToCleanup (jsDate env.now - maxMessageAge) store))
  split
  · exact before
  · split
    · next equal =>
        rw [equal] at emptied
        exact emptied
    · next equal =>
        rw [equal] at emptied
        split
        · exact emptied.deleteMessages _
        · exact emptied

end Services

end Messinger
