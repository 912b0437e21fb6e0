import Messinger.Proof.PairRoomCalls
import Messinger.Proof.Serving

namespace Messinger
open Library ConversationMemberRepository ConversationRepository ConversationService MessageService StorageService

section Calls
variable {platform : Platform} {store : Store} (pairs : PairRooms platform store) (env : Env)
include pairs

theorem PairRooms.deletePrivateConversation (userId conversationId : Uuid) :
    PairRooms platform (deletePrivateConversation env userId conversationId store).2 := by
  have marked : PairRooms platform (markConversationAsDeleted env.now conversationId userId store) :=
    pairs.step (.updateMember store conversationId userId _ fun _ => rfl)
  have step := deletionStep env userId conversationId store
  generalize (ConversationService.deletePrivateConversation env userId conversationId store).2 = next at step ⊢
  cases step with
  | refused => exact pairs
  | hides => exact marked
  | drops => exact marked.step (.deleteConversations (fun id => id == conversationId) _)

theorem PairRooms.deleteUser (dto : UserDto) : PairRooms platform (AdminService.deleteUser env dto store).2 := by
  rcases AdminService.deleteUser_cases env dto store with ⟨-, exception, kept, failed⟩ | ⟨-, done⟩
  · rw [failed]
    exact pairs.step (.of_tables rfl rfl rfl rfl (Nat.le_refl _))
  · rw [done]
    have emptied := pairs.step (.deleteConversations
      (fun id => (AdminService.conversationsToDelete store dto.userId).contains id) store)
    exact emptied.step ((KeepsPairs.deleteUsers emptied.users.distinct _).withFiles _ _)

theorem PairRooms.deleteAdmin (dto : UserDto) : PairRooms platform (AdminService.deleteAdmin env dto store).2 := by
  refine transaction_keeps pairs ?_
  intro value next done
  cases done
  exact pairs.step (.deleteUsers pairs.users.distinct _)

/-- A private conversation opens for two users who exist, or none opens. -/
theorem PairRooms.getOrCreate {rule : Roster Uuid → Prop} (governed : Governed rule store) {senderId : Uuid}
    {dto : PrivateMessageDto} {conversation : Conversation} {between : Store}
    (opening : getOrCreatePrivateConversation platform env (privateMessageParams senderId dto) store =
      (.ok conversation, between)) : PairRooms platform between := by
  have rooms := getOrCreate_rooms governed platform env senderId dto
  rw [opening] at rooms
  rcases rooms with ⟨-, ⟨-, sender, receiver, -⟩, opened⟩ | ⟨-, same⟩
  · rcases getOrCreatePrivateConversation_cases platform env (privateMessageParams senderId dto) rfl store with
      ⟨exception, failed⟩ | ⟨privateKey, found, next, -, equal, ⟨same, -⟩ | ⟨-, -, final, -⟩⟩
    · rw [opening] at failed
      cases failed
    · rw [opening] at equal
      cases equal
      exact same ▸ pairs
    · rw [opening] at equal
      cases equal
      subst final
      exact pairs.opens governed sender receiver opened rfl rfl (Nat.lt_succ_self _)
  · obtain rfl : between = store := same
    exact pairs

theorem PairRooms.createPrivateMessage {rule : Roster Uuid → Prop} (governed : Governed rule store) (senderId : Uuid)
    (dto : PrivateMessageDto) : PairRooms platform (createPrivateMessage platform env senderId dto store).2 := by
  rcases createPrivateMessage_cases platform env senderId dto store with ⟨exception, failed⟩ |
    ⟨conversation, between, opening, ⟨exception, failed⟩ | ⟨saved, next, done, -, -, uploads, -, final⟩⟩
  · rw [failed]
    exact pairs
  · rw [failed]
    exact pairs.getOrCreate env governed opening
  · rw [done, final]
    have restored : PairRooms platform
        (restored env.now senderId (parseUuid dto.receiverId) conversation.id between) := by
      have rooms := SameRooms.restored env.now senderId (parseUuid dto.receiverId) conversation.id between
      obtain ⟨rows, shape⟩ := restored_eq env.now senderId (parseUuid dto.receiverId) conversation.id between
      rw [shape] at rooms ⊢
      exact (pairs.getOrCreate env governed opening).step (.of_sameRooms rooms rfl rfl (Nat.le_refl _))
    exact restored.step (persisted_keepsPairs _ env.now senderId conversation.id _ _ uploads)

end Calls

section Runs
variable {platform : Platform} {store : Store}

theorem PairRooms.controller (pairs : PairRooms platform store) (env : Env) (request : Request) (userId : Uuid) :
    PairRooms platform (controller platform env request userId store).2 := by
  have step := controllerStep platform env request userId store
  generalize (Messinger.controller platform env request userId store).2 = next at step ⊢
  cases step with
  | reads => exact pairs
  | account step => exact pairs.step step.keepsPairs
  | group step => exact pairs.step step.keepsPairs
  | signup dto => exact pairs.step (signup_keepsPairs ..)
  | createAdmin dto => exact pairs.step (createAdmin_keepsPairs ..)
  | upload files => exact pairs.step (prepareUploads_keepsPairs ..)
  | resetUnreadMessagesCount conversationId => exact pairs.step (resetUnreadMessagesCount_keepsPairs ..)
  | deleteGroup conversationId => exact pairs.step (deleteGroup_keepsPairs ..)
  | deletePrivate conversationId => exact pairs.deletePrivateConversation env userId conversationId
  | deleteMessages dto => exact pairs.step (deleteMessagesRequest_keepsPairs ..)
  | deleteUser dto => exact pairs.deleteUser env dto
  | deleteAdmin dto => exact pairs.deleteAdmin env dto

/-- Each action keeps the pairs. -/
theorem PairRooms.act (pairs : PairRooms platform store) (consistent : Consistent store) (action : Env × Action) :
    PairRooms platform (act platform store action) := by
  obtain ⟨env, action⟩ := action
  cases action with
  | request exchange =>
      show PairRooms platform (handle platform exchange.middlewareEnv exchange.env exchange.request store).2
      apply handle_keeps
      · obtain ⟨sessions, same⟩ := runChain_store platform exchange.middlewareEnv exchange.request
          exchange.request.route.chain store
        rw [same]
        exact pairs.step (.of_tables rfl rfl rfl rfl (Nat.le_refl _))
      · exact fun userId _ chain => chain.controller exchange.env exchange.request userId
  | createPrivateMessage senderId dto => exact pairs.createPrivateMessage env consistent.governed senderId dto
  | createGroupMessage senderId dto => exact pairs.step (createGroupMessage_keepsPairs platform env store senderId dto)
  | validateGroupInvitation actorId dto =>
      exact pairs.step (groupStep env (.validateGroupInvitation actorId dto) store).keepsPairs
  | acceptGroupInvitation conversationId userId =>
      exact pairs.step (groupStep env (.acceptGroupInvitation conversationId userId) store).keepsPairs
  | rejectGroupInvitation conversationId userId =>
      exact pairs.step (groupStep env (.rejectGroupInvitation conversationId userId) store).keepsPairs
  | confirmDelivery userId dto => exact pairs.step (confirmDelivery_keepsPairs env store userId dto)
  | updateLastSeenAt userId => exact pairs.step (updateLastSeenAt_accountStep env store userId).keepsPairs
  | syncPendingMessages connected userId =>
      exact pairs.step (syncPendingMessages_keepsPairs platform env store connected userId)
  | removeInvalidSubscription endpoint => exact pairs.step (unsubscribeWeb_accountStep env store endpoint).keepsPairs
  | putObject storageKey => exact pairs.step (.of_tables rfl rfl rfl rfl (Nat.le_refl _))
  | deleteMessagesJob => exact pairs.step (deleteMessagesJob_keepsPairs env store)
  | adminSeed => exact pairs.step (adminSeed_keepsPairs platform env store)

end Runs

/-- In every reachable store, each conversation with a key holds the pair of the key. -/
theorem Reachable.pairRooms {platform : Platform} {store : Store} (reachable : Reachable platform store) :
    PairRooms platform store := by
  obtain ⟨actions, rfl⟩ := reachable
  have both := run_invariant (act platform) (fun store => PairRooms platform store ∧ Consistent store)
    (fun store action both => ⟨both.1.act both.2 action, both.2.act platform action⟩) actions {}
  have initial : Reachable platform {} := ⟨[], rfl⟩
  refine (both ⟨?_, initial.consistent⟩).1
  constructor
  · exact ⟨List.nodup_nil, fun _ inside => absurd inside List.not_mem_nil⟩
  · exact ⟨List.nodup_nil, fun _ inside => absurd inside List.not_mem_nil⟩
  · exact fun _ inside => absurd inside List.not_mem_nil
  · exact fun _ inside => absurd inside List.not_mem_nil
  · exact fun _ inside => absurd inside List.not_mem_nil

end Messinger
