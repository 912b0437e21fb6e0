import Messinger.Model.AdminService
import Messinger.Model.OfflineSync

namespace Messinger
open Library MessageDeliveryRepository MessageService OfflineSyncService

section Alone
variable {platform : Platform}

/-- A confirmation that runs alone does what `confirmDelivery` does. -/
theorem confirmDelivery_alone (env : Env) (userId : Uuid) (dto : MessageDeliveryDto) (connected : Bool)
    (store : Store) :
    stateAt (deliverySystem platform).advance ⟨store, []⟩
        [.call (env, .confirmDelivery userId dto), .resume 0 ⟨env, connected⟩, .resume 0 ⟨env, connected⟩] 3 =
      ⟨(MessageService.confirmDelivery env userId dto store).2, []⟩ := by
  let answer : DeliveryAnswer := ⟨env, connected⟩
  change (deliverySystem platform).advance ((deliverySystem platform).advance
    ((deliverySystem platform).advance ⟨store, []⟩ (.call (env, .confirmDelivery userId dto)))
    (.resume 0 answer)) (.resume 0 answer) = _
  rw [Cooperative.advance_call_alone]
  change (deliverySystem platform).advance ((deliverySystem platform).advance
    (waiting [] (store, (findByMessageAndUser env.scan store dto.messageId userId).map _)) (.resume 0 answer))
    (.resume 0 answer) = _
  unfold MessageService.confirmDelivery
  cases findByMessageAndUser env.scan store dto.messageId userId with
  | none => rfl
  | some delivery =>
      have written (current : Store) : (deliverySystem platform).resume current
          (.updateDeliveryStatus dto delivery.id) answer =
          if env.succeeds 1 then
            (updateDeliveryStatus delivery.id (confirmed env.now dto.status) current, none)
          else (current, none) := rfl
      have reset : (deliverySystem platform).resume store (.resetUnreadCount userId dto delivery.id) answer =
          if env.succeeds 0 then
            (ConversationMemberRepository.resetUnreadCount dto.conversationId userId store,
              some (.updateDeliveryStatus dto delivery.id))
          else (store, none) := rfl
      rw [Option.map_some, waiting_some]
      by_cases read : dto.status = .read
      · rw [if_pos read, Cooperative.advance_resume_alone, reset]
        cases first : env.succeeds 0 with
        | false => simp [read]
        | true =>
            rw [if_pos rfl, waiting_some, Cooperative.advance_resume_alone, written]
            cases second : env.succeeds 1 with
            | false => simp [read]
            | true =>
                simp only [read, if_true]
                rfl
      · rw [if_neg read, Cooperative.advance_resume_alone, written]
        cases second : env.succeeds 1 with
        | false => simp [read]
        | true =>
            simp only [read, if_false, if_true, false_and]
            rfl

/-- The deliveries that the synchronization reads are those of the user with status SENT. -/
theorem mem_findPending {store : Store} {userId : Uuid} {delivery : MessageDelivery} :
    delivery ∈ findPending store userId ↔ delivery ∈ store.deliveries.filter fun delivery =>
      delivery.userId == userId && delivery.status == .sent :=
  List.mem_insertionSort _

theorem findPending_eq_nil {store : Store} {userId : Uuid} :
    findPending store userId = [] ↔ (store.deliveries.filter fun delivery =>
      delivery.userId == userId && delivery.status == .sent) = [] := by
  simp only [List.eq_nil_iff_forall_not_mem, mem_findPending]

/-- The order of the pending deliveries does not change the set of their messages. -/
theorem contains_findPending (store : Store) (userId : Uuid) :
    ((findPending store userId).map MessageDelivery.messageId).contains =
      ((store.deliveries.filter fun delivery =>
        delivery.userId == userId && delivery.status == .sent).map MessageDelivery.messageId).contains := by
  funext messageId
  rw [Bool.eq_iff_iff, List.contains_iff_mem, List.contains_iff_mem]
  simp only [List.mem_map, mem_findPending]

/-- A synchronization that runs alone does what `syncPendingMessages` does. -/
theorem syncPendingMessages_alone (env reads marks : Env) (read : reads.succeeds 0 = true)
    (marked : marks.succeeds 1 = env.succeeds 0) (connected : Bool) (userId : Uuid) (store : Store) :
    stateAt (deliverySystem platform).advance ⟨store, []⟩
        [.call (env, .syncPendingMessages userId), .resume 0 ⟨reads, connected⟩, .resume 0 ⟨marks, connected⟩] 3 =
      ⟨(syncPendingMessages platform env connected userId store).2, []⟩ := by
  let messageIds := (store.deliveries.filter fun delivery =>
    delivery.userId == userId && delivery.status == .sent).map MessageDelivery.messageId
  let sorted := (findPending store userId).map MessageDelivery.messageId
  have listed : sorted.contains = messageIds.contains := contains_findPending store userId
  have deciphered : decipheredMessages platform store sorted = decipheredMessages platform store messageIds := by
    unfold decipheredMessages
    rw [listed]
  have inSync_sorted : inSync userId sorted = inSync userId messageIds := by
    unfold inSync
    rw [listed]
  have begins : (deliverySystem platform).start store (env, .syncPendingMessages userId) =
      (store, if findPending store userId = [] then none else some (.findMessages userId sorted)) := rfl
  have resumes : (deliverySystem platform).resume = OfflineSyncService.resume platform := rfl
  change (deliverySystem platform).advance ((deliverySystem platform).advance
    ((deliverySystem platform).advance ⟨store, []⟩ (.call (env, .syncPendingMessages userId)))
    (.resume 0 ⟨reads, connected⟩)) (.resume 0 ⟨marks, connected⟩) = _
  rw [Cooperative.advance_call_alone, begins]
  unfold syncPendingMessages
  by_cases empty : findPending store userId = []
  · rw [if_pos empty]
    simp only [findPending_eq_nil.mp empty, true_or, if_true]
    obtain ⟨exception, failed⟩ | ⟨messages, -, done⟩ := guarded_cases store _ fun _ : List CodeUnits =>
        ((.ok (), store) : Outcome Unit)
    · rw [failed]
      rfl
    · rw [done]
      rfl
  · have pending : ¬ (store.deliveries.filter fun delivery =>
        delivery.userId == userId && delivery.status == .sent) = [] :=
      fun none => empty (findPending_eq_nil.mpr none)
    rw [if_neg empty, waiting_some, Cooperative.advance_resume_alone, resumes]
    unfold OfflineSyncService.resume
    simp only
    rw [deciphered]
    unfold decipheredMessages guarded
    simp only [pending, false_or, messageIds]
    generalize (List.mapM _ _ : Except Exception (List CodeUnits)) = outcome
    cases outcome with
    | error exception => rfl
    | ok messages =>
        cases connected with
        | false =>
            simp only [Bool.and_false, Bool.false_eq_true, if_false, if_true]
            rfl
        | true =>
            simp only [read, Bool.and_true, Bool.true_eq_false, if_false, if_true, waiting_some]
            rw [Cooperative.advance_resume_alone, resumes]
            unfold OfflineSyncService.resume markDelivered transaction
            simp only [inSync_sorted, marked]
            cases env.succeeds 0 <;> rfl

end Alone

end Messinger
