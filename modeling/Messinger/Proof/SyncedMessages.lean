import Messinger.Model.Handlers
import Messinger.Proof.DeliveryTurns
import Messinger.Proof.Calls

namespace Messinger
open Library MessageDeliveryRepository MessageService OfflineSyncService

/-- The frame tells a connection of the user about the message. -/
def Announces (server : WebSocketServer) (userId messageId : Uuid) (frame : Frame) : Prop :=
  (∃ connection ∈ server.manager.getUserConnections userId, connection.id = frame.receiver) ∧
    server.isOpen frame.receiver = true ∧
    ∃ data, frame.message = .newMessage data ∧ data.messageId = some messageId

/-- Every delivery that moves from SENT to DELIVERED has its message in a frame to an open socket of the user. -/
def LosesNothing (server : WebSocketServer) (userId : Uuid) (frames : List Frame) (store next : Store) : Prop :=
  List.Forall₂ (fun row after => row.status = .sent → after.status = .delivered →
    ∃ frame ∈ frames, Announces server userId row.messageId frame) store.deliveries next.deliveries

namespace SyncAwaits
variable (platform : Platform) (awaits : SyncAwaits) (userId : Uuid)

/-- These are the messages of the pending deliveries that the synchronization has found. -/
def messageIds : List Uuid := (findPending awaits.found userId).map MessageDelivery.messageId

/-- The synchronization reaches its update, and the update commits. -/
structure Marks : Prop where
  pending : findPending awaits.found userId ≠ []
  read : awaits.env.succeeds 0 = true
  deciphered : ∃ contents, decipheredMessages platform awaits.read (awaits.messageIds userId) = .ok contents
  connected : awaits.server.manager.getUserConnections userId ≠ []
  committed : awaits.env.succeeds 1 = true

/-- The user has an open socket at the moment of sending, and the message is found. -/
structure Reaches (messageId : Uuid) : Prop where
  opened : ∃ connection ∈ awaits.server.manager.getUserConnections userId, awaits.server.isOpen connection.id = true
  stored : ∃ message ∈ awaits.read.messages, message.id = messageId

end SyncAwaits

section Frames
variable {platform : Platform} {awaits : SyncAwaits} {userId : Uuid}

theorem ok_of_mapM {A B : Type} {visit : A → Except Exception B} {list : List A} {results : List B}
    (done : list.mapM visit = .ok results) {item : A} (inside : item ∈ list) : ∃ result, visit item = .ok result := by
  induction list generalizing results with
  | nil => exact absurd inside List.not_mem_nil
  | cons head tail ih =>
      rw [List.mapM_cons] at done
      obtain ⟨first, visited, rest⟩ := ok_of_bind done
      obtain ⟨others, visits, -⟩ := ok_of_bind rest
      rcases List.mem_cons.mp inside with rfl | later
      · exact ⟨first, visited⟩
      · exact ih visits later

/-- A message of the pending deliveries is announced exactly when it reaches the user. -/
theorem announced_iff {contents : List CodeUnits} {messageId : Uuid}
    (deciphered : decipheredMessages platform awaits.read (awaits.messageIds userId) = .ok contents)
    (listed : messageId ∈ awaits.messageIds userId) :
    (∃ frame ∈ syncedFrames platform awaits.server userId awaits.read (awaits.messageIds userId),
        Announces awaits.server userId messageId frame) ↔ awaits.Reaches userId messageId := by
  constructor
  · rintro ⟨frame, sent, ⟨connection, registered, receiver⟩, opened, data, new, named⟩
    refine ⟨⟨connection, registered, by rw [receiver, opened]⟩, ?_⟩
    obtain ⟨other, -, written⟩ := List.mem_flatMap.mp sent
    split at written
    · exact absurd written List.not_mem_nil
    · next message found =>
        split at written
        · exact absurd written List.not_mem_nil
        · obtain ⟨target, -, framed⟩ := List.mem_flatMap.mp written
          unfold WebSocketServer.sendMessage at framed
          split at framed
          · rw [List.mem_singleton.mp framed] at new
            cases new
            exact ⟨message, (lookup_mem Message.id found).1, Option.some.inj named⟩
          · exact absurd framed List.not_mem_nil
  · rintro ⟨⟨connection, registered, opened⟩, stored, inside, same⟩
    cases found : lookup Message.id messageId awaits.read.messages with
    | none => exact absurd same ((lookup_eq_none Message.id).mp found stored inside)
    | some message =>
        obtain ⟨present, id⟩ := lookup_mem Message.id found
        have selected : message ∈ awaits.read.messages.filter fun message =>
            (awaits.messageIds userId).contains message.id :=
          List.mem_filter.mpr ⟨present, List.contains_iff_mem.mpr (id ▸ listed)⟩
        obtain ⟨content, read⟩ := ok_of_mapM deciphered selected
        refine ⟨⟨connection.id, .newMessage (.synced message.id message.conversationId message.senderId
          message.createdAt content)⟩, ?_, ⟨connection, registered, rfl⟩, opened, _, rfl, congrArg some id⟩
        refine List.mem_flatMap.mpr ⟨messageId, listed, ?_⟩
        simp only [found, read]
        refine List.mem_flatMap.mpr ⟨connection, registered, ?_⟩
        unfold WebSocketServer.sendMessage
        rw [if_pos opened]
        exact List.mem_singleton_self _

end Frames

section Losses
variable (platform : Platform) (awaits : SyncAwaits) (userId : Uuid)

/-- The synchronization sends its frames and marks the deliveries, or it leaves the store. -/
theorem SyncAwaits.run_cases :
    (awaits.Marks platform userId ∧ awaits.run platform userId =
        (syncedFrames platform awaits.server userId awaits.read (awaits.messageIds userId),
          markDelivered userId (awaits.messageIds userId) awaits.written)) ∨
      (¬ awaits.Marks platform userId ∧ (awaits.run platform userId).2 = awaits.written) := by
  have connected : (!(awaits.server.manager.getUserConnections userId).isEmpty) = true ↔
      awaits.server.manager.getUserConnections userId ≠ [] := by
    rw [Bool.not_eq_true', ← Bool.not_eq_true, List.isEmpty_iff]
  unfold SyncAwaits.run OfflineSyncService.start
  simp only
  by_cases empty : findPending awaits.found userId = []
  · rw [if_pos empty]
    exact .inr ⟨fun marks => marks.pending empty, rfl⟩
  · rw [if_neg empty]
    unfold OfflineSyncService.resume
    simp only
    cases deciphered : decipheredMessages platform awaits.read
        ((findPending awaits.found userId).map MessageDelivery.messageId) with
    | error exception =>
        refine .inr ⟨?_, rfl⟩
        rintro ⟨-, -, ⟨contents, read⟩, -, -⟩
        exact nomatch deciphered.symm.trans read
    | ok contents =>
        simp only
        by_cases sends : (awaits.env.succeeds 0 &&
            !(awaits.server.manager.getUserConnections userId).isEmpty) = true
        · obtain ⟨read, registered⟩ := Bool.and_eq_true_iff.mp sends
          rw [if_pos sends]
          cases committed : awaits.env.succeeds 1 with
          | true =>
              exact .inl ⟨⟨empty, read, ⟨contents, deciphered⟩, connected.mp registered, committed⟩, rfl⟩
          | false =>
              refine .inr ⟨fun marks => ?_, by simp⟩
              exact nomatch committed.symm.trans marks.committed
        · rw [if_neg sends]
          refine .inr ⟨fun marks => sends ?_, rfl⟩
          exact Bool.and_eq_true_iff.mpr ⟨marks.read, connected.mpr marks.connected⟩

/-- The synchronization loses no message exactly when its update is not reached, or when every delivery that it moves
from SENT to DELIVERED has a message that is found and goes to an open socket. -/
theorem sync_loses_nothing_iff :
    LosesNothing awaits.server userId (awaits.run platform userId).1 awaits.written (awaits.run platform userId).2 ↔
      (awaits.Marks platform userId → ∀ delivery ∈ awaits.written.deliveries,
        inSync userId (awaits.messageIds userId) delivery = true → delivery.status = .sent →
          awaits.Reaches userId delivery.messageId) := by
  unfold LosesNothing
  rcases awaits.run_cases platform userId with ⟨marks, result⟩ | ⟨unmarked, kept⟩
  · obtain ⟨contents, deciphered⟩ := marks.deciphered
    rw [result, forall_prop_of_true marks]
    simp only [markDelivered, updateWhere]
    rw [List.forall₂_map_right_iff, List.forall₂_same]
    refine forall₂_congr fun delivery inside => ?_
    cases selected : inSync userId (awaits.messageIds userId) delivery with
    | false =>
        refine iff_of_true ?_ fun impossible => Bool.noConfusion impossible
        intro sent delivered
        rw [if_neg Bool.false_ne_true, sent] at delivered
        cases delivered
    | true =>
        have listed : delivery.messageId ∈ awaits.messageIds userId :=
          List.contains_iff_mem.mp (Bool.and_eq_true_iff.mp selected).2
        rw [announced_iff deciphered listed, if_pos rfl]
        exact ⟨fun reaches _ sent => reaches sent rfl, fun reaches sent _ => reaches rfl sent⟩
  · refine iff_of_true ?_ fun marks => absurd marks unmarked
    rw [kept, List.forall₂_same]
    intro delivery _ sent delivered
    rw [sent] at delivered
    cases delivered

/-- Without other calls in between, the three awaits leave the store of the call. -/
theorem SyncAwaits.run_alone (server : WebSocketServer) (env reads : Env) (read : reads.succeeds 0 = true)
    (marked : reads.succeeds 1 = env.succeeds 0) (store : Store) :
    ((⟨store, store, server, store, reads⟩ : SyncAwaits).run platform userId).2 =
      (syncPending platform env server userId store).2.2 := by
  have alone := congrArg Progress.state (@syncPendingMessages_alone platform env reads reads read marked
    (!(server.manager.getUserConnections userId).isEmpty) userId store)
  refine Eq.trans ?_ alone
  change _ = Progress.state ((deliverySystem platform).advance ((deliverySystem platform).advance
    ((deliverySystem platform).advance ⟨store, []⟩ (.call (env, .syncPendingMessages userId)))
    (.resume 0 ⟨reads, _⟩)) (.resume 0 ⟨reads, _⟩))
  have reading (messageIds : List Uuid) (answer : DeliveryAnswer) :
      (OfflineSyncService.resume platform store (.findMessages userId messageIds) answer).1 = store := by
    unfold OfflineSyncService.resume
    simp only
    cases decipheredMessages platform store messageIds with
    | error exception => rfl
    | ok contents => cases answer.env.succeeds 0 && answer.connected <;> rfl
  have resumes : (deliverySystem platform).resume = OfflineSyncService.resume platform := rfl
  have begins : (deliverySystem platform).start store (env, .syncPendingMessages userId) =
      (store, if findPending store userId = [] then none
        else some (.findMessages userId ((findPending store userId).map MessageDelivery.messageId))) := rfl
  rw [Cooperative.advance_call_alone, begins]
  unfold SyncAwaits.run OfflineSyncService.start
  simp only
  by_cases empty : findPending store userId = []
  · rw [if_pos empty]
    rfl
  · rw [if_neg empty, waiting_some, Cooperative.advance_resume_alone, resumes]
    simp only
    have kept := reading ((findPending store userId).map MessageDelivery.messageId)
      ⟨reads, !(server.manager.getUserConnections userId).isEmpty⟩
    generalize OfflineSyncService.resume platform store (.findMessages userId _) _ = outcome at kept
    obtain ⟨current, task⟩ := outcome
    obtain rfl : current = store := kept
    cases task <;> rfl

/-- Without other calls in between, the frames are those of the call. -/
theorem SyncAwaits.run_alone_frames (server : WebSocketServer) (env reads : Env) (read : reads.succeeds 0 = true)
    (store : Store) :
    ((⟨store, store, server, store, reads⟩ : SyncAwaits).run platform userId).1 =
      (syncPending platform env server userId store).1 := by
  have frames : pendingMessageFrames platform server userId store = syncedFrames platform server userId store
      ((findPending store userId).map MessageDelivery.messageId) := by
    unfold pendingMessageFrames syncedFrames
    rw [List.flatMap_map]
  have deciphers : decipheredMessages platform store ((findPending store userId).map MessageDelivery.messageId) =
      decipheredMessages platform store ((store.deliveries.filter fun delivery =>
        delivery.userId == userId && delivery.status == .sent).map MessageDelivery.messageId) := by
    unfold decipheredMessages
    rw [contains_findPending]
  have unheard (none : server.manager.getUserConnections userId = []) (messageIds : List Uuid) :
      syncedFrames platform server userId store messageIds = [] := by
    refine List.flatMap_eq_nil_iff.mpr fun messageId _ => ?_
    unfold WebSocketServer.sendToUser
    rw [none]
    split
    · rfl
    · split <;> rfl
  have readable (connected : Bool) : (syncPendingMessages platform { env with succeeds := fun _ => true } connected
      userId store).1.isOk = (decipheredMessages platform store
        ((findPending store userId).map MessageDelivery.messageId)).isOk := by
    rw [deciphers]
    unfold syncPendingMessages decipheredMessages guarded
    simp only
    generalize (List.mapM _ _ : Except Exception (List CodeUnits)) = outcome
    cases outcome with
    | error exception => rfl
    | ok contents =>
        simp only
        split
        · rfl
        · rfl
  unfold syncPending SyncAwaits.run OfflineSyncService.start
  simp only
  rw [frames, readable]
  by_cases empty : findPending store userId = []
  · rw [if_pos empty, empty]
    exact (ite_self _).symm
  · rw [if_neg empty]
    unfold OfflineSyncService.resume
    simp only [read, Bool.true_and]
    cases decipheredMessages platform store ((findPending store userId).map MessageDelivery.messageId) with
    | error exception => rfl
    | ok contents =>
        by_cases none : server.manager.getUserConnections userId = []
        · rw [unheard none, none]
          rfl
        · have connected : (!(server.manager.getUserConnections userId).isEmpty) = true := by
            rw [Bool.not_eq_true', ← Bool.not_eq_true, List.isEmpty_iff]
            exact none
          simp only [connected, if_true]
          rfl

end Losses

/-- User 2 has one pending message, which says nothing. -/
def pendingStore : Store :=
  { users := [{ id := 2, role := .user, createdAt := 0 }]
    conversations := [{ id := 3, type := .privateType, createdAt := 0, updatedAt := 0 }]
    messages := [{ id := 4, conversationId := 3, senderId := none, cipheredContent := [], iv := [], authTag := []
                   createdAt := 0 }]
    deliveries := [{ id := 5, messageId := 4, userId := 2, createdAt := 0 }]
    nextId := 6 }

/-- The only connection of user 2 is still registered while its socket closes. -/
def closingServer : WebSocketServer :=
  { manager := { objects := [{ id := 0, userId := some 2 }], connections := [0], userConnections := [(2, [0])], nextId := 1 }
    sockets := [{ connectionId := 0, listening := true, closing := true }] }

/-- The synchronization marks the delivery and writes no frame. -/
theorem closing_socket_loses_message :
    syncPending plainPlatform { now := 1 } closingServer 2 pendingStore =
        ([], .ok (), { pendingStore with
          deliveries := [{ id := 5, messageId := 4, userId := 2, status := .delivered, createdAt := 0 }] }) ∧
      ¬ LosesNothing closingServer 2
        ((⟨pendingStore, pendingStore, closingServer, pendingStore, { now := 1 }⟩ : SyncAwaits).run plainPlatform 2).1
        pendingStore
        ((⟨pendingStore, pendingStore, closingServer, pendingStore, { now := 1 }⟩ : SyncAwaits).run plainPlatform 2).2 := by
  refine ⟨by decide, ?_⟩
  intro nothing
  obtain ⟨frame, sent, -⟩ := (List.forall₂_cons.mp nothing).1 rfl rfl
  exact absurd sent List.not_mem_nil

end Messinger
