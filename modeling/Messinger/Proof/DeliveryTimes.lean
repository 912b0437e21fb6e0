import Messinger.Model.DeliveryTasks
import Messinger.Proof.DeliveryRecords
import Messinger.Proof.UnreadBounds
import Messinger.Proof.UploadsOnce

namespace Messinger
open Library MessageDeliveryRepository MessageService ConversationRepository ConversationMemberRepository

/-- The times of the row agree with its status, and a time of reading comes from a confirmation that carried READ. -/
structure RowAgrees (confirmedRead : List (Uuid × Uuid)) (row : MessageDelivery) : Prop where
  delivered : row.status = .delivered → row.deliveredAt.isSome = true
  read : row.status = .read → row.readAt.isSome = true
  confirmed : row.readAt.isSome = true → (row.messageId, row.userId) ∈ confirmedRead

/-- The times of all deliveries agree with their statuses. -/
def TimesAgree (state : MessagingState) : Prop :=
  ∀ row ∈ state.store.deliveries, RowAgrees state.confirmedRead row

/-- These are the status and the delivery that a pending confirmation writes. -/
def MessagingTask.confirmation : MessagingTask → Option (MessageStatus × Uuid)
  | .receiving (.resetUnreadCount _ dto deliveryId) => some (dto.status, deliveryId)
  | .receiving (.updateDeliveryStatus dto deliveryId) => some (dto.status, deliveryId)
  | _ => none

/-- A confirmation that carries READ is about the rows with its identifier. -/
structure ConfirmsKnown (state : MessagingState) (status : MessageStatus) (deliveryId : Uuid) : Prop where
  spent : deliveryId < state.store.nextId
  read : status = .read → ∀ row ∈ state.store.deliveries, row.id = deliveryId →
    (row.messageId, row.userId) ∈ state.confirmedRead

/-- The deliveries have their own identifiers, their times agree, and the pending confirmations are known. -/
structure TimesKept (progress : Library.Progress MessagingState MessagingTask) : Prop where
  allotted : Allotted progress.state.store.nextId (progress.state.store.deliveries.map MessageDelivery.id)
  agree : TimesAgree progress.state
  known : ∀ task ∈ progress.pending, ∀ status deliveryId, task.confirmation = some (status, deliveryId) →
    ConfirmsKnown progress.state status deliveryId

/-- A synchronization that commits finds deliveries with a time of delivery only, and a confirmation that commits with
the status SENT finds a delivery that has been confirmed with READ. -/
def keepsTimes (progress : Library.Progress MessagingState MessagingTask) : MessagingTask → DeliveryAnswer → Prop
  | .receiving (.markDelivered userId messageIds), answer =>
      answer.env.succeeds 1 = true → ∀ row ∈ progress.state.store.deliveries,
        inSync userId messageIds row = true → row.deliveredAt.isSome = true
  | .receiving (.updateDeliveryStatus dto deliveryId), answer =>
      answer.env.succeeds 1 = true → dto.status = .sent → ∀ row ∈ progress.state.store.deliveries,
        row.id = deliveryId → (row.messageId, row.userId) ∈ progress.state.confirmedRead
  | _, _ => True

instance (progress : Library.Progress MessagingState MessagingTask) :
    (task : MessagingTask) → (answer : DeliveryAnswer) → Decidable (keepsTimes progress task answer)
  | .receiving (.markDelivered userId messageIds), answer =>
      inferInstanceAs (Decidable (answer.env.succeeds 1 = true → ∀ row ∈ progress.state.store.deliveries,
        inSync userId messageIds row = true → row.deliveredAt.isSome = true))
  | .receiving (.updateDeliveryStatus dto deliveryId), answer =>
      inferInstanceAs (Decidable (answer.env.succeeds 1 = true → dto.status = .sent →
        ∀ row ∈ progress.state.store.deliveries, row.id = deliveryId →
          (row.messageId, row.userId) ∈ progress.state.confirmedRead))
  | .receiving (.resetUnreadCount _ _ _), _ => isTrue trivial
  | .receiving (.findMessages _ _), _ => isTrue trivial
  | .sending _, _ => isTrue trivial

/-- The write adds deliveries that are SENT and have no times yet. -/
structure InsertsDeliveries (store next : Store) (rows : List MessageDelivery) : Prop where
  deliveries : next.deliveries = store.deliveries ++ rows
  later : store.nextId ≤ next.nextId
  sent : ∀ row ∈ rows, row.status = .sent ∧ row.readAt = none
  fresh : ∀ row ∈ rows, store.nextId ≤ row.id ∧ row.id < next.nextId
  distinct : (rows.map MessageDelivery.id).Nodup

theorem InsertsDeliveries.none {store next : Store} (same : next.deliveries = store.deliveries)
    (later : store.nextId ≤ next.nextId) : InsertsDeliveries store next [] where
  deliveries := by rw [same, List.append_nil]
  later := later
  sent := nofun
  fresh := nofun
  distinct := List.nodup_nil

section Kinds
variable {progress next : Library.Progress MessagingState MessagingTask}

/-- Confirmations of known deliveries stay known when deliveries are added. -/
theorem ConfirmsKnown.extend {state after : MessagingState} {rows : List MessageDelivery} {status : MessageStatus}
    {deliveryId : Uuid} (known : ConfirmsKnown state status deliveryId)
    (inserts : InsertsDeliveries state.store after.store rows)
    (grows : ∀ pair ∈ state.confirmedRead, pair ∈ after.confirmedRead) : ConfirmsKnown after status deliveryId where
  spent := Nat.lt_of_lt_of_le known.spent inserts.later
  read carries row inside same := by
    rw [inserts.deliveries] at inside
    rcases List.mem_append.mp inside with old | new
    · exact grows _ (known.read carries row old same)
    · have fresh := (inserts.fresh row new).1
      rw [same] at fresh
      exact absurd known.spent (Nat.not_lt_of_le fresh)

/-- New deliveries and new confirmations keep the times. -/
theorem TimesKept.extend (kept : TimesKept progress) {rows : List MessageDelivery}
    (inserts : InsertsDeliveries progress.state.store next.state.store rows)
    (grows : ∀ pair ∈ progress.state.confirmedRead, pair ∈ next.state.confirmedRead)
    (tasks : ∀ task ∈ next.pending, task ∈ progress.pending ∨
      ∀ status deliveryId, task.confirmation = some (status, deliveryId) →
        ConfirmsKnown next.state status deliveryId) : TimesKept next where
  allotted := by
    rw [inserts.deliveries, List.map_append]
    constructor
    · refine kept.allotted.distinct.append inserts.distinct ?_
      intro id old new
      obtain ⟨row, inside, rfl⟩ := List.mem_map.mp new
      exact absurd (kept.allotted.spent _ old) (Nat.not_lt_of_le (inserts.fresh row inside).1)
    · intro id inside
      rcases List.mem_append.mp inside with old | new
      · exact Nat.lt_of_lt_of_le (kept.allotted.spent id old) inserts.later
      · obtain ⟨row, listed, rfl⟩ := List.mem_map.mp new
        exact (inserts.fresh row listed).2
  agree row inside := by
    rw [inserts.deliveries] at inside
    rcases List.mem_append.mp inside with old | new
    · have agrees := kept.agree row old
      exact ⟨agrees.delivered, agrees.read, fun timed => grows _ (agrees.confirmed timed)⟩
    · obtain ⟨sent, unread⟩ := inserts.sent row new
      refine ⟨?_, ?_, ?_⟩
      · intro delivered
        exact nomatch sent.symm.trans delivered
      · intro read
        exact nomatch sent.symm.trans read
      · intro timed
        rw [unread] at timed
        cases timed
  known task inside status deliveryId confirms := by
    rcases tasks task inside with old | new
    · exact (kept.known task old status deliveryId confirms).extend inserts grows
    · exact new status deliveryId confirms

section Updates
variable (after : MessagingState) {matching : MessageDelivery → Bool} {change : MessageDelivery → MessageDelivery}
  (written : after.store.deliveries = updateWhere matching change progress.state.store.deliveries)
  (same : after.confirmedRead = progress.state.confirmedRead)
include written same

/-- The times agree after an update exactly when they agree in the rows that it writes. -/
theorem TimesKept.update_iff (kept : TimesKept progress) :
    TimesAgree after ↔ ∀ row ∈ progress.state.store.deliveries, matching row = true →
      RowAgrees progress.state.confirmedRead (change row) := by
  unfold TimesAgree
  rw [written, same]
  constructor
  · intro agree row inside selected
    refine agree (change row) (mem_updateWhere.mpr ⟨row, inside, ?_⟩)
    rw [if_pos selected]
  · intro agree row inside
    obtain ⟨old, stored, rfl⟩ := mem_updateWhere.mp inside
    split
    · next selected => exact agree old stored selected
    · exact kept.agree old stored

/-- An update after which the times agree keeps what the pending confirmations know. -/
theorem TimesKept.update (kept : TimesKept progress)
    (keeps : ∀ row, (change row).id = row.id ∧ (change row).messageId = row.messageId ∧
      (change row).userId = row.userId)
    (supply : after.store.nextId = progress.state.store.nextId) {pending : List MessagingTask}
    (tasks : ∀ task ∈ pending, task ∈ progress.pending) (agree : TimesAgree after) : TimesKept ⟨after, pending⟩ where
  allotted := by
    rw [written, map_updateWhere _ _ _ fun row => (keeps row).1, supply]
    exact kept.allotted
  agree := agree
  known task inside status deliveryId confirms := by
    have known := kept.known task (tasks task inside) status deliveryId confirms
    refine ⟨?_, fun read row listed own => ?_⟩
    · rw [supply]
      exact known.spent
    · rw [written] at listed
      obtain ⟨old, stored, rfl⟩ := mem_updateWhere.mp listed
      have about : (if matching old then change old else old).id = old.id ∧
          (if matching old then change old else old).messageId = old.messageId ∧
          (if matching old then change old else old).userId = old.userId := by
        split
        · exact keeps old
        · exact ⟨rfl, rfl, rfl⟩
      rw [about.2.1, about.2.2, same]
      exact known.read read old stored (about.1.symm.trans own)

end Updates

end Kinds

section Sending
variable {store : Store}

/-- The commit of a message inserts its deliveries. -/
theorem MessageDraft.write_inserts {draft : MessageDraft} {now : Nat} {next : Store}
    (done : draft.write now store = .ok ((), next)) : ∃ rows, InsertsDeliveries store next rows := by
  obtain ⟨members, same⟩ := draft.saved_eq now store
  unfold MessageDraft.write at done
  rw [same] at done
  obtain ⟨⟨saved, between⟩, inserted, rest⟩ := ok_of_bind done
  unfold MessageRepository.saveMessage at inserted
  split at inserted
  · cases inserted
    cases rest
    rw [foldl_incrementUnreadCount, StorageService.attachUploads, StorageService.foldl_deleteById]
    refine ⟨newDeliveries now store.nextId (store.nextId + 1) (recipients draft.members draft.senderId),
      rfl, ?_, ?_, ?_, ?_⟩
    · exact Nat.le_trans (Nat.le_succ _) (Nat.le_trans (Nat.le_add_right _ _) (Nat.le_add_right _ _))
    · intro row inside
      obtain ⟨⟨userId, index⟩, -, rfl⟩ := List.mem_map.mp inside
      exact ⟨rfl, rfl⟩
    · intro row inside
      obtain ⟨-, -, -, first, last⟩ := mem_newDeliveries inside
      exact ⟨Nat.le_trans (Nat.le_succ _) first, Nat.lt_of_lt_of_le last (Nat.le_add_right _ _)⟩
    · rw [newDeliveries_ids]
      exact (List.nodup_range').map fun _ _ same => Nat.add_left_cancel same
  · cases inserted

/-- A call that uploads or sends inserts no delivery before its message commits. -/
theorem UploadTask.start_inserts (platform : Platform) (store : Store) (call : Env × UploadCall) :
    ∃ rows, InsertsDeliveries store (UploadTask.start platform store call).1 rows := by
  obtain ⟨env, call⟩ := call
  unfold UploadTask.start
  cases call with
  | prepareUploads userId files => exact ⟨[], .none rfl (Nat.le_refl _)⟩
  | putObject key => exact ⟨[], .none rfl (Nat.le_refl _)⟩
  | createPrivateMessage senderId dto =>
      obtain ⟨exception, failed⟩ | ⟨privateKey, conversation, opened, -, succeeded, cases⟩ :=
        ConversationService.getOrCreatePrivateConversation_cases platform env
          { type := .privateType, creatorId := uuidText senderId, members := [dto.receiverId] } rfl store
      · simp only [failed]
        exact ⟨[], .none rfl (Nat.le_refl _)⟩
      · simp only [succeeded]
        obtain ⟨rfl, -⟩ | ⟨-, -, rfl, -⟩ := cases
        · exact ⟨[], .none rfl (Nat.le_refl _)⟩
        · exact ⟨[], .none rfl (Nat.le_succ _)⟩
  | createGroupMessage senderId dto =>
      simp only
      cases createGroupMessageChecks store senderId dto.conversationId with
      | error exception => exact ⟨[], .none rfl (Nat.le_refl _)⟩
      | ok members => exact ⟨[], .none rfl (Nat.le_refl _)⟩

theorem UploadTask.resume_inserts (store : Store) (task : UploadTask) (env : Env) :
    ∃ rows, InsertsDeliveries store (UploadTask.resume store task env).1 rows := by
  cases task with
  | createUploads userId expiresAt files =>
      cases files with
      | nil => exact ⟨[], .none rfl (Nat.le_refl _)⟩
      | cons file files =>
          obtain ⟨rows, supply, shape, later, -, -⟩ :=
            StorageService.createUploads_shape env userId expiresAt 0 [file] store
          unfold UploadTask.resume
          simp only
          rw [shape]
          exact ⟨[], .none rfl later⟩
  | message draft =>
      unfold UploadTask.resume
      simp only
      split
      · split
        · exact ⟨[], .none rfl (Nat.le_refl _)⟩
        · exact ⟨[], .none rfl (Nat.le_refl _)⟩
      · rcases transaction_cases (env.succeeds 0) store (draft.write env.now) with
          ⟨exception, failed⟩ | ⟨value, next, done, -, equal⟩
        · rw [failed]
          exact ⟨[], .none rfl (Nat.le_refl _)⟩
        · rw [equal]
          exact MessageDraft.write_inserts done

end Sending

section Turns
variable {platform : Platform} {progress : Library.Progress MessagingState MessagingTask}

/-- A confirmation sets the time of its status, and every status but DELIVERED sets the time of reading. -/
theorem rowAgrees_confirmed_iff {confirmedRead : List (Uuid × Uuid)} {row : MessageDelivery}
    (agrees : RowAgrees confirmedRead row) (now : Nat) {status : MessageStatus}
    (read : status = .read → (row.messageId, row.userId) ∈ confirmedRead) :
    RowAgrees confirmedRead (confirmed now status row) ↔
      (status = .sent → (row.messageId, row.userId) ∈ confirmedRead) := by
  unfold confirmed
  cases status with
  | sent =>
      rw [if_neg (by decide)]
      constructor
      · exact fun after _ => after.confirmed rfl
      · exact fun known => ⟨nofun, nofun, fun _ => known rfl⟩
  | delivered =>
      rw [if_pos rfl]
      refine iff_of_true ⟨fun _ => rfl, nofun, agrees.confirmed⟩ nofun
  | read =>
      rw [if_neg (by decide)]
      refine iff_of_true ⟨nofun, fun _ => rfl, fun _ => read rfl⟩ nofun

/-- The synchronization sets the status and no time. -/
theorem rowAgrees_marked_iff {confirmedRead : List (Uuid × Uuid)} {row : MessageDelivery}
    (agrees : RowAgrees confirmedRead row) :
    RowAgrees confirmedRead { row with status := .delivered } ↔ row.deliveredAt.isSome = true :=
  ⟨fun after => after.delivered rfl, fun timed => ⟨fun _ => timed, nofun, agrees.confirmed⟩⟩

/-- A confirmation that starts is about the delivery that it has found. -/
theorem start_confirmation {store : Store} {env : Env} {received : DeliveryCall} {started : DeliveryTask}
    (begins : (OfflineSyncService.start store (env, received)).2 = some started) {status : MessageStatus}
    {deliveryId : Uuid} (confirms : (MessagingTask.receiving started).confirmation = some (status, deliveryId)) :
    ∃ delivery ∈ store.deliveries, delivery.id = deliveryId ∧
      (status = .read → (delivery.messageId, delivery.userId) ∈ received.confirmsRead) := by
  cases received with
  | syncPendingMessages userId =>
      unfold OfflineSyncService.start at begins
      simp only at begins
      split at begins
      · cases begins
      · cases begins
        cases confirms
  | confirmDelivery userId dto =>
      obtain ⟨delivery, found, task⟩ := Option.map_eq_some_iff.mp begins
      obtain ⟨inside, message, user⟩ := findByMessageAndUser_some found
      have carried : dto.status = status ∧ delivery.id = deliveryId := by
        split at task
        · cases task
          exact Prod.mk.inj (Option.some.inj confirms)
        · cases task
          exact Prod.mk.inj (Option.some.inj confirms)
      refine ⟨delivery, inside, carried.2, fun read => ?_⟩
      rw [DeliveryCall.confirmsRead, carried.1, if_pos read, message, user]
      exact List.mem_singleton_self _

/-- The first part of a call keeps the times. -/
theorem TimesKept.start (kept : TimesKept progress) (call : Env × MessagingCall) :
    TimesKept (waiting progress.pending ((messagingSystem platform).start progress.state call)) := by
  obtain ⟨env, call⟩ := call
  cases call with
  | sending sent =>
      obtain ⟨rows, inserts⟩ := UploadTask.start_inserts platform progress.state.store (env, sent)
      refine kept.extend inserts (fun _ inside => inside) fun task inside => ?_
      rcases mem_waiting.mp inside with old | new
      · exact .inl old
      · obtain ⟨started, -, rfl⟩ := Option.map_eq_some_iff.mp new
        exact .inr nofun
  | receiving received =>
      have unchanged : (OfflineSyncService.start progress.state.store (env, received)).1 = progress.state.store := by
        unfold OfflineSyncService.start
        cases received <;> rfl
      have inserts : InsertsDeliveries progress.state.store
          (OfflineSyncService.start progress.state.store (env, received)).1 [] := by
        rw [unchanged]
        exact .none rfl (Nat.le_refl _)
      refine kept.extend inserts (fun _ inside => List.mem_append_left _ inside) fun task inside => ?_
      rcases mem_waiting.mp inside with old | new
      · exact .inl old
      · refine .inr fun status deliveryId confirms => ?_
        obtain ⟨started, begins, rfl⟩ := Option.map_eq_some_iff.mp new
        obtain ⟨delivery, inside, rfl, read⟩ := start_confirmation begins confirms
        have spent := kept.allotted.spent delivery.id (List.mem_map_of_mem inside)
        refine ⟨?_, fun carries row listed same => ?_⟩
        · exact Nat.lt_of_lt_of_le spent inserts.later
        · have stored : row ∈ progress.state.store.deliveries := unchanged ▸ listed
          obtain rfl := List.inj_on_of_nodup_map kept.allotted.distinct stored inside same
          exact List.mem_append_right _ (read carries)

/-- A part of a call inserts deliveries, or it is the update of a confirmation or of a synchronization. -/
inductive MessagingStep (progress : Library.Progress MessagingState MessagingTask) :
    MessagingTask → DeliveryAnswer → MessagingState × Option MessagingTask → Prop where
  | inserts (task : MessagingTask) (answer : DeliveryAnswer) (next : Store) (rows : List MessageDelivery)
      (again : Option MessagingTask) (inserts : InsertsDeliveries progress.state.store next rows)
      (carries : ∀ other, again = some other → other.confirmation = none ∨ other.confirmation = task.confirmation)
      (free : keepsTimes progress task answer) :
      MessagingStep progress task answer ({ progress.state with store := next }, again)
  | confirms (dto : MessageDeliveryDto) (deliveryId : Uuid) (answer : DeliveryAnswer)
      (commits : answer.env.succeeds 1 = true) :
      MessagingStep progress (.receiving (.updateDeliveryStatus dto deliveryId)) answer
        ({ progress.state with
            store := updateDeliveryStatus deliveryId (confirmed answer.env.now dto.status) progress.state.store }, none)
  | marks (userId : Uuid) (messageIds : List Uuid) (answer : DeliveryAnswer)
      (commits : answer.env.succeeds 1 = true) :
      MessagingStep progress (.receiving (.markDelivered userId messageIds)) answer
        ({ progress.state with store := markDelivered userId messageIds progress.state.store }, none)

theorem messagingStep (platform : Platform) (progress : Library.Progress MessagingState MessagingTask) (task : MessagingTask)
    (answer : DeliveryAnswer) :
    MessagingStep progress task answer ((messagingSystem platform).resume progress.state task answer) := by
  cases task with
  | sending sent =>
      obtain ⟨rows, inserts⟩ := UploadTask.resume_inserts progress.state.store sent answer.env
      refine .inserts _ answer _ rows _ inserts (fun other again => ?_) trivial
      obtain ⟨next, -, rfl⟩ := Option.map_eq_some_iff.mp again
      exact .inl rfl
  | receiving received =>
      have idle {received : DeliveryTask} (next : Store) (again : Option DeliveryTask)
          (same : next.deliveries = progress.state.store.deliveries)
          (supply : next.nextId = progress.state.store.nextId)
          (carries : ∀ other, again = some other → (MessagingTask.receiving other).confirmation = none ∨
            (MessagingTask.receiving other).confirmation = (MessagingTask.receiving received).confirmation)
          (free : keepsTimes progress (.receiving received) answer) :
          MessagingStep progress (.receiving received) answer
            ({ progress.state with store := next }, again.map .receiving) := by
        refine .inserts _ answer next [] _ (.none same (Nat.le_of_eq supply.symm)) (fun other found => ?_) free
        obtain ⟨task, present, rfl⟩ := Option.map_eq_some_iff.mp found
        exact carries task present
      change MessagingStep progress _ answer
        ({ progress.state with store := (OfflineSyncService.resume platform progress.state.store received answer).1 },
          (OfflineSyncService.resume platform progress.state.store received answer).2.map .receiving)
      unfold OfflineSyncService.resume
      cases received with
      | resetUnreadCount userId dto deliveryId =>
          simp only
          split
          · refine idle _ _ rfl rfl (fun other same => .inr ?_) trivial
            cases same
            rfl
          · exact idle _ _ rfl rfl nofun trivial
      | updateDeliveryStatus dto deliveryId =>
          simp only
          split
          · next commits => exact .confirms dto deliveryId answer commits
          · next aborts => exact idle _ _ rfl rfl nofun fun commits => absurd commits aborts
      | findMessages userId messageIds =>
          simp only
          split
          · exact idle _ _ rfl rfl nofun trivial
          · split
            · refine idle _ _ rfl rfl (fun other same => .inl ?_) trivial
              cases same
              rfl
            · exact idle _ _ rfl rfl nofun trivial
      | markDelivered userId messageIds =>
          simp only
          split
          · next commits => exact .marks userId messageIds answer commits
          · next aborts => exact idle _ _ rfl rfl nofun fun commits => absurd commits aborts

/-- A part of a call keeps what the pending confirmations know, if the times agree after it. -/
theorem TimesKept.resume (kept : TimesKept progress) {position : Nat} {task : MessagingTask} {answer : DeliveryAnswer}
    (present : progress.pending[position]? = some task)
    (agree : TimesAgree ((messagingSystem platform).resume progress.state task answer).1) :
    TimesKept (waiting (progress.pending.eraseIdx position)
      ((messagingSystem platform).resume progress.state task answer)) := by
  have step := messagingStep platform progress task answer
  have resuming := List.mem_of_getElem? present
  generalize (messagingSystem platform).resume progress.state task answer = outcome at step agree ⊢
  have untouched (outcome : MessagingState) : ∀ other ∈ (waiting (progress.pending.eraseIdx position)
      (outcome, none)).pending, other ∈ progress.pending := by
    intro other inside
    rcases mem_waiting.mp inside with old | new
    · exact List.mem_of_mem_eraseIdx old
    · cases new
  cases step with
  | inserts _ _ next rows again inserted carries free =>
      refine kept.extend inserted (fun _ inside => inside) fun other inside => ?_
      rcases mem_waiting.mp inside with old | new
      · exact .inl (List.mem_of_mem_eraseIdx old)
      · refine .inr fun status deliveryId confirms => ?_
        rcases carries other new with none | same
        · exact nomatch none.symm.trans confirms
        · exact (kept.known task resuming status deliveryId (same.symm.trans confirms)).extend inserted
            fun _ inside => inside
  | confirms dto deliveryId _ commits =>
      exact TimesKept.update
        { progress.state with
          store := updateDeliveryStatus deliveryId (confirmed answer.env.now dto.status) progress.state.store }
        rfl rfl kept (confirmed_keeps answer.env.now dto.status) rfl (untouched _) agree
  | marks userId messageIds _ commits =>
      refine TimesKept.update
        { progress.state with store := markDelivered userId messageIds progress.state.store }
        rfl rfl kept ?_ rfl (untouched _) agree
      exact fun _ => ⟨rfl, rfl, rfl⟩

/-- The times agree after a part of a call exactly when its update keeps them. -/
theorem TimesKept.resume_agrees_iff (kept : TimesKept progress) {position : Nat} {task : MessagingTask}
    {answer : DeliveryAnswer} (present : progress.pending[position]? = some task) :
    TimesAgree ((messagingSystem platform).resume progress.state task answer).1 ↔ keepsTimes progress task answer := by
  have step := messagingStep platform progress task answer
  have resuming := List.mem_of_getElem? present
  generalize (messagingSystem platform).resume progress.state task answer = outcome at step ⊢
  cases step with
  | inserts _ _ next rows again inserted carries free =>
      refine iff_of_true ?_ free
      have extended : TimesKept ⟨{ progress.state with store := next }, []⟩ :=
        kept.extend inserted (fun _ inside => inside) nofun
      exact extended.agree
  | confirms dto deliveryId _ commits =>
      have updated := TimesKept.update_iff
        { progress.state with
          store := updateDeliveryStatus deliveryId (confirmed answer.env.now dto.status) progress.state.store }
        rfl rfl kept
      refine updated.trans ?_
      have known := kept.known _ resuming dto.status deliveryId rfl
      unfold keepsTimes
      simp only
      rw [forall_prop_of_true commits]
      constructor
      · intro agree sent row inside same
        exact (rowAgrees_confirmed_iff (kept.agree row inside) answer.env.now fun read =>
          known.read read row inside same).mp (agree row inside (beq_iff_eq.mpr same)) sent
      · intro carried row inside selected
        have same := beq_iff_eq.mp selected
        exact (rowAgrees_confirmed_iff (kept.agree row inside) answer.env.now fun read =>
          known.read read row inside same).mpr fun sent => carried sent row inside same
  | marks userId messageIds _ commits =>
      have updated := TimesKept.update_iff
        { progress.state with store := markDelivered userId messageIds progress.state.store } rfl rfl kept
      refine updated.trans ?_
      unfold keepsTimes
      simp only
      rw [forall_prop_of_true commits]
      refine forall₂_congr fun row inside => ?_
      exact imp_congr_right fun _ => rowAgrees_marked_iff (kept.agree row inside)

/-- From a store without deliveries, the times agree at every position of a run exactly when no update that commits
marks a delivery without a time of delivery, or sets the time of reading of a delivery that was not confirmed as read. -/
theorem delivery_times_agree_iff {store : Store} (deliveries : store.deliveries = [])
    (turns : List (Turn (Env × MessagingCall) DeliveryAnswer)) :
    (∀ position, TimesAgree (stateAt (messagingSystem platform).advance ⟨⟨store, []⟩, []⟩ turns position).state) ↔
      Meets (messagingSystem platform).advance (OnResume keepsTimes) ⟨⟨store, []⟩, []⟩ turns := by
  refine always_iff_meets _ TimesKept (fun progress => TimesAgree progress.state) ?_ ?_ ?_ ?_
  · refine ⟨⟨?_, ?_⟩, ?_, nofun⟩
    · rw [deliveries]
      exact List.nodup_nil
    · rw [deliveries]
      exact nofun
    · intro row inside
      rw [deliveries] at inside
      cases inside
  · exact fun _ kept => kept.agree
  · intro progress turn kept meets
    refine (messagingSystem platform).advance_keeps TimesKept kept ?_ ?_
    · exact fun call _ => kept.start call
    · rintro position answer task rfl present
      exact kept.resume present ((kept.resume_agrees_iff present).mpr (meets task present))
  · intro progress turn kept agree
    cases turn with
    | call call => exact trivial
    | resume position answer =>
        intro task present
        rw [Cooperative.advance_resume _ present] at agree
        exact (kept.resume_agrees_iff present).mp agree

end Turns

/-- The private conversation of users 1 and 2 is open. -/
def openedStore : Store :=
  { users := [1, 2].map fun id => { id, role := .user, createdAt := 0 }
    conversations := [{ id := 3, type := .privateType, createdAt := 0, updatedAt := 0
                        privateKey := some (keyOf plainPlatform 1 (uuidText 2)) }]
    members := [1, 2].map fun userId => { conversationId := 3, userId, role := .member, createdAt := 0 }
    nextId := 4 }

/-- User 1 writes to user 2. -/
def writes : List (Turn (Env × MessagingCall) DeliveryAnswer) :=
  [.call ({ now := 1 }, .sending (.createPrivateMessage 1 ⟨uuidText 2, [104], []⟩)), .resume 0 ⟨{ now := 1 }, true⟩]

/-- The client of user 2 comes back and gets the message from the synchronization. -/
def comesBack : List (Turn (Env × MessagingCall) DeliveryAnswer) :=
  writes ++ [.call ({ now := 2 }, .receiving (.syncPendingMessages 2)), .resume 0 ⟨{ now := 2 }, true⟩,
    .resume 0 ⟨{ now := 2 }, true⟩]

/-- The client of user 2 confirms the message with SENT. -/
def confirmsSent : List (Turn (Env × MessagingCall) DeliveryAnswer) :=
  writes ++ [.call ({ now := 2 }, .receiving (.confirmDelivery 2 ⟨3, 4, .sent⟩)), .resume 0 ⟨{ now := 2 }, true⟩]

/-- The client of user 2 confirms that the message has arrived and that it is read. -/
def confirmsInOrder : List (Turn (Env × MessagingCall) DeliveryAnswer) :=
  writes ++ [.call ({ now := 2 }, .receiving (.confirmDelivery 2 ⟨3, 4, .delivered⟩)), .resume 0 ⟨{ now := 2 }, true⟩,
    .call ({ now := 3 }, .receiving (.confirmDelivery 2 ⟨3, 4, .read⟩)), .resume 0 ⟨{ now := 3 }, true⟩,
    .resume 0 ⟨{ now := 3 }, true⟩]

theorem confirmsInOrder_times_agree :
    TimesAgree (stateAt (messagingSystem plainPlatform).advance ⟨⟨openedStore, []⟩, []⟩ confirmsInOrder 7).state :=
  (delivery_times_agree_iff rfl confirmsInOrder).mpr (by decide) 7

/-- The synchronization marks a delivery without a time of delivery, and a confirmation with SENT sets the time of
reading of a message that nobody has confirmed as read. -/
theorem delivery_times_disagree :
    (¬ ∀ position, TimesAgree
      (stateAt (messagingSystem plainPlatform).advance ⟨⟨openedStore, []⟩, []⟩ comesBack position).state) ∧
    ¬ ∀ position, TimesAgree
      (stateAt (messagingSystem plainPlatform).advance ⟨⟨openedStore, []⟩, []⟩ confirmsSent position).state := by
  constructor
  · intro always
    have agrees := always 5 { id := 5, messageId := 4, userId := 2, status := .delivered, createdAt := 1 } (by decide)
    exact absurd (agrees.delivered rfl) (by decide)
  · intro always
    have agrees := always 4 { id := 5, messageId := 4, userId := 2, readAt := some 0, createdAt := 1 } (by decide)
    exact absurd (agrees.confirmed rfl) (by decide)

end Messinger
