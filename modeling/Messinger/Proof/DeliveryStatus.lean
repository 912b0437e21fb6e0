import Messinger.Library.Statuses
import Messinger.Model.OfflineSync

namespace Messinger
open Library MessageDeliveryRepository OfflineSyncService

/-- The statuses are ordered SENT, DELIVERED, READ. -/
def MessageStatus.rank : MessageStatus → Nat
  | .sent => 0
  | .delivered => 1
  | .read => 2

def statusOf (store : Store) (deliveryId : Uuid) : Option MessageStatus :=
  (lookup MessageDelivery.id deliveryId store.deliveries).map (·.status)

/-- No stored status has moved back, and no delivery is gone. -/
def StatusesKept (store next : Store) : Prop :=
  ∀ deliveryId first, statusOf store deliveryId = some first →
    ∃ second, statusOf next deliveryId = some second ∧ first.rank ≤ second.rank

theorem statusesKept_iff {store next : Store} :
    StatusesKept store next ↔ StatusesFollow MessageDelivery.id (·.status)
      (fun first second => first.rank ≤ second.rank) store.deliveries next.deliveries := by
  constructor
  · intro kept deliveryId row found
    obtain ⟨second, stored, below⟩ := kept deliveryId row.status (by rw [statusOf, found]; rfl)
    obtain ⟨after, present, rfl⟩ := Option.map_eq_some_iff.mp stored
    exact ⟨after, present, below⟩
  · intro follows deliveryId first stored
    obtain ⟨row, found, rfl⟩ := Option.map_eq_some_iff.mp stored
    obtain ⟨after, present, below⟩ := follows deliveryId row found
    exact ⟨after.status, by rw [statusOf, present]; rfl, below⟩

theorem StatusesKept.of_deliveries {store next : Store} (same : next.deliveries = store.deliveries) :
    StatusesKept store next := by
  rw [statusesKept_iff, same]
  exact .refl _ _ (fun _ => Nat.le_refl _) _

theorem StatusesKept.trans {first second third : Store} (one : StatusesKept first second)
    (two : StatusesKept second third) : StatusesKept first third := by
  rw [statusesKept_iff] at one two ⊢
  refine one.trans _ _ ?_ two
  exact fun _ _ _ => Nat.le_trans

/-- An update of deliveries keeps the statuses exactly when it lowers none of the rows that it finds. -/
theorem statusesKept_updateWhere_iff {store next : Store} {matching : MessageDelivery → Bool}
    {change : MessageDelivery → MessageDelivery} {status : MessageStatus}
    (written : next.deliveries = updateWhere matching change store.deliveries)
    (keeps : ∀ row, (change row).id = row.id) (sets : ∀ row, (change row).status = status) :
    StatusesKept store next ↔
      ∀ deliveryId row, lookup MessageDelivery.id deliveryId store.deliveries = some row →
        matching row = true → row.status.rank ≤ status.rank := by
  rw [statusesKept_iff, written]
  refine statusesFollow_updateWhere_iff _ _ ?_ keeps sets _
  exact fun first => Nat.le_refl first.rank

/-- The confirmation carries a status that is not below the stored one, and the synchronization finds no
read delivery to mark. -/
def movesForward (progress : Library.Progress Store DeliveryTask) : DeliveryTask → DeliveryAnswer → Prop
  | .updateDeliveryStatus dto deliveryId, answer =>
      answer.env.succeeds 1 = true → ∀ row,
        lookup MessageDelivery.id deliveryId progress.state.deliveries = some row →
        row.status.rank ≤ dto.status.rank
  | .markDelivered userId messageIds, answer =>
      answer.env.succeeds 1 = true → ∀ deliveryId row,
        lookup MessageDelivery.id deliveryId progress.state.deliveries = some row →
        inSync userId messageIds row = true → row.status ≠ .read
  | .resetUnreadCount _ _ _, _ => True
  | .findMessages _ _, _ => True

section Statuses
variable {platform : Platform}

theorem resume_keeps_iff (platform : Platform) (progress : Library.Progress Store DeliveryTask) (task : DeliveryTask)
    (answer : DeliveryAnswer) :
    StatusesKept progress.state (resume platform progress.state task answer).1 ↔
      movesForward progress task answer := by
  unfold resume movesForward
  cases task with
  | resetUnreadCount userId dto deliveryId =>
      refine iff_of_true (StatusesKept.of_deliveries ?_) trivial
      cases answer.env.succeeds 0 <;> rfl
  | findMessages userId messageIds =>
      refine iff_of_true (StatusesKept.of_deliveries ?_) trivial
      simp only
      cases decipheredMessages platform progress.state messageIds with
      | error exception => rfl
      | ok contents => cases answer.env.succeeds 0 && answer.connected <;> rfl
  | updateDeliveryStatus dto deliveryId =>
      simp only
      cases answer.env.succeeds 1 with
      | false => exact iff_of_true (StatusesKept.of_deliveries rfl) fun impossible => by cases impossible
      | true =>
          have changes (row : MessageDelivery) : (confirmed answer.env.now dto.status row).id = row.id ∧
              (confirmed answer.env.now dto.status row).status = dto.status := by
            unfold confirmed
            split <;> exact ⟨rfl, rfl⟩
          rw [if_pos rfl, forall_prop_of_true rfl,
            statusesKept_updateWhere_iff rfl (fun row => (changes row).1) fun row => (changes row).2]
          constructor
          · intro forward row found
            exact forward deliveryId row found (beq_iff_eq.mpr (lookup_mem MessageDelivery.id found).2)
          · intro forward other row found selected
            have same : other = deliveryId :=
              (lookup_mem MessageDelivery.id found).2.symm.trans (beq_iff_eq.mp selected)
            exact forward row (same ▸ found)
  | markDelivered userId messageIds =>
      simp only
      cases answer.env.succeeds 1 with
      | false => exact iff_of_true (StatusesKept.of_deliveries rfl) fun impossible => by cases impossible
      | true =>
          have unread (status : MessageStatus) : status.rank ≤ MessageStatus.delivered.rank ↔ status ≠ .read := by
            cases status <;> decide
          have marks : StatusesKept progress.state (markDelivered userId messageIds progress.state) ↔
              ∀ deliveryId row, lookup MessageDelivery.id deliveryId progress.state.deliveries = some row →
                inSync userId messageIds row = true → row.status.rank ≤ MessageStatus.delivered.rank := by
            refine statusesKept_updateWhere_iff rfl ?_ ?_
            · exact fun _ => rfl
            · exact fun _ => rfl
          rw [if_pos rfl, forall_prop_of_true rfl, marks]
          simp only [unread]

theorem advance_keeps_iff (progress : Library.Progress Store DeliveryTask)
    (turn : Turn (Env × DeliveryCall) DeliveryAnswer) :
    StatusesKept progress.state ((deliverySystem platform).advance progress turn).state ↔
      OnResume movesForward progress turn := by
  cases turn with
  | call call =>
      refine iff_of_true (StatusesKept.of_deliveries ?_) trivial
      change (start progress.state call).1.deliveries = _
      unfold start
      cases call.2 <;> rfl
  | resume position answer =>
      unfold Cooperative.advance OnResume
      simp only
      cases progress.pending[position]? with
      | none =>
          refine iff_of_true (StatusesKept.of_deliveries rfl) ?_
          intro task absent
          cases absent
      | some task =>
          refine (resume_keeps_iff platform progress task answer).trans ?_
          constructor
          · rintro forward _ ⟨⟩
            exact forward
          · exact fun forward => forward task rfl

/-- The statuses of all deliveries only move forward exactly when no update that commits lowers the status
that it finds. -/
theorem statuses_forward_iff (store : Store) (turns : List (Turn (Env × DeliveryCall) DeliveryAnswer)) :
    (∀ earlier later, earlier ≤ later →
        StatusesKept (stateAt (deliverySystem platform).advance ⟨store, []⟩ turns earlier).state
          (stateAt (deliverySystem platform).advance ⟨store, []⟩ turns later).state) ↔
      Meets (deliverySystem platform).advance (OnResume movesForward) ⟨store, []⟩ turns := by
  refine (stateAt_related_iff (deliverySystem platform).advance
    (fun progress next => StatusesKept progress.state next.state) ?_ ?_ ⟨store, []⟩ turns).trans ?_
  · exact fun _ => StatusesKept.of_deliveries rfl
  · exact fun _ _ _ => StatusesKept.trans
  · exact Meets.congr _ advance_keeps_iff

end Statuses

/-- The message of this store is not confirmed yet by user 2. -/
def unconfirmedStore : Store :=
  { deliveries := [{ id := 5, messageId := 4, userId := 2, createdAt := 0 }], nextId := 6 }

/-- The client of user 2 confirms the message as read, and its late confirmation of the delivery follows. -/
def lateConfirmation : List (Turn (Env × DeliveryCall) DeliveryAnswer) :=
  [.call ({ now := 0 }, .confirmDelivery 2 ⟨3, 4, .read⟩), .resume 0 ⟨{ now := 1 }, true⟩,
    .resume 0 ⟨{ now := 2 }, true⟩, .call ({ now := 3 }, .confirmDelivery 2 ⟨3, 4, .delivered⟩),
    .resume 0 ⟨{ now := 4 }, true⟩]

/-- The synchronization of user 2 reads its deliveries before the confirmation and marks them after it. -/
def staleSync : List (Turn (Env × DeliveryCall) DeliveryAnswer) :=
  [.call ({ now := 0 }, .syncPendingMessages 2), .resume 0 ⟨{ now := 1 }, true⟩,
    .call ({ now := 2 }, .confirmDelivery 2 ⟨3, 4, .read⟩), .resume 1 ⟨{ now := 3 }, true⟩,
    .resume 1 ⟨{ now := 4 }, true⟩, .resume 0 ⟨{ now := 5 }, true⟩]

/-- In both runs the status of delivery 5 goes back from READ to DELIVERED. -/
theorem status_goes_back :
    (¬ ∀ earlier later, earlier ≤ later →
      StatusesKept (stateAt (deliverySystem plainPlatform).advance ⟨unconfirmedStore, []⟩ lateConfirmation earlier).state
        (stateAt (deliverySystem plainPlatform).advance ⟨unconfirmedStore, []⟩ lateConfirmation later).state) ∧
    ¬ ∀ earlier later, earlier ≤ later →
      StatusesKept (stateAt (deliverySystem plainPlatform).advance ⟨unconfirmedStore, []⟩ staleSync earlier).state
        (stateAt (deliverySystem plainPlatform).advance ⟨unconfirmedStore, []⟩ staleSync later).state := by
  constructor
  · intro forward
    obtain ⟨status, stored, above⟩ := forward 3 5 (by decide) 5 .read (by decide)
    have same : some MessageStatus.delivered = some status := Eq.trans (by decide) stored
    cases same
    exact absurd above (by decide)
  · intro forward
    obtain ⟨status, stored, above⟩ := forward 5 6 (by decide) 5 .read (by decide)
    have same : some MessageStatus.delivered = some status := Eq.trans (by decide) stored
    cases same
    exact absurd above (by decide)

end Messinger
