import Mathlib.Data.List.Induction
import Messinger.Model.PushNotifications

namespace Messinger
open Library

/-- This is where a send stands after its awaits have settled so many times. -/
def stageAfter (outcome : PushOutcome) : Nat → SendStage
  | 0 => .sending
  | 1 => if outcome.gone then .removing else if outcome.thrown then .threw else .returned
  | _ => if outcome.gone then .returned else if outcome.thrown then .threw else .returned

theorem gone_not_thrown {outcome : PushOutcome} (gone : outcome.gone = true) : outcome.thrown = false := by
  cases outcome with
  | sent => rfl
  | failed => cases gone
  | webPushError statusCode =>
      change (!(PushOutcome.webPushError statusCode).gone) = false
      rw [gone]
      rfl

/-- Each settled await moves the send on, and the second one of a dropped subscription removes its endpoint. -/
theorem resumeSend_stageAfter (subscription : PushSubscription) (outcome : PushOutcome) (count : Nat) (store : Store) :
    resumeSend subscription (stageAfter outcome count) { outcome } store =
      (stageAfter outcome (count + 1),
        if outcome.gone = true ∧ count = 1 then
          PushSubscriptionRepository.deleteByEndpoint subscription.endpoint store
        else store) := by
  cases gone : outcome.gone with
  | true =>
      match count with
      | 0 => simp [resumeSend, stageAfter, gone]
      | 1 => simp [resumeSend, stageAfter, gone]
      | count + 2 => simp [resumeSend, stageAfter, gone]
  | false =>
      cases thrown : outcome.thrown with
      | true =>
          match count with
          | 0 => simp [resumeSend, stageAfter, gone, thrown]
          | 1 => simp [resumeSend, stageAfter, gone, thrown]
          | count + 2 => simp [resumeSend, stageAfter, gone, thrown]
      | false =>
          match count with
          | 0 => simp [resumeSend, stageAfter, gone, thrown]
          | 1 => simp [resumeSend, stageAfter, gone, thrown]
          | count + 2 => simp [resumeSend, stageAfter, gone, thrown]

/-- Some send to the endpoint was answered that the browser is gone, and its removal has settled. -/
def EndpointRemoved (subscriptions : List PushSubscription) (outcomes : Nat → PushOutcome) (schedule : List Nat)
    (endpoint : Text) : Prop :=
  ∃ index subscription, subscriptions[index]? = some subscription ∧ subscription.endpoint = endpoint ∧
    (outcomes index).gone = true ∧ 2 ≤ schedule.count index

/-- The sends and the table are those that the counts of the settled awaits give. -/
structure Counted (payload : PushNotificationPayload) (subscriptions : List PushSubscription)
    (outcomes : Nat → PushOutcome) (store : Store) (schedule : List Nat) (state : FanOut × Store) : Prop where
  sends : ∀ index, state.1.sends[index]? =
    subscriptions[index]?.map fun subscription => (subscription, stageAfter (outcomes index) (schedule.count index))
  attempts : state.1.attempts = (FanOut.start payload subscriptions).attempts
  rows : ∀ row, row ∈ state.2.pushSubscriptions ↔
    row ∈ store.pushSubscriptions ∧ ¬ EndpointRemoved subscriptions outcomes schedule row.endpoint
  others : state.2 = { store with pushSubscriptions := state.2.pushSubscriptions }

section Counting
variable {payload : PushNotificationPayload} {subscriptions : List PushSubscription} {outcomes : Nat → PushOutcome}
  {store : Store} {schedule : List Nat} {state : FanOut × Store}

theorem count_append_of_ne {index place : Nat} (apart : index ≠ place) :
    (schedule ++ [index]).count place = schedule.count place := by
  rw [List.count_append, List.count_singleton, beq_eq_false_iff_ne.mpr apart]
  rfl

/-- One more settled await removes the endpoint of its send when it is the second one of a dropped subscription. -/
theorem endpointRemoved_append_iff {index : Nat} {subscription : PushSubscription}
    (present : subscriptions[index]? = some subscription) {endpoint : Text} :
    EndpointRemoved subscriptions outcomes (schedule ++ [index]) endpoint ↔
      EndpointRemoved subscriptions outcomes schedule endpoint ∨
        (((outcomes index).gone = true ∧ schedule.count index = 1) ∧ subscription.endpoint = endpoint) := by
  have here : (schedule ++ [index]).count index = schedule.count index + 1 := by
    rw [List.count_append, List.count_singleton_self]
  constructor
  · rintro ⟨place, found, listed, same, gone, settled⟩
    by_cases apart : index = place
    · subst apart
      cases present.symm.trans listed
      rw [here] at settled
      by_cases earlier : 2 ≤ schedule.count index
      · exact .inl ⟨index, subscription, present, same, gone, earlier⟩
      · exact .inr ⟨⟨gone, by omega⟩, same⟩
    · rw [count_append_of_ne apart] at settled
      exact .inl ⟨place, found, listed, same, gone, settled⟩
  · rintro (⟨place, found, listed, same, gone, settled⟩ | ⟨⟨gone, once⟩, same⟩)
    · refine ⟨place, found, listed, same, gone, ?_⟩
      rw [List.count_append]
      omega
    · exact ⟨index, subscription, present, same, gone, by omega⟩

theorem Counted.initial : Counted payload subscriptions outcomes store [] (FanOut.start payload subscriptions, store) where
  sends index := by
    change (subscriptions.map fun subscription => (subscription, SendStage.sending))[index]? = _
    rw [List.getElem?_map]
    rfl
  attempts := rfl
  rows row := by
    refine (and_iff_left ?_).symm
    rintro ⟨index, subscription, -, -, -, settled⟩
    cases settled
  others := rfl

/-- An await that nobody has leaves everything as it is. -/
theorem Counted.skip (counted : Counted payload subscriptions outcomes store schedule state) {index : Nat}
    (absent : subscriptions[index]? = none) :
    Counted payload subscriptions outcomes store (schedule ++ [index]) state := by
  have other {place : Nat} {subscription : PushSubscription} (present : subscriptions[place]? = some subscription) :
      (schedule ++ [index]).count place = schedule.count place := by
    have apart : index ≠ place := by
      rintro rfl
      cases absent.symm.trans present
    exact count_append_of_ne apart
  refine ⟨?_, counted.attempts, ?_, counted.others⟩
  · intro place
    rw [counted.sends]
    cases present : subscriptions[place]? with
    | none => rfl
    | some subscription => rw [Option.map_some, Option.map_some, other present]
  · intro row
    rw [counted.rows, not_iff_not.mpr]
    refine exists_congr fun place => exists_congr fun subscription => and_congr_right fun present => ?_
    rw [other present]

/-- One settled await counts once. -/
theorem Counted.settle (counted : Counted payload subscriptions outcomes store schedule state) (index : Nat) :
    Counted payload subscriptions outcomes store (schedule ++ [index])
      (state.1.settle index { outcome := outcomes index } state.2) := by
  unfold FanOut.settle
  rw [counted.sends]
  cases present : subscriptions[index]? with
  | none => exact counted.skip present
  | some subscription =>
      simp only [Option.map_some]
      rw [resumeSend_stageAfter]
      have here : (schedule ++ [index]).count index = schedule.count index + 1 := by
        rw [List.count_append, List.count_singleton_self]
      refine ⟨?_, counted.attempts, ?_, ?_⟩
      · intro place
        rw [List.getElem?_set]
        by_cases same : index = place
        · subst same
          have below : index < state.1.sends.length := by
            have found := counted.sends index
            rw [present] at found
            exact (List.getElem?_eq_some_iff.mp found).1
          rw [if_pos rfl, if_pos below, present, Option.map_some, here]
        · rw [if_neg same, counted.sends, count_append_of_ne same]
      · intro row
        rw [endpointRemoved_append_iff present, not_or, ← and_assoc, ← counted.rows]
        by_cases last : (outcomes index).gone = true ∧ schedule.count index = 1
        · rw [if_pos last, and_iff_right last]
          change row ∈ state.2.pushSubscriptions.filter (fun row => row.endpoint != subscription.endpoint) ↔ _
          rw [List.mem_filter, bne_iff_ne, ne_comm]
        · rw [if_neg last]
          refine (and_iff_left ?_).symm
          exact fun both => last both.1
      · split
        · exact congrArg (fun base : Store => { base with
            pushSubscriptions := state.2.pushSubscriptions.filter fun row =>
              row.endpoint != subscription.endpoint }) counted.others
        · exact counted.others

theorem Counted.run (payload : PushNotificationPayload) (subscriptions : List PushSubscription)
    (outcomes : Nat → PushOutcome) (store : Store) (schedule : List Nat) :
    Counted payload subscriptions outcomes store schedule
      (FanOut.run outcomes schedule (FanOut.start payload subscriptions) store) := by
  induction schedule using List.reverseRecOn with
  | nil => exact Counted.initial
  | append_singleton schedule index ih =>
      unfold FanOut.run at ih ⊢
      rw [List.foldl_append]
      exact ih.settle index

/-- A dropped subscription is settled with its removal, and any other send with its first await. -/
theorem two_of_settled {outcome : PushOutcome} {count : Nat} (gone : outcome.gone = true)
    (settled : (stageAfter outcome count).promise ≠ .pending) : 2 ≤ count := by
  match count with
  | 0 => exact absurd rfl settled
  | 1 =>
      unfold stageAfter at settled
      rw [if_pos gone] at settled
      exact absurd rfl settled
  | count + 2 => exact Nat.le_add_left 2 count

theorem stageAfter_rejected_iff {outcome : PushOutcome} {count : Nat} :
    (stageAfter outcome count).promise = .rejected ↔ outcome.thrown = true ∧ 1 ≤ count := by
  match count with
  | 0 => exact iff_of_false Promise.noConfusion fun both => absurd both.2 (by decide)
  | 1 =>
      unfold stageAfter
      cases gone : outcome.gone with
      | true => simp [gone_not_thrown gone, SendStage.promise]
      | false => cases outcome.thrown <;> simp [SendStage.promise]
  | count + 2 =>
      unfold stageAfter
      cases gone : outcome.gone with
      | true => simp [gone_not_thrown gone, SendStage.promise]
      | false => cases outcome.thrown <;> simp [SendStage.promise]

/-- Some send failed, and not because the browser is gone. -/
def SomeThrown (subscriptions : List PushSubscription) (outcomes : Nat → PushOutcome) : Prop :=
  ∃ index subscription, subscriptions[index]? = some subscription ∧ (outcomes index).thrown = true

/-- Some send to the endpoint was answered that the browser is gone. -/
def Dead (subscriptions : List PushSubscription) (outcomes : Nat → PushOutcome) (endpoint : Text) : Prop :=
  ∃ index subscription, subscriptions[index]? = some subscription ∧ subscription.endpoint = endpoint ∧
    (outcomes index).gone = true

/-- Every send has returned or thrown. -/
def FanOut.Settled (fan : FanOut) : Prop := ∀ send ∈ fan.sends, send.2.promise ≠ .pending

theorem Counted.settled_iff (counted : Counted payload subscriptions outcomes store schedule state) :
    state.1.Settled ↔ ∀ index subscription, subscriptions[index]? = some subscription →
      (stageAfter (outcomes index) (schedule.count index)).promise ≠ .pending := by
  constructor
  · intro settled index subscription present
    have found := counted.sends index
    rw [present] at found
    exact settled _ (List.mem_of_getElem? found)
  · intro settled send inside
    obtain ⟨index, found⟩ := List.mem_iff_getElem?.mp inside
    obtain ⟨subscription, present, rfl⟩ := Option.map_eq_some_iff.mp ((counted.sends index).symm.trans found)
    exact settled index subscription present

/-- The promise is rejected as soon as a send has thrown, whatever is still under way. -/
theorem Counted.rejected_iff (counted : Counted payload subscriptions outcomes store schedule state) :
    state.1.promise = .rejected ↔ ∃ index subscription, subscriptions[index]? = some subscription ∧
      (outcomes index).thrown = true ∧ 1 ≤ schedule.count index := by
  unfold FanOut.promise
  rw [promiseAll_eq_rejected_iff, List.mem_map]
  constructor
  · rintro ⟨send, inside, rejected⟩
    obtain ⟨index, found⟩ := List.mem_iff_getElem?.mp inside
    obtain ⟨subscription, present, rfl⟩ := Option.map_eq_some_iff.mp ((counted.sends index).symm.trans found)
    exact ⟨index, subscription, present, stageAfter_rejected_iff.mp rejected⟩
  · rintro ⟨index, subscription, present, thrown⟩
    have found := counted.sends index
    rw [present] at found
    exact ⟨_, List.mem_of_getElem? found, stageAfter_rejected_iff.mpr thrown⟩

/-- When all sends have settled, the dead endpoints are gone, and the promise tells whether a send has thrown. -/
structure FanOutDone (subscriptions : List PushSubscription) (outcomes : Nat → PushOutcome) (store : Store)
    (state : FanOut × Store) : Prop where
  pruned : ∀ row, row ∈ state.2.pushSubscriptions ↔
    row ∈ store.pushSubscriptions ∧ ¬ Dead subscriptions outcomes row.endpoint
  others : state.2 = { store with pushSubscriptions := state.2.pushSubscriptions }
  rejected : state.1.promise = .rejected ↔ SomeThrown subscriptions outcomes
  fulfilled : state.1.promise = .fulfilled ↔ ¬ SomeThrown subscriptions outcomes

theorem Counted.done (counted : Counted payload subscriptions outcomes store schedule state)
    (settled : state.1.Settled) : FanOutDone subscriptions outcomes store state := by
  have stages := counted.settled_iff.mp settled
  have rejected : state.1.promise = .rejected ↔ SomeThrown subscriptions outcomes := by
    rw [counted.rejected_iff]
    refine exists_congr fun index => exists_congr fun subscription => and_congr_right fun present => ?_
    refine and_iff_left_of_imp fun thrown => Nat.one_le_iff_ne_zero.mpr ?_
    intro never
    refine stages index subscription present ?_
    rw [never]
    rfl
  refine ⟨?_, counted.others, rejected, ?_⟩
  · intro row
    rw [counted.rows, and_congr_right_iff]
    intro _
    refine not_congr (exists_congr fun index => exists_congr fun subscription => and_congr_right fun present => ?_)
    refine and_congr_right fun _ => and_iff_left_of_imp fun gone => ?_
    exact two_of_settled gone (stages index subscription present)
  · rw [← rejected]
    unfold FanOut.promise
    rw [promiseAll_eq_fulfilled_iff, promiseAll_eq_rejected_iff]
    refine and_iff_left ?_
    intro waits
    obtain ⟨send, inside, pending⟩ := List.mem_map.mp waits
    exact settled send inside pending

end Counting

end Messinger
