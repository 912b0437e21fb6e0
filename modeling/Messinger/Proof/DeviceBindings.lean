import Messinger.Library.Runs
import Messinger.Model.PushNotifications

namespace Messinger
open Library PushSubscriptionService PushSubscriptionRepository

def rowsOfEndpoint (store : Store) (endpoint : Text) : List PushSubscription :=
  store.pushSubscriptions.filter fun row => row.endpoint == endpoint

/-- Exactly one row has the endpoint. It belongs to the user and holds the keys. -/
def BoundTo (userId : Uuid) (dto : WebPushSubscriptionDto) (store : Store) : Prop :=
  ∃ row, rowsOfEndpoint store dto.endpoint = [row] ∧ row.userId = userId ∧ row.p256dh = dto.p256dh ∧
    row.auth = dto.auth

/-- A subscription that succeeds binds the browser to its caller. -/
def BindsCaller (store : Store) (action : Env × PushCall) : Prop :=
  match action.2 with
  | .subscribeWeb userId dto => (subscribeWeb action.1 userId dto store).1 = .ok () →
      BoundTo userId dto (subscribeWeb action.1 userId dto store).2
  | .unsubscribeWeb _ => True

/-- A subscription that commits finds no row of another user with its endpoint. -/
def FindsNoOther (store : Store) (action : Env × PushCall) : Prop :=
  match action.2 with
  | .subscribeWeb userId dto => action.1.succeeds 0 = true → ∀ row ∈ store.pushSubscriptions,
      row.endpoint = dto.endpoint → row.userId = userId
  | .unsubscribeWeb _ => True

/-- A bound browser gets the notifications of its user. -/
theorem BoundTo.notified {userId : Uuid} {dto : WebPushSubscriptionDto} {store : Store}
    (bound : BoundTo userId dto store) (other : Uuid) :
    (∃ row ∈ findByUserId store other, row.endpoint = dto.endpoint) ↔ other = userId := by
  obtain ⟨row, single, owner, -⟩ := bound
  have listed (found : PushSubscription) :
      found ∈ store.pushSubscriptions ∧ found.endpoint = dto.endpoint ↔ found = row := by
    have both : found ∈ rowsOfEndpoint store dto.endpoint ↔ found ∈ [row] := by rw [single]
    rw [rowsOfEndpoint, List.mem_filter, beq_iff_eq, List.mem_singleton] at both
    exact both
  constructor
  · rintro ⟨found, inside, same⟩
    obtain ⟨present, mine⟩ := List.mem_filter.mp inside
    rw [← beq_iff_eq.mp mine, (listed found).mp ⟨present, same⟩, owner]
  · rintro rfl
    obtain ⟨present, same⟩ := (listed row).mpr rfl
    exact ⟨row, List.mem_filter.mpr ⟨present, beq_iff_eq.mpr owner⟩, same⟩

/-- No two rows share an endpoint. -/
structure Enrolled (store : Store) : Prop where
  endpoints : (store.pushSubscriptions.map PushSubscription.endpoint).Nodup

/-- The row that the update of a known endpoint writes. -/
def withKeys (dto : WebPushSubscriptionDto) (row : PushSubscription) : PushSubscription :=
  { row with p256dh := dto.p256dh, auth := dto.auth }

def enrol (now : Nat) (userId : Uuid) (dto : WebPushSubscriptionDto) (store : Store) : Store :=
  { store with
    pushSubscriptions := store.pushSubscriptions ++
      [{ id := store.nextId, userId, endpoint := dto.endpoint, p256dh := dto.p256dh, auth := dto.auth,
         createdAt := now }]
    nextId := store.nextId + 1 }

def renewKeys (dto : WebPushSubscriptionDto) (id : Uuid) (store : Store) : Store :=
  { store with
    pushSubscriptions := updateWhere (fun row => row.id == id) (withKeys dto) store.pushSubscriptions }

section Rows
variable {store : Store} {env : Env} {userId : Uuid} {dto : WebPushSubscriptionDto}

theorem Enrolled.rows_of_mem (enrolled : Enrolled store) {row : PushSubscription}
    (inside : row ∈ store.pushSubscriptions) : rowsOfEndpoint store row.endpoint = [row] := by
  refine filter_eq_singleton enrolled.endpoints.of_map inside (beq_self_eq_true _) ?_
  intro other present same
  exact List.inj_on_of_nodup_map enrolled.endpoints present inside (beq_iff_eq.mp same)

theorem rowsOfEndpoint_eq_nil_iff {endpoint : Text} :
    rowsOfEndpoint store endpoint = [] ↔ ∀ row ∈ store.pushSubscriptions, row.endpoint ≠ endpoint := by
  rw [rowsOfEndpoint, List.filter_eq_nil_iff]
  exact forall₂_congr fun row _ => not_congr beq_iff_eq

/-- A subscription fails without a trace, renews the keys of the known row, or enrols a new one. -/
theorem subscribeWeb_cases (env : Env) (userId : Uuid) (dto : WebPushSubscriptionDto) (store : Store) :
    (∃ exception, subscribeWeb env userId dto store = (.error exception, store)) ∨
      (∃ row ∈ store.pushSubscriptions, row.endpoint = dto.endpoint ∧ env.succeeds 0 = true ∧
        subscribeWeb env userId dto store = (.ok (), renewKeys dto row.id store)) ∨
      (rowsOfEndpoint store dto.endpoint = [] ∧
        subscribeWeb env userId dto store = (.ok (), enrol env.now userId dto store)) := by
  obtain ⟨exception, failed⟩ | ⟨⟨⟩, next, body, committed, done⟩ :=
    transaction_cases (env.succeeds 0) store (subscribeWebBody env.now env.scan userId dto)
  · exact .inl ⟨exception, failed⟩
  · unfold subscribeWebBody at body
    split at body
    · next row picked =>
        cases body
        obtain ⟨inside, same⟩ := List.mem_filter.mp (pickRow_mem picked)
        exact .inr (.inl ⟨row, inside, beq_iff_eq.mp same, committed, done⟩)
    · next none =>
        split at body
        · cases body
          refine .inr (.inr ⟨?_, done⟩)
          by_contra filled
          obtain ⟨row, inside⟩ := List.exists_mem_of_ne_nil _ filled
          obtain ⟨picked, -, found⟩ := pickRow_isSome inside env.scan
          cases none.symm.trans found
        · cases body

/-- A known endpoint is renewed exactly when the transaction commits. -/
theorem Enrolled.subscribeWeb_known (enrolled : Enrolled store) {row : PushSubscription}
    (inside : row ∈ store.pushSubscriptions) (same : row.endpoint = dto.endpoint) (committed : env.succeeds 0 = true) :
    subscribeWeb env userId dto store = (.ok (), renewKeys dto row.id store) := by
  have rows := enrolled.rows_of_mem inside
  rw [same] at rows
  have picked : pickRow env.scan (rowsOfEndpoint store dto.endpoint) = some row := by
    rw [rows, pickRow, List.length_singleton, Nat.mod_one]
    rfl
  have body : subscribeWebBody env.now env.scan userId dto store = .ok ((), renewKeys dto row.id store) := by
    unfold subscribeWebBody
    split
    · next found =>
        cases found.symm.trans picked
        rfl
    · next none => cases none.symm.trans picked
  rw [subscribeWeb, transaction, body]
  exact if_pos committed

/-- The renewed row keeps its user. -/
theorem Enrolled.rows_renewed (enrolled : Enrolled store) {row : PushSubscription}
    (inside : row ∈ store.pushSubscriptions) (same : row.endpoint = dto.endpoint) :
    rowsOfEndpoint (renewKeys dto row.id store) dto.endpoint = [withKeys dto row] := by
  have endpoints : (renewKeys dto row.id store).pushSubscriptions.map PushSubscription.endpoint =
      store.pushSubscriptions.map PushSubscription.endpoint :=
    map_updateWhere PushSubscription.endpoint _ (withKeys dto) (fun _ => rfl) store.pushSubscriptions
  have distinct : ((renewKeys dto row.id store).pushSubscriptions.map PushSubscription.endpoint).Nodup := by
    rw [endpoints]
    exact enrolled.endpoints
  have present : withKeys dto row ∈ (renewKeys dto row.id store).pushSubscriptions := by
    refine mem_updateWhere.mpr ⟨row, inside, ?_⟩
    rw [beq_self_eq_true]
    rfl
  refine filter_eq_singleton distinct.of_map present (beq_iff_eq.mpr same) ?_
  intro other listed found
  exact List.inj_on_of_nodup_map distinct listed present ((beq_iff_eq.mp found).trans same.symm)

theorem rows_enrolled {now : Nat} (fresh : rowsOfEndpoint store dto.endpoint = []) :
    rowsOfEndpoint (enrol now userId dto store) dto.endpoint =
      [{ id := store.nextId, userId, endpoint := dto.endpoint, p256dh := dto.p256dh, auth := dto.auth,
         createdAt := now }] := by
  unfold rowsOfEndpoint at fresh ⊢
  unfold enrol
  rw [List.filter_append, fresh, List.filter_cons_of_pos]
  · rfl
  · exact beq_self_eq_true _

theorem Enrolled.initial (store : Store) : Enrolled { store with pushSubscriptions := [] } where
  endpoints := List.nodup_nil

theorem Enrolled.renewKeys (enrolled : Enrolled store) (dto : WebPushSubscriptionDto) (id : Uuid) :
    Enrolled (renewKeys dto id store) where
  endpoints := by
    change ((updateWhere _ (withKeys dto) store.pushSubscriptions).map PushSubscription.endpoint).Nodup
    rw [map_updateWhere PushSubscription.endpoint _ (withKeys dto) fun _ => rfl]
    exact enrolled.endpoints

theorem Enrolled.enrol (enrolled : Enrolled store) (now : Nat) (userId : Uuid)
    (fresh : rowsOfEndpoint store dto.endpoint = []) : Enrolled (enrol now userId dto store) where
  endpoints := by
    change ((store.pushSubscriptions ++ [_]).map PushSubscription.endpoint).Nodup
    rw [List.map_append, List.nodup_append]
    refine ⟨enrolled.endpoints, List.nodup_singleton _, ?_⟩
    rintro known listed endpoint new rfl
    obtain ⟨row, inside, same⟩ := List.mem_map.mp listed
    exact rowsOfEndpoint_eq_nil_iff.mp fresh row inside (same.trans (List.mem_singleton.mp new))

theorem Enrolled.unsubscribe (enrolled : Enrolled store) (endpoint : Text) :
    Enrolled (deleteByEndpoint endpoint store) where
  endpoints := enrolled.endpoints.sublist (List.filter_sublist.map _)

/-- Every call keeps the table enrolled. -/
theorem Enrolled.runPushCall (enrolled : Enrolled store) (action : Env × PushCall) :
    Enrolled (runPushCall store action) := by
  obtain ⟨env, call⟩ := action
  cases call with
  | subscribeWeb userId dto =>
      change Enrolled (subscribeWeb env userId dto store).2
      obtain ⟨exception, done⟩ | ⟨row, -, -, -, done⟩ | ⟨fresh, done⟩ := subscribeWeb_cases env userId dto store
      · rw [done]
        exact enrolled
      · rw [done]
        exact enrolled.renewKeys dto row.id
      · rw [done]
        exact enrolled.enrol env.now userId fresh
  | unsubscribeWeb endpoint =>
      change Enrolled (unsubscribeWeb env endpoint store).2
      obtain ⟨exception, done⟩ | ⟨⟨⟩, next, body, -, done⟩ := transaction_cases (env.succeeds 0) store
        fun current => .ok ((), deleteByEndpoint endpoint current)
      · rw [show unsubscribeWeb env endpoint store = _ from done]
        exact enrolled
      · rw [show unsubscribeWeb env endpoint store = _ from done]
        cases body
        exact enrolled.unsubscribe endpoint

/-- In an enrolled table a subscription binds its caller exactly when it finds no row of another user. -/
theorem Enrolled.binds_iff (enrolled : Enrolled store) (action : Env × PushCall) :
    BindsCaller store action ↔ FindsNoOther store action := by
  obtain ⟨env, call⟩ := action
  cases call with
  | unsubscribeWeb endpoint => exact Iff.rfl
  | subscribeWeb userId dto =>
      change ((subscribeWeb env userId dto store).1 = .ok () → BoundTo userId dto (subscribeWeb env userId dto store).2) ↔
        (env.succeeds 0 = true → _)
      constructor
      · intro binds committed row inside same
        have done : subscribeWeb env userId dto store = _ := enrolled.subscribeWeb_known inside same committed
        rw [done] at binds
        obtain ⟨bound, single, owner, -⟩ := binds rfl
        rw [enrolled.rows_renewed inside same] at single
        cases single
        exact owner
      · intro own succeeded
        obtain ⟨exception, done⟩ | ⟨row, inside, same, committed, done⟩ | ⟨fresh, done⟩ :=
          subscribeWeb_cases env userId dto store
        · rw [done] at succeeded
          cases succeeded
        · rw [done]
          exact ⟨withKeys dto row, enrolled.rows_renewed inside same, own committed row inside same, rfl, rfl⟩
        · rw [done]
          exact ⟨_, rows_enrolled fresh, rfl, rfl, rfl⟩

end Rows

/-- In a run from an empty table every successful subscription binds the browser to its caller exactly when every
subscription that commits finds no row of another user with its endpoint. -/
theorem subscriptions_bind_iff (store : Store) (actions : List (Env × PushCall)) :
    Meets runPushCall BindsCaller { store with pushSubscriptions := [] } actions ↔
      Meets runPushCall FindsNoOther { store with pushSubscriptions := [] } actions := by
  have enrolled (position : Nat) :
      Enrolled (stateAt runPushCall { store with pushSubscriptions := [] } actions position) :=
    run_invariant runPushCall Enrolled (fun _ action kept => kept.runPushCall action) _ _ (Enrolled.initial store)
  exact forall_congr' fun position => forall_congr' fun action => imp_congr_right fun _ =>
    (enrolled position).binds_iff action

/-- Users 1 and 2 share a browser. -/
def sharedBrowser : Store :=
  { users := [{ id := 1, role := .user, createdAt := 0 }, { id := 2, role := .user, createdAt := 0 }], nextId := 3 }

def browserDto (keys : Text) : WebPushSubscriptionDto := { endpoint := ['e'], p256dh := keys, auth := keys }

/-- The browser stays with the user who subscribed first. -/
theorem second_user_not_bound :
    ¬ Meets runPushCall BindsCaller sharedBrowser
      [({ now := 0 }, .subscribeWeb 1 (browserDto ['a'])), ({ now := 1 }, .subscribeWeb 2 (browserDto ['b']))] := by
  intro binds
  obtain ⟨row, single, owner, -⟩ := binds 1 _ rfl rfl
  cases single
  cases owner

end Messinger
