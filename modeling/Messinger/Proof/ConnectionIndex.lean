import Messinger.Library.Runs
import Messinger.Model.ConnectionManager

namespace Messinger
open Library ConnectionManager

namespace ConnectionManager

/-- The registered identifiers are distinct and have objects. -/
structure Registered (manager : ConnectionManager) : Prop where
  below : ∀ object ∈ manager.objects, object.id < manager.nextId
  known : ∀ connectionId ∈ manager.connections, ∃ connection,
    lookup Connection.id connectionId manager.objects = some connection
  distinct : manager.connections.Nodup

theorem get_eq_some {manager : ConnectionManager} {connectionId : Uuid} {connection : Connection} :
    manager.get connectionId = some connection ↔
      connectionId ∈ manager.connections ∧ lookup Connection.id connectionId manager.objects = some connection := by
  unfold get
  split
  · next registered => exact (and_iff_right registered).symm
  · next unregistered =>
      constructor
      · exact nofun
      · exact fun both => absurd both.1 unregistered

theorem id_of_get {manager : ConnectionManager} {connectionId : Uuid} {connection : Connection}
    (found : manager.get connectionId = some connection) : connection.id = connectionId :=
  (lookup_mem Connection.id (get_eq_some.mp found).2).2

theorem userOf_of_get {manager : ConnectionManager} {connectionId : Uuid} {connection : Connection}
    (found : manager.get connectionId = some connection) :
    manager.userOf connectionId = connection.userId := by
  rw [userOf, (get_eq_some.mp found).2]
  rfl

theorem Registered.get_of_mem {manager : ConnectionManager} (sound : Registered manager) {connectionId : Uuid}
    (registered : connectionId ∈ manager.connections) :
    ∃ connection, manager.get connectionId = some connection := by
  obtain ⟨connection, found⟩ := sound.known connectionId registered
  exact ⟨connection, get_eq_some.mpr ⟨registered, found⟩⟩

theorem mem_getAllConnections {manager : ConnectionManager} {connection : Connection} :
    connection ∈ manager.getAllConnections ↔ manager.get connection.id = some connection := by
  rw [getAllConnections, List.mem_filterMap]
  constructor
  · rintro ⟨connectionId, -, found⟩
    rw [id_of_get found]
    exact found
  · exact fun found => ⟨connection.id, (get_eq_some.mp found).1, found⟩

/-- The index files the registered connections under their users, and other connections only under theirs. -/
structure Filed (manager : ConnectionManager) (owner : Uuid → Option Uuid) : Prop
    extends Registered manager where
  mirrors : Mirrors owner manager.userConnections
  registered : ∀ connectionId ∈ manager.connections, owner connectionId = manager.userOf connectionId
  filed : ∀ connectionId userId, owner connectionId = some userId → manager.userOf connectionId = some userId

theorem Filed.mem_getUserConnections {manager : ConnectionManager} {owner : Uuid → Option Uuid}
    (filed : Filed manager owner) (userId : Uuid) (connection : Connection) :
    connection ∈ manager.getUserConnections userId ↔
      connection ∈ manager.getAllConnections ∧ connection.userId = some userId := by
  rw [mem_getAllConnections]
  have owned (found : manager.get connection.id = some connection) : owner connection.id = connection.userId :=
    (filed.registered _ (get_eq_some.mp found).1).trans (userOf_of_get found)
  unfold getUserConnections
  cases located : lookup Prod.fst userId manager.userConnections with
  | none =>
      simp only [List.not_mem_nil, false_iff]
      rintro ⟨found, same⟩
      exact filed.mirrors.unowned located connection.id ((owned found).trans same)
  | some entry =>
      obtain ⟨-, listed⟩ := filed.mirrors.lookup located
      simp only [List.mem_filterMap]
      constructor
      · rintro ⟨connectionId, inside, found⟩
        obtain rfl := id_of_get found
        exact ⟨found, (owned found).symm.trans ((listed _).mp inside)⟩
      · rintro ⟨found, same⟩
        exact ⟨connection.id, (listed _).mpr ((owned found).trans same), found⟩

theorem map_id_filterMap_get (manager : ConnectionManager) (identifiers : List Uuid) :
    ((identifiers.filterMap manager.get).map Connection.id).Sublist identifiers := by
  induction identifiers with
  | nil => exact List.Sublist.refl _
  | cons first rest ih =>
      rw [List.filterMap_cons]
      cases found : manager.get first with
      | none => exact ih.cons first
      | some connection =>
          rw [List.map_cons, id_of_get found]
          exact ih.cons_cons first

theorem Filed.nodup_getUserConnections {manager : ConnectionManager} {owner : Uuid → Option Uuid}
    (filed : Filed manager owner) (userId : Uuid) :
    ((manager.getUserConnections userId).map Connection.id).Nodup := by
  unfold getUserConnections
  cases located : lookup Prod.fst userId manager.userConnections with
  | none => exact List.nodup_nil
  | some entry => exact (map_id_filterMap_get manager entry.2).nodup (filed.mirrors.lookup located).1

theorem Registered.initial : Registered {} where
  below _ inside := absurd inside List.not_mem_nil
  known _ inside := absurd inside List.not_mem_nil
  distinct := List.nodup_nil

theorem Filed.initial : Filed {} fun _ => none where
  toRegistered := Registered.initial
  mirrors := Mirrors.nil
  registered _ inside := absurd inside List.not_mem_nil
  filed _ _ owned := by cases owned

theorem Registered.fresh {manager : ConnectionManager} (sound : Registered manager) :
    lookup Connection.id manager.nextId manager.objects = none :=
  (lookup_eq_none Connection.id).mpr fun object inside => Nat.ne_of_lt (sound.below object inside)

theorem Registered.unregistered {manager : ConnectionManager} (sound : Registered manager) :
    manager.nextId ∉ manager.connections := by
  intro registered
  obtain ⟨connection, found⟩ := sound.known _ registered
  rw [sound.fresh] at found
  cases found

theorem Registered.register {manager : ConnectionManager} (sound : Registered manager) :
    Registered manager.register.2 := by
  refine ⟨?_, ?_, ?_⟩
  · intro object inside
    obtain old | new := List.mem_append.mp inside
    · exact Nat.lt_succ_of_lt (sound.below object old)
    · rw [List.mem_singleton.mp new]
      exact Nat.lt_succ_self _
  · intro connectionId inside
    change ∃ connection, lookup Connection.id connectionId (manager.objects ++ _) = some connection
    rw [lookup_append]
    obtain old | new := List.mem_append.mp inside
    · obtain ⟨connection, found⟩ := sound.known connectionId old
      exact ⟨connection, by rw [found]; rfl⟩
    · rw [List.mem_singleton.mp new, sound.fresh]
      exact ⟨{ id := manager.nextId }, by simp [lookup]⟩
  · exact sound.distinct.append (List.nodup_singleton _) (by simpa using sound.unregistered)

/-- A new connection belongs to nobody. -/
theorem userOf_register (manager : ConnectionManager) : manager.register.2.userOf = manager.userOf := by
  funext connectionId
  unfold userOf ConnectionManager.register
  simp only [lookup_append]
  cases lookup Connection.id connectionId manager.objects with
  | some connection => rfl
  | none => by_cases same : manager.nextId = connectionId <;> simp [lookup, same]

theorem Filed.register {manager : ConnectionManager} {owner : Uuid → Option Uuid} (filed : Filed manager owner) :
    Filed manager.register.2 owner := by
  refine ⟨filed.toRegistered.register, filed.mirrors, ?_, ?_⟩
  · intro connectionId inside
    rw [userOf_register]
    obtain old | new := List.mem_append.mp inside
    · exact filed.registered connectionId old
    · rw [List.mem_singleton.mp new]
      have nobody : manager.userOf manager.nextId = none := by
        rw [userOf, filed.fresh]
        rfl
      cases owned : owner manager.nextId with
      | none => exact nobody.symm
      | some userId => exact (filed.filed _ _ owned).symm
  · rw [userOf_register]
    exact filed.filed

/-- Removing a registered connection drops it from the map and from the set of its user. -/
theorem unregister_eq {manager : ConnectionManager} {connectionId : Uuid} {connection : Connection}
    (found : manager.get connectionId = some connection) :
    manager.unregister connectionId =
      { manager with
        connections := manager.connections.filter (· ≠ connectionId)
        userConnections := connection.userId.elim manager.userConnections fun userId =>
          detach userId connectionId manager.userConnections } := by
  unfold unregister
  rw [found]
  simp only [id_of_get found]
  cases connection.userId <;> rfl

theorem unregister_of_absent {manager : ConnectionManager} {connectionId : Uuid}
    (absent : manager.get connectionId = none) : manager.unregister connectionId = manager := by
  rw [unregister, absent]

theorem objects_unregister (manager : ConnectionManager) (connectionId : Uuid) :
    (manager.unregister connectionId).objects = manager.objects := by
  cases found : manager.get connectionId with
  | none => rw [unregister_of_absent found]
  | some connection => rw [unregister_eq found]

theorem nextId_unregister (manager : ConnectionManager) (connectionId : Uuid) :
    (manager.unregister connectionId).nextId = manager.nextId := by
  cases found : manager.get connectionId with
  | none => rw [unregister_of_absent found]
  | some connection => rw [unregister_eq found]

theorem userOf_unregister (manager : ConnectionManager) (connectionId : Uuid) :
    (manager.unregister connectionId).userOf = manager.userOf := by
  funext other
  rw [userOf, userOf, objects_unregister]

/-- Whatever the manager knew, the identifier is not registered afterwards. -/
theorem Registered.connections_unregister {manager : ConnectionManager} (sound : Registered manager)
    (connectionId : Uuid) :
    (manager.unregister connectionId).connections = manager.connections.filter (· ≠ connectionId) := by
  cases found : manager.get connectionId with
  | none =>
      rw [unregister_of_absent found]
      symm
      rw [List.filter_eq_self]
      intro other inside
      apply decide_eq_true
      rintro rfl
      obtain ⟨connection, located⟩ := sound.get_of_mem inside
      rw [located] at found
      cases found
  | some connection => rw [unregister_eq found]

theorem Registered.unregister {manager : ConnectionManager} (sound : Registered manager) (connectionId : Uuid) :
    Registered (manager.unregister connectionId) := by
  refine ⟨?_, ?_, ?_⟩
  · rw [objects_unregister, nextId_unregister]
    exact sound.below
  · rw [objects_unregister, sound.connections_unregister]
    exact fun other inside => sound.known other (List.mem_of_mem_filter inside)
  · rw [sound.connections_unregister]
    exact sound.distinct.filter _

/-- The removed connection is filed nowhere, whichever user it had. -/
theorem Filed.unregister {manager : ConnectionManager} {owner : Uuid → Option Uuid} (filed : Filed manager owner)
    {connectionId : Uuid} (present : connectionId ∈ manager.connections) :
    Filed (manager.unregister connectionId) (Function.update owner connectionId none) := by
  obtain ⟨connection, found⟩ := filed.get_of_mem present
  have owned : owner connectionId = connection.userId :=
    (filed.registered connectionId present).trans (userOf_of_get found)
  refine ⟨filed.toRegistered.unregister connectionId, ?_, ?_, ?_⟩
  · rw [unregister_eq found]
    cases user : connection.userId with
    | none =>
        have unchanged : Function.update owner connectionId none = owner :=
          user ▸ owned ▸ Function.update_eq_self connectionId owner
        rw [unchanged]
        exact filed.mirrors
    | some userId => exact filed.mirrors.detach (owned.trans user)
  · intro other inside
    rw [filed.connections_unregister] at inside
    obtain ⟨old, apart⟩ := List.mem_filter.mp inside
    rw [Function.update_of_ne (of_decide_eq_true apart), userOf_unregister]
    exact filed.registered other old
  · intro other userId held
    rw [userOf_unregister]
    by_cases same : other = connectionId
    · subst same
      rw [Function.update_self] at held
      cases held
    · rw [Function.update_of_ne same] at held
      exact filed.filed other userId held

theorem connections_authenticate (manager : ConnectionManager) (connectionId userId sessionId : Uuid) :
    (manager.authenticate connectionId userId sessionId).connections = manager.connections := by
  unfold ConnectionManager.authenticate
  split <;> rfl

theorem nextId_authenticate (manager : ConnectionManager) (connectionId userId sessionId : Uuid) :
    (manager.authenticate connectionId userId sessionId).nextId = manager.nextId := by
  unfold ConnectionManager.authenticate
  split <;> rfl

theorem Registered.authenticate {manager : ConnectionManager} (sound : Registered manager)
    (connectionId userId sessionId : Uuid) : Registered (manager.authenticate connectionId userId sessionId) := by
  unfold ConnectionManager.authenticate
  split
  · exact sound
  · refine ⟨?_, ?_, sound.distinct⟩
    · intro changed inside
      have listed := List.mem_map_of_mem (f := Connection.id) inside
      simp only [attachUser, updateConnection] at listed
      rw [map_updateWhere, map_updateWhere] at listed
      · obtain ⟨old, present, equal⟩ := List.mem_map.mp listed
        rw [← equal]
        exact sound.below old present
      · exact fun _ => rfl
      · exact fun _ => rfl
    · intro other inside
      obtain ⟨old, present⟩ := sound.known other inside
      simp only [attachUser, updateConnection]
      rw [lookup_updateWhere, lookup_updateWhere, present]
      · exact ⟨_, rfl⟩
      · exact fun _ => rfl
      · exact fun _ => rfl

/-- Authenticating a connection files it, whether or not it is still registered. -/
theorem userConnections_authenticate {manager : ConnectionManager} {connectionId : Uuid} {connection : Connection}
    (found : lookup Connection.id connectionId manager.objects = some connection) (userId sessionId : Uuid) :
    (manager.authenticate connectionId userId sessionId).userConnections =
      attach userId connectionId manager.userConnections := by
  rw [ConnectionManager.authenticate, found]
  rfl

theorem userOf_authenticate {manager : ConnectionManager} {connectionId : Uuid} {connection : Connection}
    (found : lookup Connection.id connectionId manager.objects = some connection) (userId sessionId : Uuid) :
    (manager.authenticate connectionId userId sessionId).userOf =
      Function.update manager.userOf connectionId (some userId) := by
  funext other
  unfold userOf ConnectionManager.authenticate attachUser updateConnection
  rw [found]
  simp only
  rw [lookup_updateWhere, lookup_updateWhere]
  · by_cases same : other = connectionId
    · subst same
      rw [found, Function.update_self]
      simp [(lookup_mem Connection.id found).2]
    · rw [Function.update_of_ne same]
      cases located : lookup Connection.id other manager.objects with
      | none => rfl
      | some object =>
          have apart : object.id ≠ connectionId := (lookup_mem Connection.id located).2 ▸ same
          simp [apart]
  · exact fun _ => rfl
  · exact fun _ => rfl

theorem Filed.authenticate {manager : ConnectionManager} {owner : Uuid → Option Uuid} (filed : Filed manager owner)
    {connectionId userId sessionId : Uuid} {connection : Connection}
    (found : lookup Connection.id connectionId manager.objects = some connection)
    (alike : manager.userOf connectionId = none ∨ manager.userOf connectionId = some userId) :
    Filed (manager.authenticate connectionId userId sessionId)
      (Function.update owner connectionId (some userId)) := by
  refine ⟨filed.toRegistered.authenticate connectionId userId sessionId, ?_, ?_, ?_⟩
  · rw [userConnections_authenticate found]
    apply filed.mirrors.attach
    intro other owned
    have user := filed.filed connectionId other owned
    obtain nobody | same := alike
    · rw [nobody] at user
      cases user
    · exact Option.some.inj (user.symm.trans same)
  · intro other inside
    rw [connections_authenticate] at inside
    rw [userOf_authenticate found]
    by_cases same : other = connectionId
    · rw [same, Function.update_self, Function.update_self]
    · rw [Function.update_of_ne same, Function.update_of_ne same]
      exact filed.registered other inside
  · intro other holder owned
    rw [userOf_authenticate found]
    by_cases same : other = connectionId
    · rw [same, Function.update_self] at owned ⊢
      exact owned
    · rw [Function.update_of_ne same] at owned ⊢
      exact filed.filed other holder owned

/-- A registered connection belongs to its user, and every other one to nobody. -/
def owner (manager : ConnectionManager) (connectionId : Uuid) : Option Uuid :=
  if connectionId ∈ manager.connections then manager.userOf connectionId else none

/-- The index files the registered connections and no others. -/
def Exact (manager : ConnectionManager) : Prop := Filed manager manager.owner

end ConnectionManager

/-- The manager reports each registered connection of the user once and nothing else, and keeps no
entry for a user without connections. -/
structure IndexExact (manager : ConnectionManager) (userId : Uuid) : Prop where
  once : ((manager.getUserConnections userId).map Connection.id).Nodup
  exact : ∀ connection, connection ∈ manager.getUserConnections userId ↔
    connection ∈ manager.getAllConnections ∧ connection.userId = some userId
  entry : userId ∈ manager.userConnections.map Prod.fst →
    ∃ connection ∈ manager.getAllConnections, connection.userId = some userId

/-- An authentication meets a registered connection of nobody or of the same user. -/
def AuthenticatesAlike (manager : ConnectionManager) : ConnectionStep → Prop
  | .authenticate connectionId userId _ =>
      connectionId ∈ manager.connections ∧
        (manager.userOf connectionId = none ∨ manager.userOf connectionId = some userId)
  | .register => True
  | .unregister _ => True

instance (manager : ConnectionManager) : (action : ConnectionStep) →
    Decidable (AuthenticatesAlike manager action)
  | .authenticate _ _ _ => inferInstanceAs (Decidable (_ ∧ _))
  | .register => isTrue trivial
  | .unregister _ => isTrue trivial

namespace ConnectionManager

theorem Exact.indexExact {manager : ConnectionManager} (exact : Exact manager) (userId : Uuid) :
    IndexExact manager userId := by
  refine ⟨exact.nodup_getUserConnections userId, exact.mem_getUserConnections userId, ?_⟩
  intro present
  obtain ⟨connectionId, owned⟩ := exact.mirrors.owns present
  unfold owner at owned
  split at owned
  · next registered =>
      obtain ⟨connection, found⟩ := exact.get_of_mem registered
      refine ⟨connection, mem_getAllConnections.mpr ?_, (userOf_of_get found).symm.trans owned⟩
      rw [id_of_get found]
      exact found
  · cases owned

theorem Exact.initial : Exact {} := by
  have nobody : ConnectionManager.owner {} = fun _ => none := by
    funext connectionId
    exact if_neg List.not_mem_nil
  rw [Exact, nobody]
  exact Filed.initial

theorem Exact.register {manager : ConnectionManager} (exact : Exact manager) : Exact manager.register.2 := by
  have same : manager.register.2.owner = manager.owner := by
    funext connectionId
    unfold owner
    rw [userOf_register]
    change (if connectionId ∈ manager.connections ++ [manager.nextId] then _ else _) = _
    by_cases fresh : connectionId = manager.nextId
    · subst fresh
      rw [if_neg exact.unregistered, userOf, exact.fresh]
      split <;> rfl
    · simp [fresh]
  rw [Exact, same]
  exact Filed.register exact

theorem Exact.unregister {manager : ConnectionManager} (exact : Exact manager) (connectionId : Uuid) :
    Exact (manager.unregister connectionId) := by
  by_cases present : connectionId ∈ manager.connections
  · have same : (manager.unregister connectionId).owner = Function.update manager.owner connectionId none := by
      funext other
      unfold owner
      rw [exact.connections_unregister, userOf_unregister]
      by_cases equal : other = connectionId
      · subst equal
        simp
      · rw [Function.update_of_ne equal]
        simp [List.mem_filter, equal]
    rw [Exact, same]
    exact Filed.unregister exact present
  · have absent : manager.get connectionId = none := if_neg present
    rw [unregister_of_absent absent]
    exact exact

theorem Exact.authenticate {manager : ConnectionManager} (exact : Exact manager)
    {connectionId userId sessionId : Uuid}
    (alike : AuthenticatesAlike manager (.authenticate connectionId userId sessionId)) :
    Exact (manager.authenticate connectionId userId sessionId) := by
  obtain ⟨registered, free⟩ := alike
  obtain ⟨connection, found⟩ := exact.known connectionId registered
  have same : (manager.authenticate connectionId userId sessionId).owner =
      Function.update manager.owner connectionId (some userId) := by
    funext other
    unfold owner
    rw [connections_authenticate, userOf_authenticate found]
    by_cases equal : other = connectionId
    · subst equal
      rw [if_pos registered, Function.update_self, Function.update_self]
    · rw [Function.update_of_ne equal, Function.update_of_ne equal]
  rw [Exact, same]
  exact Filed.authenticate exact found free

/-- Every step that authenticates alike keeps the index exact. -/
theorem Exact.step {manager : ConnectionManager} (exact : Exact manager) {action : ConnectionStep}
    (alike : AuthenticatesAlike manager action) : Exact (manager.step action) := by
  cases action with
  | register => exact exact.register
  | authenticate connectionId userId sessionId => exact exact.authenticate alike
  | unregister connectionId => exact exact.unregister connectionId

end ConnectionManager

/-- The index is exact in every state of a run whose authentications meet registered connections of
nobody or of the same user. -/
theorem connection_index_exact {steps : List ConnectionStep}
    (alike : Meets ConnectionManager.step AuthenticatesAlike {} steps) (position : Nat) (userId : Uuid) :
    IndexExact (stateAt ConnectionManager.step {} steps position) userId := by
  have exact := alike.invariant ConnectionManager.step Exact Exact.initial (fun _ _ kept met => kept.step met)
    position
  exact exact.indexExact userId

/-- User 1 signs in on two connections, once more on the first one, and leaves it. -/
def twoDevices : List ConnectionStep :=
  [.register, .authenticate 0 1 7, .register, .authenticate 1 1 8, .authenticate 0 1 7, .unregister 0]

theorem twoDevices_index_exact :
    IndexExact (stateAt ConnectionManager.step {} twoDevices 6) 1 :=
  connection_index_exact (by decide) 6 1

/-- One connection signs in as user 1 and then as user 2. -/
def changedUser : List ConnectionStep := [.register, .authenticate 0 1 7, .authenticate 0 2 8]

/-- The connection is unregistered while its authentication is still running. -/
def lateAuthentication : List ConnectionStep := [.register, .unregister 0, .authenticate 0 1 7]

/-- The first run lists the connection of user 2 under user 1, and the second one keeps an entry for a user
without connections. -/
theorem connection_index_drifts :
    ¬ IndexExact (stateAt ConnectionManager.step {} changedUser 3) 1 ∧
      ¬ IndexExact (stateAt ConnectionManager.step {} lateAuthentication 3) 1 := by
  constructor
  · intro exact
    have listed : (⟨0, some 2, some 8⟩ : Connection) ∈
        (stateAt ConnectionManager.step {} changedUser 3).getUserConnections 1 := by decide
    have owned := ((exact.exact _).mp listed).2
    exact absurd owned (by decide)
  · intro exact
    obtain ⟨connection, registered, -⟩ := exact.entry (by decide)
    have empty : (stateAt ConnectionManager.step {} lateAuthentication 3).getAllConnections = [] := by decide
    rw [empty] at registered
    exact absurd registered List.not_mem_nil

end Messinger
