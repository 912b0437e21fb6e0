import Messinger.Proof.Audiences
import Messinger.Proof.LiveTurns

namespace Messinger
open Library WebSocketServer ConnectionManager

/-- The callbacks, listeners and handlers of the server have led to this state, in any order. -/
def ReachableServer (server : WebSocketServer) : Prop :=
  ∃ turns : List (Turn ServerEvent ServerAnswer), server = (turns.foldl webSocketServer.advance ⟨{}, []⟩).state

namespace ConnectionManager

/-- This is the set of the user. -/
def setOf (manager : ConnectionManager) (userId : Uuid) : List Uuid := itemsUnder userId manager.userConnections

theorem getUserConnections_eq (manager : ConnectionManager) (userId : Uuid) :
    manager.getUserConnections userId = (manager.setOf userId).filterMap manager.get := by
  unfold getUserConnections setOf itemsUnder
  cases lookup Prod.fst userId manager.userConnections with
  | none => rfl
  | some entry => rfl

theorem mem_connectionIds {manager : ConnectionManager} {userId connectionId : Uuid} :
    connectionId ∈ manager.connectionIds userId ↔
      connectionId ∈ manager.setOf userId ∧ ∃ connection, manager.get connectionId = some connection := by
  unfold connectionIds
  rw [getUserConnections_eq, List.mem_map]
  constructor
  · rintro ⟨connection, inside, rfl⟩
    obtain ⟨other, member, found⟩ := List.mem_filterMap.mp inside
    obtain rfl := id_of_get found
    exact ⟨member, connection, found⟩
  · rintro ⟨member, connection, found⟩
    exact ⟨connection, List.mem_filterMap.mpr ⟨connectionId, member, found⟩, id_of_get found⟩

/-- Every registered connection is in the set of its user, whatever other sets it is in. -/
structure Indexed (manager : ConnectionManager) : Prop extends FiledOwned manager where
  keys : (manager.userConnections.map Prod.fst).Nodup
  sets : ∀ userId, (manager.setOf userId).Nodup
  complete : ∀ connectionId ∈ manager.connections, ∀ userId, manager.userOf connectionId = some userId →
    connectionId ∈ manager.setOf userId

theorem Indexed.initial : Indexed {} where
  toFiledOwned := FiledOwned.initial
  keys := List.nodup_nil
  sets _ := List.nodup_nil
  complete _ inside := absurd inside List.not_mem_nil

theorem Indexed.register {manager : ConnectionManager} (indexed : Indexed manager) : Indexed manager.register.2 where
  toFiledOwned := indexed.toFiledOwned.register
  keys := indexed.keys
  sets := indexed.sets
  complete := by
    intro connectionId inside userId user
    rw [userOf_register] at user
    obtain old | new := List.mem_append.mp inside
    · exact indexed.complete connectionId old userId user
    · rw [List.mem_singleton.mp new] at user
      change manager.userOf manager.nextId = some userId at user
      rw [userOf, indexed.fresh] at user
      cases user

/-- The connection joins the set of its new user, and stays in the sets of others. -/
theorem Indexed.authenticate {manager : ConnectionManager} (indexed : Indexed manager)
    (connectionId userId sessionId : Uuid) : Indexed (manager.authenticate connectionId userId sessionId) := by
  cases found : lookup Connection.id connectionId manager.objects with
  | none =>
      rw [ConnectionManager.authenticate, found]
      exact indexed
  | some connection =>
      have joined (other : Uuid) : (manager.authenticate connectionId userId sessionId).setOf other =
          if other = userId then addItem connectionId (manager.setOf other) else manager.setOf other := by
        unfold setOf
        rw [userConnections_authenticate found, itemsUnder_attach]
      refine ⟨indexed.toFiledOwned.authenticate connectionId userId sessionId, ?_, ?_, ?_⟩
      · rw [userConnections_authenticate found]
        exact nodup_keys_attach indexed.keys userId connectionId
      · intro other
        rw [joined]
        split
        · exact nodup_addItem (indexed.sets other)
        · exact indexed.sets other
      · intro other inside holder user
        rw [connections_authenticate] at inside
        rw [userOf_authenticate found] at user
        rw [joined]
        by_cases same : other = connectionId
        · rw [same, Function.update_self] at user
          cases user
          rw [if_pos rfl, same]
          exact mem_addItem.mpr (.inr rfl)
        · rw [Function.update_of_ne same] at user
          have member := indexed.complete other inside holder user
          split
          · exact mem_addItem.mpr (.inl member)
          · exact member

/-- Only the removed connection leaves a set. -/
theorem Indexed.unregister {manager : ConnectionManager} (indexed : Indexed manager) (connectionId : Uuid) :
    Indexed (manager.unregister connectionId) := by
  cases found : manager.get connectionId with
  | none =>
      rw [unregister_of_absent found]
      exact indexed
  | some connection =>
      have sound := indexed.toFiledOwned.unregister connectionId
      have remaining := indexed.connections_unregister connectionId
      have users := userOf_unregister manager connectionId
      have listed : (manager.unregister connectionId).userConnections = connection.userId.elim manager.userConnections
          fun userId => detach userId connectionId manager.userConnections := by rw [unregister_eq found]
      cases owned : connection.userId with
      | none =>
          rw [owned] at listed
          have same : (manager.unregister connectionId).setOf = manager.setOf := by
            funext userId
            rw [setOf, setOf, listed]
            rfl
          refine ⟨sound, ?_, ?_, ?_⟩
          · rw [listed]
            exact indexed.keys
          · rw [same]
            exact indexed.sets
          · rw [remaining, users, same]
            exact fun other inside => indexed.complete other (List.mem_of_mem_filter inside)
      | some userId =>
          rw [owned] at listed
          have left (other : Uuid) : (manager.unregister connectionId).setOf other =
              if other = userId then (manager.setOf other).filter (· ≠ connectionId) else manager.setOf other := by
            rw [setOf, listed]
            exact itemsUnder_detach indexed.keys userId other connectionId
          refine ⟨sound, ?_, ?_, ?_⟩
          · rw [listed]
            exact (detach_sublist userId connectionId manager.userConnections).nodup indexed.keys
          · intro other
            rw [left]
            split
            · exact (indexed.sets other).filter _
            · exact indexed.sets other
          · rw [remaining, users]
            intro other inside holder user
            obtain ⟨old, apart⟩ := List.mem_filter.mp inside
            have member := indexed.complete other old holder user
            rw [left]
            split
            · exact List.mem_filter.mpr ⟨member, apart⟩
            · exact member

/-- When each connection belongs to one user, the manager reports for a user exactly the registered connections of the
user. -/
theorem Indexed.mem_connectionIds_iff {manager : ConnectionManager} (indexed : Indexed manager)
    (once : OneUserEach manager) {userId connectionId : Uuid} :
    connectionId ∈ manager.connectionIds userId ↔
      connectionId ∈ manager.connections ∧ manager.userOf connectionId = some userId := by
  constructor
  · intro reported
    obtain ⟨member, connection, found⟩ := mem_connectionIds.mp reported
    have registered := (get_eq_some.mp found).1
    refine ⟨registered, ?_⟩
    cases user : manager.userOf connectionId with
    | none => exact absurd user (indexed.owned connectionId (files_of_itemsUnder member))
    | some holder =>
        have kept := indexed.complete connectionId registered holder user
        rw [once.apart holder userId connectionId (mem_connectionIds.mpr ⟨kept, connection, found⟩) reported]
  · rintro ⟨registered, user⟩
    obtain ⟨connection, found⟩ := indexed.get_of_mem registered
    exact mem_connectionIds.mpr ⟨indexed.complete connectionId registered userId user, connection, found⟩

end ConnectionManager

namespace WebSocketServer

theorem indexed_start {server : WebSocketServer} (indexed : server.manager.Indexed) (event : ServerEvent) :
    (server.start event).1.manager.Indexed := by
  have step := started server event
  generalize server.start event = outcome at step ⊢
  cases step with
  | connects => exact indexed.register
  | closes connectionId socket found opened listening => exact indexed.unregister connectionId
  | drops connectionId socket found opened deaf => exact indexed
  | moves event next task unmoved other =>
      rw [unmoved.manager]
      exact indexed

theorem indexed_resume {server : WebSocketServer} (indexed : server.manager.Indexed) (task : ServerTask)
    (answer : ServerAnswer) : (server.resume task answer).1.manager.Indexed := by
  have step := resumed server task answer
  generalize server.resume task answer = outcome at step ⊢
  cases step with
  | authenticates awaiter connectionId userId sessionId => exact indexed.authenticate connectionId userId sessionId
  | broadcasts userId time => exact indexed
  | fails userId => exact indexed
  | waits task answer => exact indexed
  | moves task answer next rest unmoved before after =>
      rw [unmoved.manager]
      exact indexed

end WebSocketServer

theorem ReachableServer.indexed {server : WebSocketServer} (reachable : ReachableServer server) :
    server.manager.Indexed := by
  obtain ⟨turns, rfl⟩ := reachable
  refine run_invariant webSocketServer.advance (fun progress => progress.state.manager.Indexed) ?_ turns _
    Indexed.initial
  intro progress turn indexed
  apply webSocketServer.advance_keeps (fun progress => progress.state.manager.Indexed) indexed
  · exact fun event _ => indexed_start indexed event
  · exact fun _ answer task _ _ => indexed_resume indexed task answer

end Messinger
