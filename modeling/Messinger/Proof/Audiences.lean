import Messinger.Proof.ConnectionIndex
import Messinger.Proof.UuidText
import Messinger.Model.Frames

namespace Messinger
open Library ConnectionManager WebSocketServer

/-- The message goes to each of these connections once, and nowhere else. -/
def Reaches (frames : List Frame) (message : WsServerMessage) (receives : Uuid → Prop) : Prop :=
  ∃ receivers : List Uuid, frames = receivers.map (fun receiver => ⟨receiver, message⟩) ∧ receivers.Nodup ∧
    ∀ connectionId, connectionId ∈ receivers ↔ receives connectionId

theorem Reaches.congr {frames : List Frame} {message : WsServerMessage} {receives other : Uuid → Prop}
    (reaches : Reaches frames message receives) (same : ∀ connectionId, receives connectionId ↔ other connectionId) :
    Reaches frames message other := by
  obtain ⟨receivers, written, distinct, listed⟩ := reaches
  exact ⟨receivers, written, distinct, fun connectionId => (listed connectionId).trans (same connectionId)⟩

/-- The frames determine which connections they reach. -/
theorem Reaches.unique {frames : List Frame} {message : WsServerMessage} {receives other : Uuid → Prop}
    (first : Reaches frames message receives) (second : Reaches frames message other) (connectionId : Uuid) :
    receives connectionId ↔ other connectionId := by
  obtain ⟨receivers, written, -, listed⟩ := first
  obtain ⟨others, rewritten, -, relisted⟩ := second
  have same : receivers = others := by
    have ids := congrArg (List.map Frame.receiver) (written.symm.trans rewritten)
    have inverse : Frame.receiver ∘ (fun receiver => (⟨receiver, message⟩ : Frame)) = id := rfl
    rw [List.map_map, List.map_map, inverse, List.map_id, List.map_id] at ids
    exact ids
  rw [← listed, same, relisted]

theorem Reaches.iff {frames : List Frame} {message : WsServerMessage} {receives other : Uuid → Prop}
    (reaches : Reaches frames message receives) :
    Reaches frames message other ↔ ∀ connectionId, receives connectionId ↔ other connectionId :=
  ⟨fun again => reaches.unique again, reaches.congr⟩

theorem Reaches.nobody (message : WsServerMessage) : Reaches [] message fun _ => False :=
  ⟨[], rfl, List.nodup_nil, fun _ => by simp⟩

/-- These are the registered connections in the set of the user. -/
def ConnectionManager.connectionIds (manager : ConnectionManager) (userId : Uuid) : List Uuid :=
  (manager.getUserConnections userId).map Connection.id

/-- No set has a connection twice, and no two users have one connection. -/
structure OneUserEach (manager : ConnectionManager) : Prop where
  distinct : ∀ userId, (manager.connectionIds userId).Nodup
  apart : ∀ first second connectionId, connectionId ∈ manager.connectionIds first →
    connectionId ∈ manager.connectionIds second → first = second

section Senders
variable {server : WebSocketServer}

theorem sendAll_eq (receivers : List Connection) (message : WsServerMessage) :
    server.sendAll receivers message =
      ((receivers.map Connection.id).filter server.isOpen).map fun receiver => ⟨receiver, message⟩ := by
  induction receivers with
  | nil => rfl
  | cons first rest ih =>
      change server.sendMessage first.id message ++ server.sendAll rest message = _
      rw [ih, sendMessage, List.map_cons, List.filter_cons]
      cases server.isOpen first.id <;> rfl

theorem Reaches.sendMessage (connectionId : Uuid) (message : WsServerMessage) :
    Reaches (server.sendMessage connectionId message) message fun receiver =>
      server.isOpen receiver = true ∧ receiver = connectionId := by
  unfold WebSocketServer.sendMessage
  split
  · next opened =>
      refine ⟨[connectionId], rfl, List.nodup_singleton connectionId, fun receiver => ?_⟩
      rw [List.mem_singleton]
      exact (and_iff_right_of_imp fun same => same ▸ opened).symm
  · next closed =>
      refine (Reaches.nobody message).congr fun receiver => ?_
      rw [false_iff]
      rintro ⟨opened, rfl⟩
      exact closed opened

/-- A loop over disjoint lists of connections sends to each of them once. -/
theorem Reaches.flatMap {A : Type} {items : List A} {receivers : A → List Connection} (distinct : items.Nodup)
    (each : ∀ item ∈ items, ((receivers item).map Connection.id).Nodup)
    (apart : ∀ first ∈ items, ∀ second ∈ items, ∀ connectionId,
      connectionId ∈ (receivers first).map Connection.id → connectionId ∈ (receivers second).map Connection.id →
        first = second) (message : WsServerMessage) :
    Reaches (items.flatMap fun item => server.sendAll (receivers item) message) message fun connectionId =>
      server.isOpen connectionId = true ∧ ∃ item ∈ items, connectionId ∈ (receivers item).map Connection.id := by
  refine ⟨items.flatMap fun item => ((receivers item).map Connection.id).filter server.isOpen, ?_, ?_, ?_⟩
  · rw [List.map_flatMap]
    simp only [sendAll_eq]
  · rw [List.nodup_flatMap]
    refine ⟨fun item inside => (each item inside).filter _, ?_⟩
    refine distinct.imp_of_mem ?_
    intro first second inside present different connectionId one two
    exact different (apart first inside second present connectionId (List.mem_of_mem_filter one)
      (List.mem_of_mem_filter two))
  · intro connectionId
    simp only [List.mem_flatMap, List.mem_filter]
    constructor
    · rintro ⟨item, inside, member, opened⟩
      exact ⟨opened, item, inside, member⟩
    · rintro ⟨opened, item, inside, member⟩
      exact ⟨item, inside, member, opened⟩

variable (once : OneUserEach server.manager)
include once

/-- A loop over distinct users sends to each of their connections once. -/
theorem Reaches.users {users : List Uuid} (distinct : users.Nodup) (message : WsServerMessage) :
    Reaches (users.flatMap fun userId => server.sendToUser userId message) message fun connectionId =>
      server.isOpen connectionId = true ∧ ∃ userId ∈ users, connectionId ∈ server.manager.connectionIds userId := by
  apply Reaches.flatMap distinct
  · exact fun userId _ => once.distinct userId
  · exact fun first _ second _ connectionId one two => once.apart first second connectionId one two

/-- A loop over distinct texts sends to each connection of the users that they name once. -/
theorem Reaches.texts {texts : List Text} (distinct : texts.Nodup) (message : WsServerMessage) :
    Reaches (texts.flatMap fun text => server.sendAll (server.manager.connectionsUnder (.text text)) message) message
      fun connectionId => server.isOpen connectionId = true ∧
        ∃ userId, uuidText userId ∈ texts ∧ connectionId ∈ server.manager.connectionIds userId := by
  have under {text : Text} {connectionId : Uuid} :
      connectionId ∈ (server.manager.connectionsUnder (.text text)).map Connection.id ↔
        ∃ userId, uuidText userId = text ∧ connectionId ∈ server.manager.connectionIds userId := by
    change connectionId ∈ List.map _ (ite _ _ _) ↔ _
    split
    · next canonical =>
        constructor
        · exact fun inside => ⟨_, canonical, inside⟩
        · rintro ⟨userId, rfl, inside⟩
          rw [parseUuid_uuidText]
          exact inside
    · next foreign =>
        constructor
        · exact fun inside => absurd inside List.not_mem_nil
        · rintro ⟨userId, rfl, -⟩
          exact absurd (congrArg uuidText (parseUuid_uuidText userId)) foreign
  refine Reaches.congr (Reaches.flatMap distinct ?_ ?_ message) ?_
  · intro text _
    change (List.map _ (ite _ _ _)).Nodup
    split
    · exact once.distinct _
    · exact List.nodup_nil
  · intro first _ second _ connectionId one two
    obtain ⟨userId, rfl, member⟩ := under.mp one
    obtain ⟨other, rfl, joined⟩ := under.mp two
    rw [once.apart userId other connectionId member joined]
  · refine fun connectionId => and_congr_right fun _ => ?_
    simp only [under]
    constructor
    · rintro ⟨text, inside, userId, rfl, member⟩
      exact ⟨userId, inside, member⟩
    · rintro ⟨userId, inside, member⟩
      exact ⟨_, inside, userId, rfl, member⟩

end Senders

end Messinger
