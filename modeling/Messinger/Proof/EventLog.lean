import Messinger.Abstract.GroupLog
import Messinger.Proof.ActiveOwner

namespace Messinger
open Library ConversationMemberRepository ConversationRepository ConversationEventRepository
  GroupInvitationRepository ConversationService

/-- The type of an event says which entry of the log it is. -/
def ConversationEvent.entry (event : ConversationEvent) : Option (LogEntry Uuid) :=
  match event.type with
  | .groupCreated => some (.created event.actorId)
  | .memberJoined => some (.joined event.actorId)
  | .memberLeft | .memberRemoved => event.targetUserId.map .removed
  | .ownershipTransferred => event.targetUserId.map .transferred
  | .groupDeleted | .memberInvited => none

/-- The events of one conversation form its log, in creation order. -/
def logOf (store : Store) (conversationId : Uuid) : List (LogEntry Uuid) :=
  (store.events.filter fun event => event.conversationId == conversationId).filterMap ConversationEvent.entry

/-- The log replays to the active members and the owner in the table, and every event is legal. -/
structure LogTells (store : Store) (conversationId : Uuid) : Prop where
  members : ∀ userId, userId ∈ (replay (logOf store conversationId)).members ↔
    existsMember store conversationId userId = true
  owner : (ownersOf store conversationId).map (·.userId) = (replay (logOf store conversationId)).owner.toList
  legal : LegalLog (logOf store conversationId)

/-- The log of every group tells of its members and its owner. -/
def EventsReplay (store : Store) : Prop :=
  ∀ conversation ∈ store.conversations, conversation.type = .groupType → LogTells store conversation.id

/-- An accepted invitation finds no row with a soft deletion, and whoever leaves or is removed is an active
member. -/
def Recorded (store : Store) : Env × GroupCall → Prop
  | (env, .acceptGroupInvitation conversationId userId) =>
      ∀ rows, acceptGroupInvitationChecks env.scan store conversationId userId = .ok rows →
        isAfter env.now rows.invitation.expiresAt = false → env.succeeds 0 = true →
        (rows.member.bind (·.softDeletedAt)).isSome = false
  | (env, .leaveGroup userId conversationId) =>
      ∀ members, leaveGroupChecks store userId conversationId = .ok members → env.succeeds 0 = true →
        existsMember store conversationId userId = true
  | (env, .removeGroupMember userId dto) =>
      ∀ members, removeGroupMemberChecks store userId dto = .ok members → env.succeeds 0 = true →
        existsMember store dto.conversationId (parseUuid dto.targetUserId) = true
  | _ => True

theorem logOf_append {store next : Store} {event : ConversationEvent}
    (events : next.events = store.events ++ [event]) (conversationId : Uuid) :
    logOf next conversationId = logOf store conversationId ++
      if event.conversationId = conversationId then event.entry.toList else [] := by
  unfold logOf
  rw [events, List.filter_append, List.filterMap_append]
  congr 1
  by_cases same : event.conversationId = conversationId
  · rw [if_pos same]
    cases read : event.entry <;> simp [same, read]
  · simp [same]

theorem logOf_congr {store next : Store} (events : next.events = store.events) : logOf next = logOf store := by
  funext conversationId
  unfold logOf
  rw [events]

/-- The log tells of the table exactly when it replays to the roster of the conversation. -/
theorem logTells_iff {store : Store} (keys : (store.members.map ConversationMember.key).Nodup)
    {conversationId owner : Uuid} (held : SoleHolder (rosterOf store conversationId) owner) :
    LogTells store conversationId ↔ Replays (logOf store conversationId) (rosterOf store conversationId) := by
  rw [replays_iff held]
  constructor
  · intro tells
    refine ⟨?_, ?_, tells.legal⟩
    · intro person
      rw [tells.members, existsMember_iff keys]
    · have single := tells.owner
      rw [ownersOf_userIds keys held] at single
      exact Option.toList_eq_singleton_iff.mp single.symm
  · rintro ⟨members, told, legal⟩
    refine ⟨?_, ?_, legal⟩
    · intro userId
      rw [members, existsMember_iff keys]
    · rw [told, ownersOf_userIds keys held]
      rfl

/-- All conversations are groups whose logs replay to their rosters, and every row refers to one of them. -/
structure LogKept (store : Store) : Prop where
  governed : Governed (fun roster => ∃ owner, SoleHolder roster owner) store
  groups : ∀ conversation ∈ store.conversations, conversation.type = .groupType
  placed : ∀ member ∈ store.members, store.hasConversation member.conversationId = true
  eventsKnown : ∀ event ∈ store.events, event.conversationId < store.nextId
  replays : ∀ conversation ∈ store.conversations,
    Replays (logOf store conversation.id) (rosterOf store conversation.id)

namespace LogKept
variable {store next : Store}

theorem eventsReplay (kept : LogKept store) : EventsReplay store := by
  intro conversation inside type
  obtain ⟨owner, held⟩ := kept.governed.groups conversation inside type
  exact (logTells_iff kept.governed.memberKeys held).mpr (kept.replays conversation inside)

/-- A write outside members, conversations and events keeps every log. -/
theorem of_frame (kept : LogKept store) (members : next.members = store.members)
    (conversations : next.conversations = store.conversations) (events : next.events = store.events)
    (later : store.nextId ≤ next.nextId) : LogKept next := by
  refine ⟨kept.governed.of_frame members conversations later, ?_, ?_, ?_, ?_⟩
  · rw [conversations]
    exact kept.groups
  · unfold Store.hasConversation
    rw [members, conversations]
    exact kept.placed
  · rw [events]
    exact fun event inside => Nat.lt_of_lt_of_le (kept.eventsKnown event inside) later
  · rw [conversations, logOf_congr events, rosterOf_congr members]
    exact kept.replays

/-- A call that logs one event of one group keeps the logs when the log of this group replays. -/
theorem logs (kept : LogKept store) {conversationId : Uuid} {event : ConversationEvent} (entry : LogEntry Uuid)
    (governed : Governed (fun roster => ∃ owner, SoleHolder roster owner) next)
    (conversations : next.conversations = store.conversations) (events : next.events = store.events ++ [event])
    (place : event.conversationId = conversationId) (reads : event.entry = some entry)
    (present : store.hasConversation conversationId = true)
    (placed : ∀ member ∈ next.members, store.hasConversation member.conversationId = true)
    (later : store.nextId ≤ next.nextId)
    (others : ∀ other, other ≠ conversationId → rosterOf next other = rosterOf store other)
    (here : Replays (logOf store conversationId) (rosterOf store conversationId) →
      Replays (logOf store conversationId ++ [entry]) (rosterOf next conversationId)) : LogKept next := by
  refine ⟨governed, ?_, ?_, ?_, ?_⟩
  · rw [conversations]
    exact kept.groups
  · unfold Store.hasConversation
    rw [conversations]
    exact placed
  · intro logged inside
    rw [events, List.mem_append, List.mem_singleton] at inside
    obtain old | rfl := inside
    · exact Nat.lt_of_lt_of_le (kept.eventsKnown logged old) later
    · obtain ⟨conversation, known, same⟩ := hasConversation_iff.mp present
      rw [place, ← same]
      exact Nat.lt_of_lt_of_le (kept.governed.conversationsKnown conversation known) later
  · intro conversation inside
    rw [conversations] at inside
    rw [logOf_append events, place]
    by_cases same : conversationId = conversation.id
    · rw [if_pos same, reads]
      subst same
      exact here (kept.replays conversation inside)
    · rw [if_neg same, List.append_nil, others conversation.id (Ne.symm same)]
      exact kept.replays conversation inside

end LogKept

end Messinger
