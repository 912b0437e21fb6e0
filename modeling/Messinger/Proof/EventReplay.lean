import Messinger.Proof.EventLog

namespace Messinger
open Library ConversationMemberRepository ConversationRepository ConversationEventRepository
  GroupInvitationRepository ConversationService

theorem Governed.runGroup {rule : Roster Uuid → Prop} {store : Store} (governed : Governed rule store)
    (action : Env × GroupCall) : Governed rule (runGroupCall store action) :=
  (groupStep action.1 action.2 store).governed governed

theorem hasConversation_of_findMember {store : Store} (kept : LogKept store) {conversationId userId : Uuid}
    {member : ConversationMember} (found : findMember store conversationId userId = some member) :
    store.hasConversation conversationId = true := by
  obtain ⟨inside, place, -⟩ := findMember_some found
  rw [← place]
  exact kept.placed member inside

namespace LogKept
variable {store : Store}

/-- A conversation that is not created yet has an empty log. -/
theorem logOf_nextId (kept : LogKept store) : logOf store store.nextId = [] := by
  unfold logOf
  rw [List.filterMap_eq_nil_iff]
  intro event inside
  obtain ⟨known, same⟩ := List.mem_filter.mp inside
  rw [beq_iff_eq] at same
  exact absurd (kept.eventsKnown event known) (Nat.not_lt_of_le (Nat.le_of_eq same.symm))

/-- A new group starts with a log of its founder. -/
theorem grouped (kept : LogKept store) (now : Nat) (ownerId : Uuid) (dto : CreateGroupDto)
    (governed : Governed (fun roster => ∃ owner, SoleHolder roster owner)
      (grouped now ownerId dto store)) : LogKept (grouped now ownerId dto store) := by
  let next := ConversationService.grouped now ownerId dto store
  have logged : next.events = store.events ++ [_] := rfl
  have apart : ∀ conversation ∈ store.conversations, store.nextId ≠ conversation.id :=
    fun conversation inside => Nat.ne_of_gt (kept.governed.conversationsKnown conversation inside)
  refine ⟨governed, ?_, ?_, ?_, ?_⟩
  · intro conversation inside
    obtain old | new := List.mem_append.mp inside
    · exact kept.groups conversation old
    · cases List.mem_singleton.mp new
      rfl
  · intro member inside
    rw [hasConversation_iff]
    obtain old | new := List.mem_append.mp inside
    · obtain ⟨conversation, known, same⟩ := hasConversation_iff.mp (kept.placed member old)
      exact ⟨conversation, List.mem_append_left _ known, same⟩
    · cases List.mem_singleton.mp new
      exact ⟨_, List.mem_append_right _ (List.mem_singleton.mpr rfl), rfl⟩
  · intro event inside
    have later : store.nextId < next.nextId := Nat.lt_trans (Nat.lt_succ_self _) (Nat.lt_succ_self _)
    obtain old | new := List.mem_append.mp inside
    · exact Nat.lt_trans (kept.eventsKnown event old) later
    · cases List.mem_singleton.mp new
      exact later
  · intro conversation inside
    obtain old | new := List.mem_append.mp inside
    · have others := rosterOf_grouped_other now ownerId dto store (Ne.symm (apart conversation old))
      rw [logOf_append logged, if_neg (apart conversation old), List.append_nil, others]
      exact kept.replays conversation old
    · cases List.mem_singleton.mp new
      have founded : logOf next store.nextId = [.created ownerId] := by
        rw [logOf_append logged, kept.logOf_nextId, List.nil_append]
        exact if_pos rfl
      change Replays (logOf next store.nextId) (rosterOf next store.nextId)
      rw [founded, kept.governed.rosterOf_grouped now ownerId dto]
      exact Replays.founded ownerId

/-- A first join is logged. -/
theorem joined (kept : LogKept store) {now : Nat} {conversationId userId : Uuid}
    (governed : Governed (fun roster => ∃ owner, SoleHolder roster owner)
      (joined now conversationId userId store))
    (missing : findMember store conversationId userId = none)
    (present : store.hasConversation conversationId = true) :
    LogKept (joined now conversationId userId store) := by
  refine kept.logs (.joined userId) governed rfl rfl rfl rfl present ?_ (Nat.le_succ _) ?_ ?_
  · intro member inside
    obtain old | new := List.mem_append.mp inside
    · exact kept.placed member old
    · cases List.mem_singleton.mp new
      exact present
  · exact fun other different => rosterOf_joined_other now conversationId userId other store different
  · intro replays
    rw [rosterOf_joined now conversationId userId store missing]
    refine replays.joined ?_
    unfold rosterOf
    rw [missing]
    rfl

theorem placed_of_keys {next : Store} (kept : LogKept store)
    (keys : next.members.map ConversationMember.key = store.members.map ConversationMember.key) :
    ∀ member ∈ next.members, store.hasConversation member.conversationId = true := by
  intro member inside
  have listed := List.mem_map_of_mem (f := ConversationMember.key) inside
  rw [keys] at listed
  obtain ⟨old, present, same⟩ := List.mem_map.mp listed
  rw [← (Prod.mk.inj same).1]
  exact kept.placed old present

/-- The departure of an active member is logged. -/
theorem removedFrom (kept : LogKept store) {now : Nat} {conversationId actorId targetUserId : Uuid}
    {eventType : ConversationEventType} (departs : eventType = .memberLeft ∨ eventType = .memberRemoved)
    (governed : Governed (fun roster => ∃ owner, SoleHolder roster owner)
      (removedFrom now conversationId actorId targetUserId eventType store))
    {target : ConversationMember} (found : findMember store conversationId targetUserId = some target)
    (ordinary : target.role ≠ .owner) (active : existsMember store conversationId targetUserId = true) :
    LogKept (removedFrom now conversationId actorId targetUserId eventType store) := by
  have keys := memberKeys_updateMember store conversationId targetUserId
    (fun member => { member with softDeletedAt := some (jsDate now) }) fun _ => rfl
  refine kept.logs (.removed targetUserId) governed rfl rfl rfl ?_
    (hasConversation_of_findMember kept found) (kept.placed_of_keys keys) (Nat.le_succ _) ?_ ?_
  · obtain rfl | rfl := departs <;> rfl
  · exact fun other different =>
      rosterOf_removedFrom_other now conversationId actorId targetUserId other eventType store different
  · intro replays
    rw [rosterOf_removedFrom now conversationId actorId targetUserId eventType store found ordinary]
    refine replays.removed ?_
    obtain ⟨entry, listed, present⟩ := (existsMember_iff kept.governed.memberKeys).mp active
    have same := rosterOf_eq_some found
    rw [listed] at same
    cases same
    rw [listed, ← present, ← entry_of_role_ne ordinary]

/-- A transfer is logged. -/
theorem transferred (kept : LogKept store) {now : Nat} {prevOwner newOwner conversationId : Uuid}
    (governed : Governed (fun roster => ∃ owner, SoleHolder roster owner)
      (transferred now prevOwner newOwner conversationId store)) {owner target : ConversationMember}
    (foundOwner : findMember store conversationId prevOwner = some owner) (role : owner.role = .owner)
    (active : owner.softDeletedAt = none)
    (foundTarget : findMember store conversationId newOwner = some target)
    (present : target.softDeletedAt = none) : LogKept (transferred now prevOwner newOwner conversationId store) := by
  have placed := hasConversation_of_findMember kept foundOwner
  obtain ⟨conversation, inside, same⟩ := hasConversation_iff.mp placed
  obtain ⟨holder, held⟩ := kept.governed.groups conversation inside (kept.groups conversation inside)
  rw [same] at held
  have holds : owner.entry.holds = true := by
    simp [ConversationMember.entry, role]
  have holding := held.only prevOwner _ (rosterOf_eq_some foundOwner) holds
  subst holding
  refine kept.logs (.transferred newOwner) governed rfl rfl rfl rfl placed (kept.placed_of_keys ?_)
    (Nat.le_succ _) ?_ ?_
  · unfold ConversationService.transferred updateRole
    rw [Store.logEvent_members, memberKeys_updateMember, memberKeys_updateMember] <;> exact fun _ => rfl
  · exact fun other different => rosterOf_transferred_other now prevOwner newOwner conversationId other store different
  · intro replays
    rw [rosterOf_transferred now prevOwner newOwner conversationId store foundOwner active foundTarget present]
    refine replays.transferred held (rosterOf_eq_some foundTarget) ?_
    simp [ConversationMember.entry, present]

/-- A call that meets the condition keeps the logs. -/
theorem step (kept : LogKept store) (action : Env × GroupCall) (recorded : Recorded store action) :
    LogKept (runGroupCall store action) := by
  have governed := kept.governed.runGroup action
  obtain ⟨env, call⟩ := action
  have step := groupStep env call store
  generalize runGroupCall store (env, call) = next at step governed ⊢
  cases step with
  | refused call => exact kept
  | creates ownerId dto => exact kept.grouped env.now ownerId dto governed
  | invites => exact kept.of_frame rfl rfl rfl (Nat.le_succ _)
  | acceptsLate | rejectsLate | rejects => exact kept.of_frame rfl rfl rfl (Nat.le_refl _)
  | restores conversationId userId member answered found deleted =>
      -- The condition excludes the branch that restores a row.
      obtain ⟨rows, passed, early, commits⟩ := acceptGroupInvitation_ok answered
      have apart := recorded rows passed early commits
      rw [(acceptGroupInvitationChecks_ok passed).1, found] at apart
      exact absurd (deleted.symm.trans apart) Bool.noConfusion
  | joins conversationId userId invitation sent id missing present => exact kept.joined governed missing present
  | leaves userId conversationId member answered found ordinary =>
      obtain ⟨⟨members, passed⟩, commits⟩ := guarded_transaction_commits answered
      exact kept.removedFrom (.inl rfl) governed found ordinary (recorded members passed commits)
  | removes userId dto actor target answered foundActor role found ordinary =>
      obtain ⟨⟨members, passed⟩, commits⟩ := guarded_transaction_commits answered
      exact kept.removedFrom (.inr rfl) governed found ordinary (recorded members passed commits)
  | transfers prevOwner dto owner newOwner foundOwner role active foundNew present =>
      exact kept.transferred governed foundOwner role active foundNew present

/-- A second departure of the same user is not legal. -/
theorem active_of_removed (kept : LogKept store) {now : Nat} {conversationId actorId targetUserId : Uuid}
    {eventType : ConversationEventType} (departs : eventType = .memberLeft ∨ eventType = .memberRemoved)
    (present : store.hasConversation conversationId = true)
    (replays : EventsReplay (ConversationService.removedFrom now conversationId actorId targetUserId eventType store)) :
    existsMember store conversationId targetUserId = true := by
  obtain ⟨conversation, inside, same⟩ := hasConversation_iff.mp present
  have legal := (replays conversation inside (kept.groups conversation inside)).legal
  subst same
  let event : ConversationEvent :=
    { id := store.nextId, conversationId := conversation.id, actorId, targetUserId := some targetUserId,
      type := eventType, createdAt := now }
  have reads : event.entry = some (.removed targetUserId) := by
    obtain rfl | rfl := departs <;> rfl
  let next := ConversationService.removedFrom now conversation.id actorId targetUserId eventType store
  have events : next.events = store.events ++ [event] := rfl
  have logged : logOf next conversation.id = logOf store conversation.id ++ [.removed targetUserId] := by
    rw [logOf_append events, if_pos rfl, reads]
    rfl
  rw [logged, legalLog_concat] at legal
  rw [existsMember_iff kept.governed.memberKeys]
  exact ((kept.replays conversation inside).members targetUserId).mp legal.2

/-- A restored row is missing in the log. -/
theorem active_of_restored (kept : LogKept store) {now : Nat} {conversationId userId : Uuid}
    (present : store.hasConversation conversationId = true)
    (replays : EventsReplay (restoreConversation now conversationId userId store))
    {member : ConversationMember} (found : findMember store conversationId userId = some member) :
    member.softDeletedAt = none := by
  obtain ⟨conversation, inside, same⟩ := hasConversation_iff.mp present
  have tells := (replays conversation inside (kept.groups conversation inside)).members userId
  subst same
  let restore (row : ConversationMember) : ConversationMember :=
    { row with softDeletedAt := none, restoredAt := some (jsDate now) }
  have governed := kept.governed.restore now conversation.id userId
  have listed : rosterOf (restoreConversation now conversation.id userId store) conversation.id userId =
      some (restore member).entry := by
    have updated := rosterOf_updateMember store conversation.id userId restore (fun _ => rfl) found
    exact (congrFun updated userId).trans (Function.update_self _ _ _)
  have told : userId ∈ (replay (logOf store conversation.id)).members :=
    tells.mpr ((existsMember_iff governed.memberKeys).mpr ⟨_, listed, rfl⟩)
  rw [(kept.replays conversation inside).mem_iff (rosterOf_eq_some found)] at told
  exact Option.isNone_iff_eq_none.mp told

/-- A call after which the logs still replay meets the condition. -/
theorem recorded_of_replay (kept : LogKept store) (action : Env × GroupCall)
    (replays : EventsReplay (runGroupCall store action)) : Recorded store action := by
  obtain ⟨env, call⟩ := action
  cases call with
  | acceptGroupInvitation conversationId userId =>
      intro rows passed early commits
      obtain ⟨member, -, -⟩ := acceptGroupInvitationChecks_ok passed
      by_contra deleted
      have equal := acceptGroupInvitation_commits passed early commits (Bool.not_eq_false _ ▸ deleted)
      change EventsReplay (acceptGroupInvitation env conversationId userId store).2 at replays
      rw [equal] at replays
      cases found : findMember store conversationId userId with
      | none =>
          rw [member, found] at deleted
          exact deleted rfl
      | some row =>
          have active := kept.active_of_restored (hasConversation_of_findMember kept found) replays found
          rw [member, found] at deleted
          exact deleted (congrArg Option.isSome active)
  | leaveGroup userId conversationId =>
      intro members passed commits
      obtain ⟨-, member, found, -⟩ := leaveGroupChecks_ok passed
      have present := hasConversation_of_findMember kept found
      change EventsReplay (leaveGroup env userId conversationId store).2 at replays
      rw [leaveGroup_commits passed commits present] at replays
      exact kept.active_of_removed (.inl rfl) present replays
  | removeGroupMember userId dto =>
      intro members passed commits
      obtain ⟨-, actor, target, -, -, found, -⟩ := removeGroupMemberChecks_ok passed
      have present := hasConversation_of_findMember kept found
      change EventsReplay (removeGroupMember env userId dto store).2 at replays
      rw [removeGroupMember_commits passed commits present] at replays
      exact kept.active_of_removed (.inr rfl) present replays
  | createGroup ownerId dto => exact trivial
  | validateGroupInvitation actorId dto => exact trivial
  | rejectGroupInvitation conversationId userId => exact trivial
  | transferGroupOwnership prevOwner dto => exact trivial

theorem emptyStore (users : List User) (pendingUploads : List PendingUpload) (bucket : List StorageKey)
    (nextId : Uuid) : LogKept (emptyStore users pendingUploads bucket nextId) := by
  refine ⟨governed_emptyStore soleHolder_office users pendingUploads bucket nextId, ?_, ?_, ?_, ?_⟩ <;>
    exact fun _ inside => absurd inside List.not_mem_nil

end LogKept

/-- In every run the event log of each group replays to its members and its owner, exactly when every accepted
invitation finds no row with a soft deletion and every departure that of an active member. -/
theorem events_replay_iff (users : List User) (pendingUploads : List PendingUpload) (bucket : List StorageKey)
    (nextId : Uuid) (actions : List (Env × GroupCall)) :
    (∀ position, EventsReplay
        (stateAt runGroupCall (emptyStore users pendingUploads bucket nextId) actions position)) ↔
      Meets runGroupCall Recorded (emptyStore users pendingUploads bucket nextId) actions := by
  apply always_iff_meets runGroupCall LogKept EventsReplay
  · exact LogKept.emptyStore users pendingUploads bucket nextId
  · exact fun _ kept => kept.eventsReplay
  · exact fun _ action kept recorded => kept.step action recorded
  · exact fun _ action kept replays => kept.recorded_of_replay action replays

def loggedStore : Store := emptyStore ([1, 2].map fun id => { id, role := .user, createdAt := 0 }) [] [] 10

/-- User 2 joins group 10 of user 1. -/
def firstJoin : List (Env × GroupCall) :=
  [({ now := 1000000 }, .createGroup 1 { name := "group" }),
   ({ now := 2000000 }, .validateGroupInvitation 1 { conversationId := 10, targetUserId := uuidText 2 }),
   ({ now := 3000000 }, .acceptGroupInvitation 10 2)]

/-- User 2 leaves the group, and accepts a second invitation. -/
def secondJoin : List (Env × GroupCall) := firstJoin ++
  [({ now := 4000000 }, .leaveGroup 2 10),
   ({ now := 5000000 }, .validateGroupInvitation 1 { conversationId := 10, targetUserId := uuidText 2 }),
   ({ now := 6000000 }, .acceptGroupInvitation 10 2)]

/-- User 2 leaves the group twice. -/
def secondLeave : List (Env × GroupCall) := firstJoin ++
  [({ now := 4000000 }, .leaveGroup 2 10), ({ now := 5000000 }, .leaveGroup 2 10)]

/-- The second join is missing in the log, and the second departure is of nobody. -/
theorem event_log_drifts :
    (¬ ∀ position, EventsReplay (stateAt runGroupCall loggedStore secondJoin position)) ∧
      ¬ ∀ position, EventsReplay (stateAt runGroupCall loggedStore secondLeave position) := by
  constructor
  · intro replays
    have listed : ∃ conversation ∈ (stateAt runGroupCall loggedStore secondJoin 6).conversations,
        conversation.type = .groupType ∧
          existsMember (stateAt runGroupCall loggedStore secondJoin 6) conversation.id 2 = true ∧
          2 ∉ (replay (logOf (stateAt runGroupCall loggedStore secondJoin 6) conversation.id)).members := by
      decide
    obtain ⟨conversation, inside, type, active, missing⟩ := listed
    exact missing (((replays 6 conversation inside type).members 2).mpr active)
  · intro replays
    have listed : ∃ conversation ∈ (stateAt runGroupCall loggedStore secondLeave 5).conversations,
        conversation.type = .groupType ∧
          ¬ LegalLog (logOf (stateAt runGroupCall loggedStore secondLeave 5) conversation.id) := by
      decide
    obtain ⟨conversation, inside, type, illegal⟩ := listed
    exact illegal (replays 5 conversation inside type).legal

end Messinger
