import Messinger.Proof.Admissions
import Messinger.Proof.ConnectionTables
import Messinger.Proof.CountedCalls

namespace Messinger
open Library ConversationMemberRepository ConversationRepository ConversationService WebSocketServer
  ConnectionManager

/-- The call acts on this conversation. -/
def EmittingCall.conversationId : EmittingCall → Uuid
  | .leaveGroup _ conversationId => conversationId
  | .transferGroupOwnership _ dto => dto.conversationId
  | .removeGroupMember _ dto => dto.conversationId
  | .deleteGroup _ conversationId => conversationId

/-- This is the frame that tells a client about the call. -/
def EmittingCall.announcement : EmittingCall → WsServerMessage
  | .leaveGroup userId conversationId => .groupMemberLeft conversationId userId
  | .transferGroupOwnership prevOwner dto => .groupOwnerChanged dto.conversationId prevOwner dto.newOwnerId
  | .removeGroupMember userId dto => .groupMemberRemoved dto.conversationId userId dto.targetUserId
  | .deleteGroup _ conversationId => .groupDeleted conversationId

def EmittingCall.deletes : EmittingCall → Bool
  | .deleteGroup _ _ => true
  | _ => false

/-- This is a registered connection of the user whose socket is open. -/
def Listens (server : WebSocketServer) (userId connectionId : Uuid) : Prop :=
  server.isOpen connectionId = true ∧ connectionId ∈ server.manager.connections ∧
    server.manager.userOf connectionId = some userId

/-- The announcement goes to each open connection of an active member once, and nowhere else. -/
def TellsActiveMembers (server : WebSocketServer) (store : Store) (call : EmittingCall) (event : GroupEvent) : Prop :=
  Reaches (server.notifyGroup event) call.announcement fun connectionId =>
    ∃ member ∈ store.members, member.conversationId = call.conversationId ∧ member.softDeletedAt = none ∧
      Listens server member.userId connectionId

/-- Those with a row of the conversation who listen are active members, and for a deletion former members. -/
def ListenersActive (server : WebSocketServer) (store : Store) (call : EmittingCall) : Prop :=
  ∀ member ∈ store.members, member.conversationId = call.conversationId →
    ∀ connectionId, Listens server member.userId connectionId →
      (member.softDeletedAt = none ↔ call.deletes = false)

section Rows
variable {store : Store} {conversationId : Uuid}

theorem IsGroup.present (group : IsGroup store conversationId) : store.hasConversation conversationId = true := by
  obtain ⟨conversation, inside, same, -⟩ := group
  exact hasConversation_iff.mpr ⟨conversation, inside, same⟩

theorem mem_getConversationMembers (present : store.hasConversation conversationId = true)
    {member : ConversationMember} :
    member ∈ getConversationMembers store conversationId ↔
      member ∈ store.members ∧ member.conversationId = conversationId := by
  unfold getConversationMembers
  cases found : findById store conversationId with
  | none =>
      obtain ⟨conversation, inside, same⟩ := hasConversation_iff.mp present
      exact absurd same ((lookup_eq_none Conversation.id).mp found conversation inside)
  | some conversation => rw [List.mem_filter, beq_iff_eq]

theorem getConversationMembers_userIds (keys : (store.members.map ConversationMember.key).Nodup) :
    ((getConversationMembers store conversationId).map ConversationMember.userId).Nodup := by
  unfold getConversationMembers
  split
  · exact List.nodup_nil
  · apply userIds_nodup keys List.filter_sublist
    intro member inside
    exact beq_iff_eq.mp (List.mem_filter.mp inside).2

end Rows

section Audience
variable {server : WebSocketServer} (once : OneUserEach server.manager) {members : List ConversationMember}
include once

/-- A loop over distinct members reaches their open connections. -/
theorem Reaches.rows (distinct : (members.map ConversationMember.userId).Nodup) (message : WsServerMessage) :
    Reaches ((members.map fun member => UserKey.text (uuidText member.userId)).flatMap fun key =>
        server.sendAll (server.manager.connectionsUnder key) message) message fun connectionId =>
      server.isOpen connectionId = true ∧ ∃ member ∈ members, connectionId ∈ server.manager.connectionIds member.userId := by
  have texts : ((members.map ConversationMember.userId).map uuidText).Nodup := distinct.map uuidText_injective
  have reached := Reaches.texts once texts message
  rw [List.map_map, List.flatMap_map] at reached
  rw [List.flatMap_map]
  refine reached.congr fun connectionId => and_congr_right fun _ => ?_
  constructor
  · rintro ⟨userId, inside, reported⟩
    obtain ⟨member, listed, same⟩ := List.mem_map.mp inside
    exact ⟨member, listed, uuidText_injective same ▸ reported⟩
  · rintro ⟨member, listed, reported⟩
    exact ⟨member.userId, List.mem_map_of_mem listed, reported⟩

/-- A loop over the set of a listed user and the members reaches the open connections of the members. -/
theorem Reaches.removal {text : Text} (listed : ∃ member ∈ members, member.userId = parseUuid text)
    (message : WsServerMessage) :
    Reaches (((members.foldl (fun users member => addItem (uuidText member.userId) users) [text]).map
        UserKey.text).flatMap fun key => server.sendAll (server.manager.connectionsUnder key) message) message
      fun connectionId => server.isOpen connectionId = true ∧
        ∃ member ∈ members, connectionId ∈ server.manager.connectionIds member.userId := by
  have texts := nodup_foldl_addItem (fun member : ConversationMember => uuidText member.userId) members
    (List.nodup_singleton text)
  rw [List.flatMap_map]
  refine (Reaches.texts once texts message).congr fun connectionId => and_congr_right fun _ => ?_
  constructor
  · rintro ⟨userId, inside, reported⟩
    obtain first | ⟨member, present, same⟩ := (mem_foldl_addItem _ members [text]).mp inside
    · obtain ⟨target, present, same⟩ := listed
      rw [← List.mem_singleton.mp first, parseUuid_uuidText] at same
      exact ⟨target, present, same ▸ reported⟩
    · exact ⟨member, present, uuidText_injective same ▸ reported⟩
  · rintro ⟨member, present, reported⟩
    exact ⟨member.userId, (mem_foldl_addItem _ members [text]).mpr (.inr ⟨member, present, rfl⟩), reported⟩

omit once in
/-- The rows themselves are no keys of the map of users. -/
theorem notifyGroup_groupDeleted (server : WebSocketServer) (conversationId : Uuid) (members : List ConversationMember) :
    server.notifyGroup (.groupDeleted conversationId members) = [] := by
  rw [notifyGroup, List.flatMap_eq_nil_iff]
  intro key inside
  obtain ⟨member, -, rfl⟩ := List.mem_map.mp inside
  rfl

end Audience

/-- A call that succeeds emits its event with the members that it has read, and a removed user is one of them. -/
theorem EmittingCall.emits_cases {env : Env} {store : Store} {call : EmittingCall} {event : GroupEvent}
    (group : IsGroup store call.conversationId) (emits : call.emits env store = some event) :
    event = call.event (getConversationMembers store call.conversationId) ∧
      ∀ userId dto, call = .removeGroupMember userId dto →
        ∃ member ∈ getConversationMembers store call.conversationId, member.userId = parseUuid dto.targetUserId := by
  obtain ⟨members, succeeded, rfl⟩ := Option.map_eq_some_iff.mp emits
  cases call with
  | leaveGroup userId conversationId =>
      obtain ⟨exception, failed⟩ | ⟨member, -, -, done⟩ := leaveGroup_cases env userId conversationId store
      · rw [run, failed] at succeeded
        cases succeeded
      · rw [run, done] at succeeded
        cases succeeded
        exact ⟨rfl, fun _ _ other => by cases other⟩
  | transferGroupOwnership prevOwner dto =>
      obtain ⟨exception, failed⟩ | ⟨owner, newOwner, -, -, -, -, -, done⟩ :=
        transferGroupOwnership_cases env prevOwner dto store
      · rw [run, failed] at succeeded
        cases succeeded
      · rw [run, done] at succeeded
        cases succeeded
        exact ⟨rfl, fun _ _ other => by cases other⟩
  | removeGroupMember userId dto =>
      obtain ⟨exception, failed⟩ | ⟨actor, target, -, -, found, -, done⟩ := removeGroupMember_cases env userId dto store
      · rw [run, failed] at succeeded
        cases succeeded
      · rw [run, done] at succeeded
        cases succeeded
        refine ⟨rfl, ?_⟩
        intro _ _ same
        cases same
        obtain ⟨inside, place, user⟩ := findMember_some found
        exact ⟨target, (mem_getConversationMembers group.present).mpr ⟨inside, place⟩, user⟩
  | deleteGroup userId conversationId =>
      obtain ⟨exception, failed⟩ | ⟨conversation, owner, -, -, -, -, done⟩ :=
        deleteGroup_cases env userId conversationId store
      · rw [run, failed] at succeeded
        cases succeeded
      · rw [run, done] at succeeded
        cases succeeded
        exact ⟨rfl, fun _ _ other => by cases other⟩

/-- In every reachable state, a call that succeeds on a group tells exactly the active members exactly when no listening
user has left the group, or when the group is deleted and no active member listens. -/
theorem active_members_told_iff (platform : Platform) (store : Store) (reachable : Reachable platform store)
    (server : WebSocketServer) (connected : ReachableServer server) (once : OneUserEach server.manager) (env : Env)
    (call : EmittingCall) (group : IsGroup store call.conversationId) (event : GroupEvent)
    (emits : call.emits env store = some event) :
    TellsActiveMembers server store call event ↔ ListenersActive server store call := by
  have keys := reachable.consistent.governed.memberKeys
  have indexed := connected.indexed
  obtain ⟨rfl, removed⟩ := EmittingCall.emits_cases group emits
  have reached : Reaches (server.notifyGroup (call.event (getConversationMembers store call.conversationId)))
      call.announcement fun connectionId => call.deletes = false ∧
        ∃ member ∈ store.members, member.conversationId = call.conversationId ∧
          Listens server member.userId connectionId := by
    have told {frames : List Frame} (kept : call.deletes = false)
        (rows : Reaches frames call.announcement fun connectionId => server.isOpen connectionId = true ∧
          ∃ member ∈ getConversationMembers store call.conversationId,
            connectionId ∈ server.manager.connectionIds member.userId) :
        Reaches frames call.announcement fun connectionId => call.deletes = false ∧
          ∃ member ∈ store.members, member.conversationId = call.conversationId ∧
            Listens server member.userId connectionId := by
      refine rows.congr fun connectionId => ?_
      simp only [mem_getConversationMembers group.present, indexed.mem_connectionIds_iff once, Listens]
      constructor
      · rintro ⟨opened, member, ⟨inside, place⟩, registered⟩
        exact ⟨kept, member, inside, place, opened, registered⟩
      · rintro ⟨-, member, inside, place, opened, registered⟩
        exact ⟨opened, member, ⟨inside, place⟩, registered⟩
    cases call with
    | leaveGroup userId conversationId => exact told rfl (Reaches.rows once (getConversationMembers_userIds keys) _)
    | transferGroupOwnership prevOwner dto => exact told rfl (Reaches.rows once (getConversationMembers_userIds keys) _)
    | removeGroupMember userId dto => exact told rfl (Reaches.removal once (removed userId dto rfl) _)
    | deleteGroup userId conversationId =>
        rw [EmittingCall.event, notifyGroup_groupDeleted]
        refine (Reaches.nobody _).congr fun connectionId => ?_
        simp [EmittingCall.deletes]
  unfold TellsActiveMembers
  rw [reached.iff]
  constructor
  · intro same member inside place connectionId listens
    constructor
    · intro active
      exact ((same connectionId).mpr ⟨member, inside, place, active, listens⟩).1
    · intro stays
      obtain ⟨other, present, located, active, heard⟩ :=
        (same connectionId).mp ⟨stays, member, inside, place, listens⟩
      have user : other.userId = member.userId := Option.some.inj (heard.2.2.symm.trans listens.2.2)
      have equal : other = member := List.inj_on_of_nodup_map keys present inside
        (Prod.ext (located.trans place.symm) user)
      exact equal ▸ active
  · intro right connectionId
    constructor
    · rintro ⟨stays, member, inside, place, listens⟩
      exact ⟨member, inside, place, (right member inside place connectionId listens).mpr stays, listens⟩
    · rintro ⟨member, inside, place, active, listens⟩
      exact ⟨(right member inside place connectionId listens).mp active, member, inside, place, listens⟩

/-- User 0 has connection 0 for its session 9, and user 2 has connection 1 for its session 3. -/
def strangersServer : WebSocketServer :=
  ([.call .connection, .resume 0 (.cookies true), .resume 0 (.session 0 9), .resume 0 .done, .resume 0 .done,
    .call .connection, .resume 0 (.cookies true), .resume 0 (.session 2 3), .resume 0 .done, .resume 0 .done].foldl
    webSocketServer.advance ⟨{}, []⟩).state

theorem strangersServer_connectionIds (userId : Uuid) :
    strangersServer.manager.connectionIds userId = if userId = 0 then [0] else if userId = 2 then [1] else [] := by
  by_cases first : userId = 0
  · subst first
    rfl
  · by_cases second : userId = 2
    · subst second
      rfl
    · rw [if_neg first, if_neg second]
      change List.map _ (ConnectionManager.getUserConnections ⟨_, _, [(0, [0]), (2, [1])], _⟩ userId) = []
      simp [getUserConnections, lookup, Ne.symm first, Ne.symm second]

theorem strangersServer_oneUserEach : OneUserEach strangersServer.manager where
  distinct userId := by
    rw [strangersServer_connectionIds]
    split
    · simp
    · split <;> simp
  apart first second connectionId one two := by
    have holds {userId : Uuid} (reported : connectionId ∈ strangersServer.manager.connectionIds userId) :
        connectionId = 0 ∧ userId = 0 ∨ connectionId = 1 ∧ userId = 2 := by
      rw [strangersServer_connectionIds] at reported
      split at reported
      · next same => exact .inl ⟨List.mem_singleton.mp reported, same⟩
      · split at reported
        · next same => exact .inr ⟨List.mem_singleton.mp reported, same⟩
        · cases reported
    obtain ⟨rfl, rfl⟩ | ⟨rfl, rfl⟩ := holds one
    · obtain ⟨-, rfl⟩ | ⟨other, -⟩ := holds two
      · rfl
      · cases other
    · obtain ⟨other, -⟩ | ⟨-, rfl⟩ := holds two
      · cases other
      · rfl

/-- User 0 signs in and joins the group of user 2. -/
def joinedRun : List (Env × Action) :=
  strangersGroupRun ++ [
    requestAt 7 0 { route := .signIn (some { loginKey := ['L', 'M', 'N', 'P', 'Q', 'R', 'S', 'T', 'U', 'V'] }) },
    inviting 8, (clock 9 0, .acceptGroupInvitation 7 0)]

/-- User 1 joins the group too, and user 2 removes user 0. -/
def leftRun : List (Env × Action) :=
  joinedRun ++ [
    (clock 10 0, .validateGroupInvitation 2 { conversationId := 7, targetUserId := uuidText 1 }),
    (clock 11 0, .acceptGroupInvitation 7 1),
    requestAt 12 0 {
      cookies := { accessToken := some (.text strangersTokens.accessToken), refreshToken := none }
      route := .removeGroupMember (some { conversationId := 7, targetUserId := uuidText 0 }) }]

def joinedStore : Store := joinedRun.foldl (act plainPlatform) {}

def leftStore : Store := leftRun.foldl (act plainPlatform) {}

/-- Both members are told when user 2 hands the group over to user 0. -/
theorem joinedStore_told :
    TellsActiveMembers strangersServer joinedStore
      (.transferGroupOwnership 2 { conversationId := 7, newOwnerId := uuidText 0 })
      (.ownershipTransferred 7 2 (uuidText 0) (getConversationMembers joinedStore 7)) := by
  refine (active_members_told_iff plainPlatform joinedStore ⟨_, rfl⟩ strangersServer ⟨_, rfl⟩ strangersServer_oneUserEach
    (clock 10 0) (.transferGroupOwnership 2 { conversationId := 7, newOwnerId := uuidText 0 }) ?_ _ rfl).mpr ?_
  · unfold IsGroup
    decide
  · have active : ∀ member ∈ joinedStore.members, member.softDeletedAt = none := by decide
    intro member inside _ _ _
    exact iff_of_true (active member inside) rfl

/-- The connected owner is not told when the group is deleted, and user 0, who was removed, is told when user 1 is
removed. -/
theorem strangers_told_wrong :
    (Reachable plainPlatform joinedStore ∧ ReachableServer strangersServer ∧ OneUserEach strangersServer.manager ∧
      IsGroup joinedStore 7 ∧
      EmittingCall.emits (clock 10 0) joinedStore (.deleteGroup 2 7) =
        some (.groupDeleted 7 (getConversationMembers joinedStore 7)) ∧
      ¬ TellsActiveMembers strangersServer joinedStore (.deleteGroup 2 7)
        (.groupDeleted 7 (getConversationMembers joinedStore 7))) ∧
      Reachable plainPlatform leftStore ∧ IsGroup leftStore 7 ∧
      EmittingCall.emits (clock 13 0) leftStore
          (.removeGroupMember 2 { conversationId := 7, targetUserId := uuidText 1 }) =
        some (.memberRemoved 7 2 (uuidText 1) (getConversationMembers leftStore 7)) ∧
      ¬ TellsActiveMembers strangersServer leftStore
        (.removeGroupMember 2 { conversationId := 7, targetUserId := uuidText 1 })
        (.memberRemoved 7 2 (uuidText 1) (getConversationMembers leftStore 7)) := by
  have joined : IsGroup joinedStore 7 := by
    unfold IsGroup
    decide
  have remaining : IsGroup leftStore 7 := by
    unfold IsGroup
    decide
  refine ⟨⟨⟨_, rfl⟩, ⟨_, rfl⟩, strangersServer_oneUserEach, joined, rfl, ?_⟩, ⟨_, rfl⟩, remaining, rfl, ?_⟩
  · rintro ⟨receivers, written, -, listed⟩
    have told : (1 : Uuid) ∈ receivers := by
      rw [listed]
      unfold Listens
      decide
    rw [notifyGroup_groupDeleted] at written
    rw [List.map_eq_nil_iff.mp written.symm] at told
    cases told
  · rintro ⟨receivers, written, -, listed⟩
    have told : (0 : Uuid) ∈ receivers := by
      have frame : (⟨0, .groupMemberRemoved 7 2 (uuidText 1)⟩ : Frame) ∈
          strangersServer.notifyGroup (.memberRemoved 7 2 (uuidText 1) (getConversationMembers leftStore 7)) := by
        decide
      rw [written] at frame
      obtain ⟨receiver, inside, same⟩ := List.mem_map.mp frame
      cases same
      exact inside
    rw [listed] at told
    unfold Listens at told
    revert told
    decide

end Messinger
