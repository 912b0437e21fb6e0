import Messinger.Model.UserCalls
import Messinger.Proof.ActiveOwner
import Messinger.Proof.MemberWrites
import Messinger.Proof.PrivateRooms

namespace Messinger
open Library ConversationMemberRepository ConversationRepository ConversationService MessageService

/-- This is what the row of the user says about its place in the conversation. -/
def standing (store : Store) (conversationId userId : Uuid) : Option (ConversationRole × Option Nat) :=
  (findMember store conversationId userId).map fun member => (member.role, member.softDeletedAt)

/-- The user has the only row with role OWNER in the conversation, and the row is active. -/
def Presides (store : Store) (conversationId userId : Uuid) : Prop :=
  ∃ owner, ownersOf store conversationId = [owner] ∧ owner.userId = userId ∧ owner.softDeletedAt = none

/-- The standing of a user changes only in a call by the user or by the owner. -/
def ChangedBy (caller conversationId : Uuid) (store next : Store) : Prop :=
  ∀ userId, standing next conversationId userId ≠ standing store conversationId userId →
    userId = caller ∨ Presides store conversationId caller

def IsGroup (store : Store) (conversationId : Uuid) : Prop :=
  ∃ conversation ∈ store.conversations, conversation.id = conversationId ∧ conversation.type = .groupType

/-- The call drops conversations, and adds at most one under the next identifier. -/
def RoomStep (store next : Store) : Prop :=
  ∃ more : List (Uuid × ConversationType × Option Text), more.length ≤ 1 ∧
    (∀ room ∈ more, room.1 = store.nextId ∧ (room.2.2.isSome = true → room.2.1 = .privateType)) ∧
    (next.conversations.map Conversation.room).Sublist (store.conversations.map Conversation.room ++ more)

/-- The conversations have distinct identifiers, and only private ones have a key. -/
structure Chartered (store : Store) : Prop where
  governed : Governed (fun roster => ∃ owner, SoleHolder roster owner) store
  ids : (store.conversations.map Conversation.id).Nodup
  keys : ∀ conversation ∈ store.conversations, conversation.privateKey.isSome = true →
    conversation.type = .privateType

section Rooms
variable {store next : Store}

theorem RoomStep.of_eq (same : next.conversations.map Conversation.room = store.conversations.map Conversation.room) :
    RoomStep store next := by
  refine ⟨[], Nat.zero_le 1, ?_, ?_⟩
  · exact fun _ inside => absurd inside List.not_mem_nil
  · rw [List.append_nil, same]

theorem RoomStep.of_sublist (less : (next.conversations.map Conversation.room).Sublist
    (store.conversations.map Conversation.room)) : RoomStep store next := by
  refine ⟨[], Nat.zero_le 1, ?_, ?_⟩
  · exact fun _ inside => absurd inside List.not_mem_nil
  · rw [List.append_nil]
    exact less

theorem RoomStep.of_append {type : ConversationType} {privateKey : Option Text}
    (charter : privateKey.isSome = true → type = .privateType)
    (added : next.conversations.map Conversation.room =
      store.conversations.map Conversation.room ++ [(store.nextId, type, privateKey)]) : RoomStep store next := by
  refine ⟨[(store.nextId, type, privateKey)], Nat.le_refl 1, ?_, ?_⟩
  · intro room inside
    cases List.mem_singleton.mp inside
    exact ⟨rfl, charter⟩
  · rw [added]

theorem Chartered.step (chartered : Chartered store)
    (governed : Governed (fun roster => ∃ owner, SoleHolder roster owner) next) (rooms : RoomStep store next) :
    Chartered next := by
  obtain ⟨more, few, charter, less⟩ := rooms
  refine ⟨governed, ?_, ?_⟩
  · have distinct : ((store.conversations.map Conversation.room ++ more).map Prod.fst).Nodup := by
      rw [List.map_append, ← map_id_eq]
      refine chartered.ids.append ?_ ?_
      · cases more with
        | nil => exact List.nodup_nil
        | cons room rest =>
            have last : rest = [] := List.eq_nil_of_length_eq_zero (Nat.le_zero.mp (Nat.le_of_succ_le_succ few))
            rw [last]
            exact List.nodup_singleton _
      · intro id old new
        obtain ⟨conversation, inside, rfl⟩ := List.mem_map.mp old
        obtain ⟨room, listed, same⟩ := List.mem_map.mp new
        have known := chartered.governed.conversationsKnown conversation inside
        exact absurd known (same ▸ (charter room listed).1 ▸ Nat.lt_irrefl _)
    rw [map_id_eq]
    exact distinct.sublist (less.map _)
  · intro conversation inside present
    have listed := less.subset (List.mem_map_of_mem (f := Conversation.room) inside)
    obtain old | new := List.mem_append.mp listed
    · obtain ⟨earlier, stored, same⟩ := List.mem_map.mp old
      have key : earlier.privateKey = conversation.privateKey := congrArg (·.2.2) same
      have type : earlier.type = conversation.type := congrArg (·.2.1) same
      exact type.symm.trans (chartered.keys earlier stored (key ▸ present))
    · exact (charter conversation.room new).2 present

/-- A group after the call was a group before it, or is new. -/
theorem IsGroup.before {conversationId : Uuid} (rooms : RoomStep store next) (group : IsGroup next conversationId) :
    IsGroup store conversationId ∨ conversationId = store.nextId := by
  obtain ⟨more, -, charter, less⟩ := rooms
  obtain ⟨conversation, inside, id, type⟩ := group
  have listed := less.subset (List.mem_map_of_mem (f := Conversation.room) inside)
  obtain old | new := List.mem_append.mp listed
  · obtain ⟨earlier, stored, same⟩ := List.mem_map.mp old
    refine .inl ⟨earlier, stored, ?_, ?_⟩
    · exact (congrArg Prod.fst same).trans id
    · exact (congrArg (·.2.1) same).trans type
  · exact .inr (id.symm.trans (charter conversation.room new).1)

theorem IsGroup.of_rooms {conversationId : Uuid} (group : IsGroup store conversationId)
    (kept : store.conversations.map Conversation.room ⊆ next.conversations.map Conversation.room) :
    IsGroup next conversationId := by
  obtain ⟨conversation, inside, id, type⟩ := group
  obtain ⟨other, listed, same⟩ := List.mem_map.mp (kept (List.mem_map_of_mem inside))
  exact ⟨other, listed, (congrArg Prod.fst same).trans id, (congrArg (·.2.1) same).trans type⟩

/-- A private conversation is no group. -/
theorem Chartered.apart (chartered : Chartered store) {conversationId : Uuid} (group : IsGroup store conversationId)
    {conversation : Conversation} (inside : conversation ∈ store.conversations)
    (type : conversation.type = .privateType) : conversation.id ≠ conversationId := by
  intro same
  obtain ⟨other, listed, id, otherType⟩ := group
  obtain rfl := List.inj_on_of_nodup_map chartered.ids inside listed (same.trans id.symm)
  rw [type] at otherType
  cases otherType

/-- The row with role OWNER is the only one of a group. -/
theorem Chartered.presides (chartered : Chartered store) {conversationId userId : Uuid}
    (group : IsGroup store conversationId ∨ conversationId = store.nextId) {owner : ConversationMember}
    (found : findMember store conversationId userId = some owner) (role : owner.role = .owner) :
    Presides store conversationId userId := by
  obtain ⟨inside, place, user⟩ := findMember_some found
  have listed : owner ∈ ownersOf store conversationId := by
    refine List.mem_filter.mpr ⟨inside, ?_⟩
    rw [place, role]
    simp
  obtain ⟨conversation, stored, id, type⟩ | fresh := group
  · obtain ⟨holder, held⟩ := chartered.governed.groups conversation stored type
    rw [id] at held
    obtain ⟨row, single, active⟩ := ownersOf_eq_singleton chartered.governed.memberKeys held
    rw [single] at listed
    obtain rfl := List.mem_singleton.mp listed
    exact ⟨owner, single, user, active⟩
  · have known := chartered.governed.membersKnown owner inside
    rw [place, fresh] at known
    exact absurd known (Nat.lt_irrefl _)

end Rooms

section Changes
variable {store next : Store} {caller conversationId : Uuid}

theorem standing_congr (members : next.members = store.members) (userId : Uuid) :
    standing next conversationId userId = standing store conversationId userId := by
  unfold standing
  rw [findMember_congr members]

theorem ChangedBy.of_same (same : ∀ userId, standing next conversationId userId = standing store conversationId userId) :
    ChangedBy caller conversationId store next :=
  fun userId changed => absurd (same userId) changed

theorem ChangedBy.of_members (members : next.members = store.members) : ChangedBy caller conversationId store next :=
  .of_same (standing_congr members)

/-- The call touches no row but the one of its caller. -/
theorem ChangedBy.of_own (others : ∀ userId, userId ≠ caller →
    standing next conversationId userId = standing store conversationId userId) :
    ChangedBy caller conversationId store next := by
  intro userId changed
  by_cases own : userId = caller
  · exact .inl own
  · exact absurd (others userId own) changed

theorem ChangedBy.of_owner (presides : Presides store conversationId caller) :
    ChangedBy caller conversationId store next :=
  fun _ _ => .inr presides

theorem standing_updateMember_other (changedConversation changedUser : Uuid)
    (change : ConversationMember → ConversationMember) (keeps : ∀ member, (change member).key = member.key)
    {userId : Uuid} (different : (conversationId, userId) ≠ (changedConversation, changedUser)) :
    standing (updateMember store changedConversation changedUser change) conversationId userId =
      standing store conversationId userId := by
  unfold standing
  rw [findMember_updateMember_other store changedConversation changedUser change keeps _ _ different]

/-- New rows change the standing of their users only. -/
theorem standing_insert_other {rows : List ConversationMember} (members : next.members = store.members ++ rows)
    {userId : Uuid} (apart : ∀ row ∈ rows, row.key ≠ (conversationId, userId)) :
    standing next conversationId userId = standing store conversationId userId := by
  have missing : lookup ConversationMember.key (conversationId, userId) rows = none :=
    (lookup_eq_none ConversationMember.key).mpr apart
  have appended : standing next conversationId userId =
      standing { store with members := store.members ++ rows } conversationId userId := standing_congr members userId
  rw [appended]
  unfold standing
  rw [findMember_append, missing, Option.or_none]

/-- A change that keeps the place of the members keeps their standing. -/
theorem standing_updateWhere (matching : ConversationMember → Bool) (change : ConversationMember → ConversationMember)
    (keeps : ∀ member, (change member).key = member.key)
    (place : ∀ member, (change member).role = member.role ∧ (change member).softDeletedAt = member.softDeletedAt)
    (members : next.members = updateWhere matching change store.members) (userId : Uuid) :
    standing next conversationId userId = standing store conversationId userId := by
  unfold standing findMember
  rw [members, lookup_updateWhere ConversationMember.key _ _ _ keeps, Option.map_map]
  refine Option.map_congr ?_
  intro member _
  rw [Function.comp_apply]
  split
  · exact Prod.ext (place member).1 (place member).2
  · rfl

theorem standing_deleteConversation {deleted : Uuid} (other : conversationId ≠ deleted) (userId : Uuid) :
    standing (deleteConversation deleted store) conversationId userId = standing store conversationId userId := by
  have kept : (conversationId == deleted) = false := beq_eq_false_iff_ne.mpr other
  have same := findMember_deleteConversations store (fun id => id == deleted) conversationId userId kept
  unfold standing
  exact congrArg (Option.map fun member => (member.role, member.softDeletedAt)) same

end Changes

section Calls
variable {store : Store} {conversationId : Uuid}

theorem standing_persisted (now : Nat) (senderId messageConversation : Uuid) (members : List ConversationMember)
    (ciphered : CipheredMessage) (uploads : List PendingUpload) (userId : Uuid) :
    standing (persisted now senderId messageConversation members ciphered uploads store) conversationId userId =
      standing store conversationId userId := by
  refine standing_updateWhere (fun _ => true) (countUnread messageConversation (recipients members senderId))
    (fun _ => rfl) (fun _ => ⟨rfl, rfl⟩) ?_ userId
  unfold updateWhere
  simp only [if_true]
  rfl

theorem standing_restoreIfDeleted (now : Nat) (member : Option ConversationMember) {restored : Uuid}
    (other : conversationId ≠ restored) (restoredUser userId : Uuid) :
    standing (restoreIfDeleted now member restored restoredUser store) conversationId userId =
      standing store conversationId userId := by
  unfold restoreIfDeleted
  split
  · refine standing_updateMember_other restored restoredUser _ ?_ ?_
    · exact fun _ => rfl
    · exact fun same => other (congrArg Prod.fst same)
  · rfl

/-- Opening a private conversation touches the rows of the new conversation only. -/
theorem standing_opened (now : Nat) (params : CreateConversationParams) (privateKey : Option Text)
    (uniqueMembers : List Text) (other : conversationId ≠ store.nextId) (userId : Uuid) :
    standing (opened now params privateKey uniqueMembers store) conversationId userId =
      standing store conversationId userId := by
  have added : (opened now params privateKey uniqueMembers store).members =
      store.members ++ newMembers now params uniqueMembers store.nextId := rfl
  refine standing_insert_other added ?_
  intro row inside same
  obtain ⟨text, -, rfl⟩ := List.mem_map.mp inside
  exact other (congrArg Prod.fst same).symm

/-- The conversation of a private message is private, and finding it touches no rows of others. -/
theorem getOrCreate_standing (chartered : Chartered store) {platform : Platform} {env : Env}
    {params : CreateConversationParams} (isPrivate : params.type = .privateType) {conversation : Conversation}
    {between : Store}
    (opening : getOrCreatePrivateConversation platform env params store = (.ok conversation, between)) :
    (conversation ∈ between.conversations ∧ conversation.type = .privateType) ∧
      ∀ other, other ≠ conversation.id → ∀ userId, standing between other userId = standing store other userId := by
  obtain ⟨exception, failed⟩ | ⟨privateKey, found, opened, -, equal, ⟨same, listed⟩ | ⟨-, new, final, -⟩⟩ :=
    getOrCreatePrivateConversation_cases platform env params isPrivate store
  · rw [failed] at opening
    cases opening
  · rw [equal] at opening
    obtain ⟨id, rfl⟩ := Prod.mk.inj opening
    obtain rfl := Except.ok.inj id
    obtain ⟨inside, key⟩ := lookup_mem Conversation.privateKey listed
    rw [same]
    exact ⟨⟨inside, chartered.keys found inside (by rw [key]; rfl)⟩, fun _ _ _ => rfl⟩
  · rw [equal] at opening
    obtain ⟨id, rfl⟩ := Prod.mk.inj opening
    obtain rfl := Except.ok.inj id
    rw [final, new]
    refine ⟨⟨List.mem_append_right _ ?_, rfl⟩, ?_⟩
    · rw [isPrivate]
      exact List.mem_singleton_self _
    · exact fun other apart => standing_opened env.now params (some privateKey) _ apart

/-- A private message touches the standing of members of private conversations only. -/
theorem createPrivateMessage_changedBy (chartered : Chartered store) (platform : Platform) (env : Env)
    (senderId : Uuid) (dto : PrivateMessageDto)
    (after : Chartered (createPrivateMessage platform env senderId dto store).2)
    (group : IsGroup (createPrivateMessage platform env senderId dto store).2 conversationId) :
    ChangedBy senderId conversationId store (createPrivateMessage platform env senderId dto store).2 := by
  have saved := sameRooms_createPrivateMessage platform env senderId dto store
  obtain ⟨exception, failed⟩ | ⟨conversation, between, opening, rest⟩ :=
    createPrivateMessage_cases platform env senderId dto store
  · rw [failed]
    exact .of_members rfl
  · have isPrivate : (privateMessageParams senderId dto).type = .privateType := rfl
    obtain ⟨⟨inside, type⟩, others⟩ := getOrCreate_standing chartered isPrivate opening
    rw [opening] at saved
    have listed : conversation.room ∈ (createPrivateMessage platform env senderId dto store).2.conversations.map
        Conversation.room := by
      rw [saved.conversations]
      exact List.mem_map_of_mem inside
    obtain ⟨stored, present, room⟩ := List.mem_map.mp listed
    have apart : conversationId ≠ conversation.id := by
      have different := after.apart group present ((congrArg (·.2.1) room).trans type)
      exact fun same => different ((congrArg Prod.fst room).trans same.symm)
    specialize others conversationId apart
    obtain ⟨exception, failed⟩ | ⟨message, next, equal, -, -, uploads, -, final⟩ := rest
    · rw [failed]
      exact .of_same others
    · rw [equal]
      refine .of_same fun userId => ?_
      rw [final, standing_persisted, restored, standing_restoreIfDeleted _ _ apart,
        standing_restoreIfDeleted _ _ apart]
      exact others userId

/-- Every step of a group keeps the rooms, or it adds one. -/
theorem GroupStep.rooms {env : Env} {call : GroupCall} {next : Store} (step : GroupStep env store call next) :
    RoomStep store next := by
  cases step with
  | creates ownerId dto =>
      have added : (grouped env.now ownerId dto store).conversations.map Conversation.room =
          store.conversations.map Conversation.room ++ [(store.nextId, .groupType, none)] := List.map_append
      refine .of_append ?_ added
      intro present
      cases present
  | refused | invites | acceptsLate | restores | joins | rejectsLate | rejects | leaves | removes | transfers =>
      exact .of_eq rfl

/-- Every call drops conversations or adds one. -/
theorem runCall_rooms (chartered : Chartered store) (platform : Platform) (action : Env × ConversationCall) :
    RoomStep store (runCall platform store action) := by
  obtain ⟨env, call⟩ := action
  have step := callStep platform env call store
  generalize runCall platform store (env, call) = next at step ⊢
  cases step with
  | group step => exact step.rooms
  | createPrivateMessage senderId dto =>
      obtain ⟨-, -, opened⟩ | ⟨-, same⟩ :=
        createPrivateMessage_rooms chartered.governed platform env senderId dto
      · exact .of_append (fun _ => rfl) opened.conversations
      · exact .of_eq same.conversations
  | refused call => exact .of_eq rfl
  | deleteGroup userId conversationId =>
      refine .of_sublist ?_
      rw [(dropsRoom_deleteConversation conversationId store).conversations]
      exact List.filter_sublist
  | deletePrivateConversation userId conversationId =>
      obtain same | dropped := deletePrivateConversation_rooms env userId conversationId store
      · exact .of_eq same.conversations
      · refine .of_sublist ?_
        rw [dropped.conversations]
        exact List.filter_sublist

/-- An update of the row of the caller touches no other standing. -/
theorem ChangedBy.of_updateMember (changed caller : Uuid) (change : ConversationMember → ConversationMember)
    (keeps : ∀ member, (change member).key = member.key) :
    ChangedBy caller conversationId store (updateMember store changed caller change) := by
  refine .of_own fun userId different => standing_updateMember_other changed caller change keeps ?_
  exact fun same => different (congrArg Prod.snd same)

/-- A new row touches the standing of its user only. -/
theorem ChangedBy.of_insert {next : Store} {row : ConversationMember}
    (members : next.members = store.members ++ [row]) : ChangedBy row.userId conversationId store next := by
  refine .of_own fun userId different => standing_insert_other members ?_
  intro inserted inside place
  rw [List.mem_singleton.mp inside] at place
  exact different (congrArg Prod.snd place).symm

/-- A step of a group changes the standing of its caller, or its caller presides over the group. -/
theorem GroupStep.changedBy {env : Env} {call : GroupCall} {next : Store} (step : GroupStep env store call next)
    (chartered : Chartered store) (group : IsGroup store conversationId ∨ conversationId = store.nextId) :
    ChangedBy call.call.caller conversationId store next := by
  cases step with
  | refused | invites | acceptsLate | rejectsLate | rejects => exact .of_members rfl
  | creates ownerId dto =>
      have added : (grouped env.now ownerId dto store).members = store.members ++
          [newRow env.now { conversationId := store.nextId, userId := ownerId, role := .owner }] := rfl
      exact .of_insert added
  | restores invitedTo userId => exact .of_updateMember invitedTo userId _ fun _ => rfl
  | joins invitedTo userId =>
      have added : (joined env.now invitedTo userId store).members = store.members ++
          [newRow env.now { conversationId := invitedTo, userId, role := .member }] := rfl
      exact .of_insert added
  | leaves userId left => exact .of_updateMember left userId _ fun _ => rfl
  | removes userId dto actor target answered foundActor role found ordinary =>
      by_cases same : conversationId = dto.conversationId
      · subst same
        exact .of_owner (chartered.presides group foundActor role)
      · refine .of_same fun user => standing_updateMember_other dto.conversationId (parseUuid dto.targetUserId) _ ?_ ?_
        · exact fun _ => rfl
        · exact fun equal => same (congrArg Prod.fst equal)
  | transfers prevOwner dto owner newOwner foundOwner role active foundNew present =>
      by_cases same : conversationId = dto.conversationId
      · subst same
        exact .of_owner (chartered.presides group foundOwner role)
      · have keeps (role : ConversationRole) (member : ConversationMember) :
            ({ member with role } : ConversationMember).key = member.key := rfl
        refine .of_same fun userId => ?_
        refine (standing_updateMember_other dto.conversationId (parseUuid dto.newOwnerId) _ (keeps .owner) ?_).trans
          (standing_updateMember_other dto.conversationId prevOwner _ (keeps .member) ?_)
        · exact fun equal => same (congrArg Prod.fst equal)
        · exact fun equal => same (congrArg Prod.fst equal)

/-- The deletion of a private conversation touches no member of a group. -/
theorem deletePrivateConversation_changedBy (chartered : Chartered store)
    (group : IsGroup store conversationId ∨ conversationId = store.nextId) (env : Env) (userId deleted : Uuid) :
    ChangedBy userId conversationId store (deletePrivateConversation env userId deleted store).2 := by
  have other (conversation : Conversation) (found : findById store deleted = some conversation)
      (type : conversation.type = .privateType) : conversationId ≠ deleted := by
    obtain ⟨inside, id⟩ := findById_some found
    obtain old | fresh := group
    · exact fun same => chartered.apart old inside type (id.trans same.symm)
    · have known := chartered.governed.conversationsKnown conversation inside
      rw [id] at known
      exact fun same => absurd known (same ▸ fresh ▸ Nat.lt_irrefl _)
  have marked (apart : conversationId ≠ deleted) (user : Uuid) :
      standing (markConversationAsDeleted env.now deleted userId store) conversationId user =
        standing store conversationId user := by
    refine standing_updateMember_other deleted userId _ ?_ ?_
    · exact fun _ => rfl
    · exact fun same => apart (congrArg Prod.fst same)
  have step := deletionStep env userId deleted store
  generalize (deletePrivateConversation env userId deleted store).2 = next at step ⊢
  cases step with
  | refused => exact .of_members rfl
  | hides conversation member found type => exact .of_same (marked (other conversation found type))
  | drops conversation member found type =>
      have apart := other conversation found type
      exact .of_same fun user => (standing_deleteConversation apart user).trans (marked apart user)

/-- A call changes the standing of its caller, or its caller presides over the group. -/
theorem runCall_changedBy (chartered : Chartered store) (platform : Platform) (action : Env × ConversationCall)
    (group : IsGroup store conversationId ∨ IsGroup (runCall platform store action) conversationId) :
    ChangedBy action.2.caller conversationId store (runCall platform store action) := by
  have rooms := runCall_rooms chartered platform action
  have after := chartered.step (chartered.governed.run platform action) rooms
  have before : IsGroup store conversationId ∨ conversationId = store.nextId := by
    obtain old | new := group
    · exact .inl old
    · exact new.before rooms
  obtain ⟨env, call⟩ := action
  have step := callStep platform env call store
  generalize runCall platform store (env, call) = next at step rooms after group ⊢
  cases step with
  | group step => exact step.changedBy chartered before
  | createPrivateMessage senderId dto =>
      refine createPrivateMessage_changedBy chartered platform env senderId dto after ?_
      obtain old | new := group
      · refine old.of_rooms ?_
        obtain ⟨-, -, opened⟩ | ⟨-, same⟩ :=
          createPrivateMessage_rooms chartered.governed platform env senderId dto
        · rw [opened.conversations]
          exact List.subset_append_left _ _
        · rw [same.conversations]
          exact List.Subset.refl _
      · exact new
  | refused call => exact .of_members rfl
  | deleteGroup userId deleted owner found role =>
      by_cases same : conversationId = deleted
      · subst same
        exact .of_owner (chartered.presides before found role)
      · exact .of_same (standing_deleteConversation same)
  | deletePrivateConversation userId deleted =>
      exact deletePrivateConversation_changedBy chartered before env userId deleted

/-- A message to a group saves rows that say nothing about its members. -/
theorem createGroupMessage_writes (platform : Platform) (env : Env) (senderId : Uuid) (dto : GroupMessageDto)
    (store : Store) :
    (createGroupMessage platform env senderId dto store).2 = store ∨
      ∃ members uploads, (createGroupMessage platform env senderId dto store).2 =
        persisted env.now senderId dto.conversationId members (cipherMessage platform env dto.content) uploads store := by
  obtain ⟨exception, failed⟩ | ⟨-, -, saved, uploads, -, -, -, -, -, -, answered⟩ :=
    createGroupMessage_cases platform env senderId dto store
  · rw [failed]
    exact .inl rfl
  · rw [answered]
    exact .inr ⟨_, uploads, rfl⟩

theorem standing_resetUnreadCount (counted countedUser userId : Uuid) :
    standing (resetUnreadCount counted countedUser store) conversationId userId =
      standing store conversationId userId :=
  standing_updateWhere _ (fun member => { member with unreadCount := 0 }) (fun _ => rfl) (fun _ => ⟨rfl, rfl⟩) rfl userId

/-- Every user call keeps the charter and changes the members of a group with authority. -/
theorem Chartered.run (chartered : Chartered store) (platform : Platform) (action : Env × UserCall) :
    Chartered (runUserCall platform store action) ∧ ∀ conversationId,
      IsGroup store conversationId ∨ IsGroup (runUserCall platform store action) conversationId →
        ChangedBy action.2.caller conversationId store (runUserCall platform store action) := by
  obtain ⟨env, call⟩ := action
  cases call with
  | conversation call =>
      constructor
      · exact chartered.step (chartered.governed.run platform (env, call)) (runCall_rooms chartered platform (env, call))
      · exact fun _ => runCall_changedBy chartered platform (env, call)
  | createGroupMessage senderId dto =>
      unfold runUserCall
      simp only
      obtain same | ⟨members, uploads, equal⟩ := createGroupMessage_writes platform env senderId dto store
      · rw [same]
        exact ⟨chartered, fun _ _ => .of_members rfl⟩
      · rw [equal]
        constructor
        · exact chartered.step (chartered.governed.persisted _ _ _ _ _ _)
            (.of_eq (SameRooms.persisted _ _ _ _ _ _ _).conversations)
        · exact fun _ _ => .of_same (standing_persisted _ _ _ _ _ _)
  | confirmDelivery userId dto =>
      unfold runUserCall
      simp only
      obtain ⟨rows, equal | equal⟩ := confirmDelivery_writes env userId dto store
      · rw [equal]
        constructor
        · exact chartered.step (chartered.governed.of_frame rfl rfl (Nat.le_refl _)) (.of_eq rfl)
        · exact fun _ _ => .of_members rfl
      · rw [equal]
        constructor
        · refine chartered.step ?_ (.of_eq rfl)
          exact (chartered.governed.resetUnread dto.conversationId userId).of_frame rfl rfl (Nat.le_refl _)
        · exact fun _ _ => .of_same (standing_resetUnreadCount dto.conversationId userId)
  | resetUnreadMessagesCount userId counted =>
      unfold runUserCall resetUnreadMessagesCount
      simp only
      obtain ⟨exception, failed⟩ | ⟨value, next, done, -, equal⟩ := transaction_cases (env.succeeds 0) store
        fun current => .ok ((), resetUnreadCount counted userId current)
      · rw [failed]
        exact ⟨chartered, fun _ _ => .of_members rfl⟩
      · rw [equal]
        cases done
        constructor
        · exact chartered.step (chartered.governed.resetUnread counted userId) (.of_eq rfl)
        · exact fun _ _ => .of_same (standing_resetUnreadCount counted userId)

end Calls

/-- In every run, the role and the soft deletion of a member of a group change, and its row comes and goes, only
in a call by that member or by the user who holds the office of owner at that moment. -/
theorem members_change_by_owner_or_themselves (platform : Platform) (users : List User)
    (pendingUploads : List PendingUpload) (bucket : List StorageKey) (nextId : Uuid)
    (actions : List (Env × UserCall)) (position : Nat) (action : Env × UserCall)
    (present : actions[position]? = some action) (conversationId userId : Uuid)
    (group : IsGroup (stateAt (runUserCall platform) (emptyStore users pendingUploads bucket nextId) actions position)
        conversationId ∨
      IsGroup (stateAt (runUserCall platform) (emptyStore users pendingUploads bucket nextId) actions (position + 1))
        conversationId)
    (changed : standing (stateAt (runUserCall platform) (emptyStore users pendingUploads bucket nextId) actions
        (position + 1)) conversationId userId ≠
      standing (stateAt (runUserCall platform) (emptyStore users pendingUploads bucket nextId) actions position)
        conversationId userId) :
    userId = action.2.caller ∨
      Presides (stateAt (runUserCall platform) (emptyStore users pendingUploads bucket nextId) actions position)
        conversationId action.2.caller := by
  have chartered : Chartered
      (stateAt (runUserCall platform) (emptyStore users pendingUploads bucket nextId) actions position) := by
    refine run_invariant (runUserCall platform) Chartered ?_ _ _ ?_
    · exact fun store action held => (held.run platform action).1
    · refine ⟨governed_emptyStore soleHolder_office users pendingUploads bucket nextId, List.nodup_nil, ?_⟩
      exact fun _ inside => absurd inside List.not_mem_nil
  rw [stateAt_succ _ present] at group changed
  exact (chartered.run platform action).2 conversationId group userId changed

/-- User 1 hands group 10 over, and the call changes the role of user 2. -/
theorem successor_is_promoted_by_owner :
    Presides (stateAt (runUserCall plainPlatform)
        (emptyStore ([1, 2].map fun id => { id, role := .user, createdAt := 0 }) [] [] 10)
        (succession.map fun action => (action.1, .conversation action.2)) 3) 10 1 := by
  have authority := members_change_by_owner_or_themselves plainPlatform
    ([1, 2].map fun id => { id, role := .user, createdAt := 0 }) [] [] 10
    (succession.map fun action => (action.1, .conversation action.2)) 3
    ({ now := 4000000 }, .conversation (.transferGroupOwnership 1 { conversationId := 10, newOwnerId := uuidText 2 }))
    rfl 10 2 (.inl (by unfold IsGroup; decide)) (by decide)
  exact authority.resolve_left (by decide)

end Messinger
