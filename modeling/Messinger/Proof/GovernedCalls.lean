import Messinger.Proof.Ownership

namespace Messinger
open Library ConversationMemberRepository ConversationRepository GroupInvitationRepository
  ConversationService MessageService
open Relation (ReflTransGen)

variable {rule : Roster Uuid → Prop}

/-- A conversation that is not created yet has an empty roster. -/
theorem Governed.findMember_nextId {store : Store} (governed : Governed rule store) (userId : Uuid) :
    findMember store store.nextId userId = none := by
  rw [findMember_none]
  intro member inside same
  have known := governed.membersKnown member inside
  rw [← (Prod.mk.inj same).1] at known
  exact Nat.lt_irrefl _ known

/-- A write outside members and conversations keeps the store governed. -/
theorem Governed.of_frame {store next : Store} (governed : Governed rule store)
    (members : next.members = store.members) (conversations : next.conversations = store.conversations)
    (later : store.nextId ≤ next.nextId) : Governed rule next := by
  apply governed.steps_of_keys (.of_eq (rosterOf_congr members)) _ _ later
  · rw [members]
  · intro conversation inside
    rw [conversations] at inside
    exact ⟨conversation, inside, rfl, rfl⟩

/-- The roster of a new group lists the founder alone, as its owner. -/
theorem Governed.rosterOf_grouped {store : Store} (governed : Governed rule store) (now : Nat) (ownerId : Uuid)
    (dto : CreateGroupDto) :
    rosterOf (grouped now ownerId dto store) store.nextId =
      Function.update (fun _ => none) ownerId (some ⟨true, true⟩) := by
  let row := newRow now { conversationId := store.nextId, userId := ownerId, role := .owner }
  have empty : rosterOf store store.nextId = fun _ => none := by
    funext userId
    unfold rosterOf
    rw [governed.findMember_nextId]
    rfl
  have inserted := rosterOf_insert store row (governed.findMember_nextId ownerId)
  rw [show row.conversationId = store.nextId from rfl, empty] at inserted
  exact inserted

/-- A new group leaves the other rosters as they are. -/
theorem rosterOf_grouped_other (now : Nat) (ownerId : Uuid) (dto : CreateGroupDto) (store : Store) {other : Uuid}
    (different : other ≠ store.nextId) :
    rosterOf (grouped now ownerId dto store) other = rosterOf store other := by
  let row := newRow now { conversationId := store.nextId, userId := ownerId, role := .owner }
  have same : rosterOf (grouped now ownerId dto store) =
      rosterOf { store with members := store.members ++ [row] } := rosterOf_congr rfl
  rw [same]
  apply rosterOf_insert_other
  intro inserted inside
  cases List.mem_singleton.mp inside
  exact Ne.symm different

theorem Governed.grouped {store : Store} (governed : Governed rule store) (now : Nat) (ownerId : Uuid)
    (dto : CreateGroupDto)
    (keys : ((grouped now ownerId dto store).members.map ConversationMember.key).Nodup) :
    Governed rule (grouped now ownerId dto store) := by
  let row := newRow now { conversationId := store.nextId, userId := ownerId, role := .owner }
  apply governed.founds (newGroup now dto store.nextId) [row] rfl rfl rfl _ keys
  · exact Nat.lt_trans (Nat.lt_succ_self _) (Nat.lt_succ_self _)
  · intro _
    change rule (rosterOf (ConversationService.grouped now ownerId dto store) store.nextId)
    rw [governed.rosterOf_grouped]
    exact governed.office.founded ownerId
  · intro type
    cases type
  · intro member inside
    rw [List.mem_singleton] at inside
    subst inside
    rfl

theorem Governed.opened {store : Store} (governed : Governed rule store) (now : Nat)
    (params : CreateConversationParams) (isPrivate : params.type = .privateType)
    (privateKey : Option Text) (uniqueMembers : List Text)
    (keys : ((opened now params privateKey uniqueMembers store).members.map
      ConversationMember.key).Nodup) :
    Governed rule (opened now params privateKey uniqueMembers store) := by
  apply governed.founds (newConversation now params.type privateKey store.nextId)
    (newMembers now params uniqueMembers store.nextId) rfl rfl rfl _ keys
  · exact Nat.lt_succ_self _
  · intro type
    rw [newConversation, isPrivate] at type
    cases type
  · intro _ person entry found
    unfold rosterOf at found
    obtain ⟨member, listed, rfl⟩ := Option.map_eq_some_iff.mp found
    obtain ⟨inside, conversation, -⟩ := findMember_some listed
    apply entry_of_role_ne
    change member ∈ store.members ++ newMembers now params uniqueMembers store.nextId at inside
    rw [List.mem_append] at inside
    obtain old | new := inside
    · have known := governed.membersKnown member old
      rw [conversation] at known
      exact absurd known (Nat.lt_irrefl _)
    · obtain ⟨userId, -, rfl⟩ := List.mem_map.mp new
      simp [newRow, getMemberRole, isPrivate]
  · intro member inside
    obtain ⟨userId, -, rfl⟩ := List.mem_map.mp inside
    rfl

theorem Governed.mark {store : Store} (governed : Governed rule store) (now : Nat)
    (conversationId userId : Uuid)
    (ordinary : ∀ member, findMember store conversationId userId = some member →
      member.role ≠ .owner) :
    Governed rule (markConversationAsDeleted now conversationId userId store) := by
  apply governed.steps_of_keys (rosterSteps_mark now store conversationId userId ordinary) _ _
    (Nat.le_refl _)
  · exact memberKeys_updateMember store conversationId userId _ fun _ => rfl
  · exact fun conversation inside => ⟨conversation, inside, rfl, rfl⟩

theorem Governed.restore {store : Store} (governed : Governed rule store) (now : Nat)
    (conversationId userId : Uuid) :
    Governed rule (restoreConversation now conversationId userId store) := by
  apply governed.steps_of_keys (rosterSteps_restore now store conversationId userId) _ _ (Nat.le_refl _)
  · exact memberKeys_updateMember store conversationId userId _ fun _ => rfl
  · exact fun conversation inside => ⟨conversation, inside, rfl, rfl⟩

theorem Governed.restoreIfDeleted {store : Store} (governed : Governed rule store) (now : Nat)
    (member : Option ConversationMember) (conversationId userId : Uuid) :
    Governed rule (restoreIfDeleted now member conversationId userId store) := by
  unfold MessageService.restoreIfDeleted
  split
  · exact governed.restore now conversationId userId
  · exact governed

theorem Governed.joined {store : Store} (governed : Governed rule store) (now : Nat)
    (conversationId userId : Uuid) (missing : findMember store conversationId userId = none)
    (present : store.hasConversation conversationId = true)
    (keys : ((joined now conversationId userId store).members.map ConversationMember.key).Nodup) :
    Governed rule (joined now conversationId userId store) := by
  apply governed.steps (rosterSteps_joined now conversationId userId store missing) keys _ _
    (Nat.le_succ _)
  · intro member inside
    change member ∈ store.members ++ [_] at inside
    rw [List.mem_append, List.mem_singleton] at inside
    obtain old | rfl := inside
    · exact governed.membersKnown member old
    · obtain ⟨conversation, row, same⟩ := List.any_eq_true.mp present
      rw [beq_iff_eq] at same
      have known := governed.conversationsKnown conversation row
      rw [same] at known
      exact known
  · exact fun conversation inside => ⟨conversation, inside, rfl, rfl⟩

theorem Governed.removedFrom {store : Store} (governed : Governed rule store) (now : Nat)
    (conversationId actorId targetUserId : Uuid) (eventType : ConversationEventType)
    {target : ConversationMember}
    (found : findMember store conversationId targetUserId = some target) (ordinary : target.role ≠ .owner) :
    Governed rule (removedFrom now conversationId actorId targetUserId eventType store) := by
  have marked := governed.mark now conversationId targetUserId (by
    intro member listed
    rw [found] at listed
    cases listed
    exact ordinary)
  exact marked.of_frame rfl rfl (Nat.le_succ _)

theorem Governed.transferred {store : Store} (governed : Governed rule store) (now : Nat)
    (prevOwner newOwner conversationId : Uuid) {owner target : ConversationMember}
    (foundOwner : findMember store conversationId prevOwner = some owner) (role : owner.role = .owner)
    (active : owner.softDeletedAt = none)
    (foundTarget : findMember store conversationId newOwner = some target)
    (present : target.softDeletedAt = none) :
    Governed rule (transferred now prevOwner newOwner conversationId store) := by
  apply governed.steps_of_keys (rosterSteps_transferred now prevOwner newOwner conversationId store
    foundOwner role active foundTarget present) _ _ (Nat.le_succ _)
  · unfold ConversationService.transferred updateRole
    rw [Store.logEvent_members, memberKeys_updateMember, memberKeys_updateMember] <;> exact fun _ => rfl
  · exact fun conversation inside => ⟨conversation, inside, rfl, rfl⟩

/-- Deleting conversations keeps the rosters and the rows of the others. -/
theorem Governed.deleteConversations {store : Store} (governed : Governed rule store) (doomed : Uuid → Bool) :
    Governed rule (store.deleteConversations doomed) := by
  have conversations : ∀ conversation ∈ (store.deleteConversations doomed).conversations,
      doomed conversation.id = false ∧
        ∃ old ∈ store.conversations, old.id = conversation.id ∧ old.type = conversation.type := by
    intro conversation inside
    obtain ⟨changed, kept⟩ := List.mem_filter.mp inside
    obtain ⟨old, present, equal⟩ := List.mem_map.mp changed
    refine ⟨by simpa using kept, old, present, ?_⟩
    rw [← equal]
    split <;> exact ⟨rfl, rfl⟩
  have rosters : ∀ other, doomed other = false →
      rosterOf (store.deleteConversations doomed) other = rosterOf store other := by
    intro other kept
    funext userId
    unfold rosterOf
    rw [findMember_deleteConversations store doomed other userId kept]
  constructor
  · exact governed.office
  · exact governed.memberKeys.sublist ((List.filter_sublist).map _)
  · exact fun member inside => governed.membersKnown member (List.mem_filter.mp inside).1
  · intro conversation inside
    obtain ⟨-, old, present, id, -⟩ := conversations conversation inside
    rw [← id]
    exact governed.conversationsKnown old present
  · intro conversation inside type
    obtain ⟨kept, old, present, id, same⟩ := conversations conversation inside
    rw [rosters _ kept, ← id]
    exact governed.groups old present (same.trans type)
  · intro conversation inside type
    obtain ⟨kept, old, present, id, same⟩ := conversations conversation inside
    rw [rosters _ kept, ← id]
    exact governed.privates old present (same.trans type)

theorem Governed.persisted {store : Store} (governed : Governed rule store) (now : Nat)
    (senderId conversationId : Uuid) (members : List ConversationMember) (ciphered : CipheredMessage)
    (uploads : List PendingUpload) :
    Governed rule (persisted now senderId conversationId members ciphered uploads store) := by
  apply governed.steps_of_keys
    (.of_eq (rosterOf_countUnread store _ conversationId (recipients members senderId) rfl))
  · change (store.members.map _).map ConversationMember.key = _
    rw [List.map_map]
    rfl
  · intro conversation inside
    obtain ⟨old, present, equal⟩ := mem_updateWhere.mp inside
    refine ⟨old, present, ?_⟩
    rw [equal]
    split <;> exact ⟨rfl, rfl⟩
  · exact Nat.le_trans (Nat.le_add_right _ (1 + (recipients members senderId).length)) (by
      rw [← Nat.add_assoc]
      exact Nat.le_add_right _ _)

theorem Governed.getOrCreate {store : Store} (governed : Governed rule store) (platform : Platform)
    (env : Env) (params : CreateConversationParams) (isPrivate : params.type = .privateType) :
    Governed rule (getOrCreatePrivateConversation platform env params store).2 := by
  obtain ⟨exception, failed⟩ | ⟨privateKey, conversation, next, -, equal, ⟨same, -⟩ |
    ⟨-, -, final, keys⟩⟩ := getOrCreatePrivateConversation_cases platform env params isPrivate store
  · rw [failed]
    exact governed
  · rw [equal, same]
    exact governed
  · rw [equal]
    subst final
    exact governed.opened env.now params isPrivate _ _ keys

theorem Governed.createPrivateMessage {store : Store} (governed : Governed rule store)
    (platform : Platform) (env : Env) (senderId : Uuid) (dto : PrivateMessageDto) :
    Governed rule (createPrivateMessage platform env senderId dto store).2 := by
  have between := governed.getOrCreate platform env (privateMessageParams senderId dto) rfl
  obtain ⟨exception, failed⟩ | ⟨conversation, opened, opening, ⟨exception, failed⟩ |
    ⟨saved, next, equal, -, -, uploads, -, final⟩⟩ :=
    createPrivateMessage_cases platform env senderId dto store
  · rw [failed]
    exact governed
  · rw [failed]
    rw [opening] at between
    exact between
  · rw [equal]
    rw [opening] at between
    subst final
    apply Governed.persisted
    exact (between.restoreIfDeleted env.now _ _ _).restoreIfDeleted env.now _ _ _

/-- A deleted private conversation has no owner row to lose. -/
theorem Governed.deletePrivate {store : Store} (governed : Governed rule store) (env : Env)
    (userId conversationId : Uuid) :
    Governed rule (deletePrivateConversation env userId conversationId store).2 := by
  have marked (conversation : Conversation) (found : findById store conversationId = some conversation)
      (type : conversation.type = .privateType) :
      Governed rule (markConversationAsDeleted env.now conversationId userId store) := by
    obtain ⟨inside, id⟩ := findById_some found
    have vacant := governed.privates conversation inside type
    rw [id] at vacant
    apply governed.mark env.now conversationId userId
    intro row listed owner
    have none := vacant userId row.entry (rosterOf_eq_some listed)
    simp [ConversationMember.entry, owner] at none
  have step := deletionStep env userId conversationId store
  generalize (deletePrivateConversation env userId conversationId store).2 = next at step ⊢
  cases step with
  | refused => exact governed
  | hides conversation member found type => exact marked conversation found type
  | drops conversation member found type =>
      exact (marked conversation found type).deleteConversations fun id => id == conversationId

end Messinger
