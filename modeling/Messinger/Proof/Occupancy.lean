import Messinger.Model.ConversationCalls
import Messinger.Proof.GroupCalls
import Messinger.Proof.PrivateKeys
import Messinger.Proof.PrivateTurns
import Messinger.Proof.UploadCalls

namespace Messinger
open Library ConversationMemberRepository ConversationRepository ConversationService MessageService

/-- The conversation has an active member that satisfies the condition. -/
def HasActive (conversationId : Uuid) (condition : Uuid → Prop) (members : List ConversationMember) : Prop :=
  ∃ member ∈ members, member.conversationId = conversationId ∧ member.softDeletedAt = none ∧ condition member.userId

/-- Someone is active in every private conversation. -/
def Occupied (store : Store) : Prop :=
  ∀ conversation ∈ store.conversations, conversation.type = .privateType →
    HasActive conversation.id (fun _ => True) store.members

/-- Someone besides the user is active in the conversation, if it is a private one. -/
def HasOther (userId conversationId : Uuid) (store : Store) : Prop :=
  ∀ conversation ∈ store.conversations, conversation.type = .privateType → conversation.id = conversationId →
    HasActive conversationId (· ≠ userId) store.members

/-- A commit that takes members away leaves someone active in every private conversation that it keeps. -/
def LeavesSomeone (progress : Library.Progress Store PrivateTask) (task : PrivateTask) (env : Env) : Prop :=
  env.succeeds 0 = true →
    match task with
    | .commitDeletion userId conversationId _ remaining => remaining ≠ 0 → HasOther userId conversationId progress.state
    | .commitLeave userId conversationId => HasOther userId conversationId progress.state
    | .commitUser dto doomed => progress.state.hasUser dto.userId = true →
        ∀ conversationId, doomed.contains conversationId = false → HasOther dto.userId conversationId progress.state
    | _ => True

section Writes
variable {store next : Store}

/-- A write that keeps the conversations and leaves the active members active keeps them occupied. -/
theorem Occupied.of_rows (occupied : Occupied store)
    (conversations : ∀ conversation ∈ next.conversations, conversation.type = .privateType →
      ∃ old ∈ store.conversations, old.type = .privateType ∧ old.id = conversation.id)
    (members : ∀ member ∈ store.members, member.softDeletedAt = none →
      ∃ row ∈ next.members, row.conversationId = member.conversationId ∧ row.softDeletedAt = none) :
    Occupied next := by
  intro conversation inside type
  obtain ⟨old, stored, same, id⟩ := conversations conversation inside type
  obtain ⟨member, present, place, active, -⟩ := occupied old stored same
  obtain ⟨row, listed, kept, still⟩ := members member present active
  exact ⟨row, listed, kept.trans (place.trans id), still, trivial⟩

theorem Occupied.updateMember (occupied : Occupied store) (conversationId userId : Uuid)
    (change : ConversationMember → ConversationMember)
    (place : ∀ member, (change member).conversationId = member.conversationId)
    (active : ∀ member, member.softDeletedAt = none → (change member).softDeletedAt = none) :
    Occupied (updateMember store conversationId userId change) := by
  refine occupied.of_rows (fun conversation inside type => ⟨conversation, inside, type, rfl⟩) ?_
  intro member inside held
  refine ⟨_, mem_updateWhere.mpr ⟨member, inside, rfl⟩, ?_⟩
  split
  · exact ⟨place member, active member held⟩
  · exact ⟨rfl, held⟩

theorem Occupied.restoreIfDeleted (occupied : Occupied store) (now : Nat) (member : Option ConversationMember)
    (conversationId userId : Uuid) : Occupied (restoreIfDeleted now member conversationId userId store) := by
  unfold MessageService.restoreIfDeleted
  split
  · exact occupied.updateMember conversationId userId _ (fun _ => rfl) fun _ _ => rfl
  · exact occupied

theorem Occupied.persisted (occupied : Occupied store) (now : Nat) (senderId conversationId : Uuid)
    (members : List ConversationMember) (ciphered : CipheredMessage) (uploads : List PendingUpload) :
    Occupied (persisted now senderId conversationId members ciphered uploads store) := by
  refine occupied.of_rows ?_ ?_
  · intro conversation inside type
    obtain ⟨old, stored, same⟩ := mem_updateWhere.mp inside
    refine ⟨old, stored, ?_⟩
    rw [same] at type ⊢
    split at type
    · next selected =>
        rw [if_pos selected]
        exact ⟨type, rfl⟩
    · next selected =>
        rw [if_neg selected]
        exact ⟨type, rfl⟩
  · intro member inside active
    exact ⟨_, List.mem_map_of_mem inside, rfl, active⟩

/-- A new private conversation is occupied by the caller. -/
theorem Occupied.createConversation (occupied : Occupied store) (platform : Platform) (env : Env)
    (message : PrivateDraft) : Occupied (createPrivateConversation platform env message.params store).2 := by
  refine transaction_keeps occupied ?_
  intro conversation next done
  obtain ⟨-, final, -⟩ := createConversation_ok done
  rw [final]
  intro other inside type
  obtain old | new := List.mem_append.mp inside
  · obtain ⟨member, present, place, active, -⟩ := occupied other old type
    exact ⟨member, List.mem_append_left _ present, place, active, trivial⟩
  · rw [List.mem_singleton.mp new]
    have creator : uuidText message.senderId ∈
        normalizeMembers message.params.creatorId message.params.members := mem_normalizeMembers.mpr (.inl rfl)
    exact ⟨_, List.mem_append_right _ (List.mem_map_of_mem creator), rfl, rfl, trivial⟩

/-- Marking one member leaves a conversation occupied exactly when another member is active. -/
theorem occupied_mark_iff (occupied : Occupied store) (now : Nat) (conversationId userId : Uuid) (next : Store)
    (conversations : next.conversations = store.conversations)
    (members : next.members = (markConversationAsDeleted now conversationId userId store).members) :
    Occupied next ↔ HasOther userId conversationId store := by
  unfold Occupied HasOther
  rw [conversations, members]
  constructor
  · intro still conversation inside type id
    obtain ⟨row, listed, place, active, -⟩ := still conversation inside type
    obtain ⟨member, present, same⟩ := mem_updateWhere.mp listed
    split at same
    · rw [same] at active
      cases active
    · next other =>
        rw [same] at place active
        refine ⟨member, present, place.trans id, active, fun user => other ?_⟩
        exact decide_eq_true (Prod.ext (place.trans id) user)
  · intro others conversation inside type
    by_cases id : conversation.id = conversationId
    · obtain ⟨member, present, place, active, different⟩ := others conversation inside type id
      refine ⟨member, mem_updateWhere.mpr ⟨member, present, ?_⟩, place.trans id.symm, active, trivial⟩
      rw [if_neg fun same => different (congrArg Prod.snd (of_decide_eq_true same))]
    · obtain ⟨member, present, place, active, -⟩ := occupied conversation inside type
      refine ⟨member, mem_updateWhere.mpr ⟨member, present, ?_⟩, place, active, trivial⟩
      rw [if_neg fun same => id (place.symm.trans (congrArg Prod.fst (of_decide_eq_true same)))]

/-- The conversations that are not doomed keep their identifiers and types. -/
theorem mem_deleteConversations {doomed : Uuid → Bool} {conversation : Conversation}
    (inside : conversation ∈ (store.deleteConversations doomed).conversations) :
    doomed conversation.id = false ∧
      ∃ old ∈ store.conversations, old.id = conversation.id ∧ old.type = conversation.type := by
  obtain ⟨listed, kept⟩ := List.mem_filter.mp inside
  obtain ⟨old, stored, same⟩ := List.mem_map.mp listed
  refine ⟨(Bool.not_eq_true' _).mp kept, old, stored, ?_⟩
  rw [← same]
  split <;> exact ⟨rfl, rfl⟩

theorem deleteConversations_keeps {doomed : Uuid → Bool} {old : Conversation} (stored : old ∈ store.conversations)
    (kept : doomed old.id = false) :
    ∃ conversation ∈ (store.deleteConversations doomed).conversations,
      conversation.id = old.id ∧ conversation.type = old.type := by
  refine ⟨_, List.mem_filter.mpr ⟨List.mem_map_of_mem stored, ?_⟩, ?_⟩
  · split <;> exact congrArg not kept
  · split <;> exact ⟨rfl, rfl⟩

/-- Deleting a user leaves the conversations occupied exactly when each one that stays has another active member. -/
theorem occupied_deleteUser_iff (occupied : Occupied store) (doomed : Uuid → Bool) (userId : Uuid) :
    Occupied ((store.deleteConversations doomed).deleteUsers fun user => user.id == userId) ↔
      (store.hasUser userId = true → ∀ conversationId, doomed conversationId = false →
        HasOther userId conversationId store) := by
  have gone (member : ConversationMember) :
      member ∈ ((store.deleteConversations doomed).deleteUsers fun user => user.id == userId).members ↔
        (member ∈ store.members ∧ doomed member.conversationId = false) ∧
          (store.hasUser userId = true → member.userId ≠ userId) := by
    change member ∈ (store.members.filter fun row => !doomed row.conversationId).filter (fun row =>
      !store.users.any fun user => user.id == row.userId && user.id == userId) ↔ _
    rw [List.mem_filter, List.mem_filter, Bool.not_eq_true', Bool.not_eq_true']
    apply and_congr_right
    intro _
    rw [List.any_eq_false, Store.hasUser, List.any_eq_true]
    simp only [Bool.and_eq_true, beq_iff_eq, not_and]
    constructor
    · rintro apart ⟨user, inside, id⟩ same
      exact apart user inside (id.trans same.symm) id
    · intro apart user inside same id
      exact apart ⟨user, inside, id⟩ (same.symm.trans id)
  constructor
  · intro still present conversationId kept old stored type id
    obtain ⟨conversation, inside, same, sameType⟩ := deleteConversations_keeps stored (id ▸ kept)
    obtain ⟨member, listed, place, active, -⟩ := still conversation inside (sameType.trans type)
    obtain ⟨⟨inStore, -⟩, apart⟩ := (gone member).mp listed
    exact ⟨member, inStore, place.trans (same.trans id), active, apart present⟩
  · intro others conversation inside type
    obtain ⟨kept, old, stored, id, same⟩ := mem_deleteConversations inside
    by_cases present : store.hasUser userId = true
    · obtain ⟨member, inStore, place, active, apart⟩ :=
        others present conversation.id kept old stored (same.trans type) id
      refine ⟨member, (gone member).mpr ⟨⟨inStore, ?_⟩, fun _ => apart⟩, place, active, trivial⟩
      rw [place]
      exact kept
    · obtain ⟨member, inStore, place, active, -⟩ := occupied old stored (same.trans type)
      refine ⟨member, (gone member).mpr ⟨⟨inStore, ?_⟩, fun user => absurd user present⟩, place.trans id, active, trivial⟩
      rw [place, id]
      exact kept

/-- The deletion of a conversation leaves the others occupied, whoever was marked in it. -/
theorem Occupied.deleteMarked (occupied : Occupied store) (now : Nat) (conversationId userId : Uuid) :
    Occupied (deleteConversation conversationId (markConversationAsDeleted now conversationId userId store)) := by
  intro conversation inside type
  obtain ⟨kept, old, stored, id, same⟩ := mem_deleteConversations inside
  obtain ⟨member, present, place, active, -⟩ := occupied old stored (same.trans type)
  have apart : member.conversationId ≠ conversationId := by
    rw [place, id]
    exact beq_eq_false_iff_ne.mp kept
  have unmarked : member ∈ (markConversationAsDeleted now conversationId userId store).members := by
    refine mem_updateWhere.mpr ⟨member, present, ?_⟩
    rw [if_neg fun key => apart (congrArg Prod.fst (of_decide_eq_true key))]
  refine ⟨member, List.mem_filter.mpr ⟨unmarked, ?_⟩, place.trans id, active, trivial⟩
  exact congrArg not (beq_eq_false_iff_ne.mpr apart)

end Writes

section Steps
variable {platform : Platform} {store : Store}

theorem start_store (call : Env × OccupancyCall) : (PrivateTask.start platform store call).1 = store := by
  obtain ⟨env, call⟩ := call
  unfold PrivateTask.start
  cases call with
  | createPrivateMessage senderId dto =>
      simp only
      split <;> rfl
  | deletePrivateConversation userId conversationId =>
      simp only
      split <;> rfl
  | leaveGroup userId conversationId =>
      simp only
      split <;> rfl
  | deleteUser dto => rfl

theorem Occupied.saveMessage (occupied : Occupied store) (env : Env) (message : PrivateDraft)
    (conversation : Conversation) (sender receiver : Option ConversationMember) (members : List ConversationMember) :
    Occupied (transaction (env.succeeds 1) store (createPrivateMessageBody env.now message.senderId message.dto
      message.ciphered conversation sender receiver members)).2 := by
  refine transaction_keeps occupied ?_
  intro saved next done
  obtain ⟨-, -, uploads, -, final⟩ := persistMessage_ok done
  rw [final]
  exact ((occupied.restoreIfDeleted _ _ _ _).restoreIfDeleted _ _ _ _).persisted _ _ _ _ _ _

/-- A transaction that always succeeds keeps a property exactly when what it writes at its commit does. -/
theorem transaction_condition_iff {commits : Bool} {next : Store} {holds : Store → Prop} {condition : Prop}
    (before : holds store) (written : holds next ↔ condition) :
    holds (transaction commits store fun _ => .ok ((), next)).2 ↔ (commits = true → condition) := by
  cases commits with
  | false => exact iff_of_true before fun present => nomatch present
  | true => exact ⟨fun kept _ => written.mp kept, fun met => written.mpr (met rfl)⟩

/-- Leaving marks the member only if the conversation is still there for the event. -/
theorem leave_occupied_iff (occupied : Occupied store) (env : Env) (userId conversationId : Uuid) :
    Occupied (transaction (env.succeeds 0) store
        (removeMemberFromGroup env.now conversationId userId userId .memberLeft)).2 ↔
      (env.succeeds 0 = true → HasOther userId conversationId store) := by
  cases present : store.hasConversation conversationId with
  | false =>
      have missing : removeMemberFromGroup env.now conversationId userId userId .memberLeft store =
          .error .failedCall := by
        unfold removeMemberFromGroup ConversationEventRepository.createEvent
        simp only
        rw [if_neg]
        · rfl
        · exact Bool.eq_false_iff.mp present
      refine iff_of_true ?_ ?_
      · rw [transaction_snd, missing]
        cases env.succeeds 0 <;> exact occupied
      · intro _ conversation inside _ id
        exact absurd (hasConversation_iff.mpr ⟨conversation, inside, id⟩) (Bool.eq_false_iff.mp present)
  | true =>
      have removed : removeMemberFromGroup env.now conversationId userId userId .memberLeft store =
          .ok ((), removedFrom env.now conversationId userId userId .memberLeft store) := by
        unfold removeMemberFromGroup ConversationEventRepository.createEvent
        simp only
        rw [if_pos]
        · rfl
        · exact present
      have written := occupied_mark_iff occupied env.now conversationId userId
        (removedFrom env.now conversationId userId userId .memberLeft store) rfl rfl
      rw [transaction_snd, removed]
      cases env.succeeds 0 with
      | false => exact iff_of_true occupied fun commits => nomatch commits
      | true => exact ⟨fun still _ => written.mp still, fun met => written.mpr (met rfl)⟩

/-- A committed step of a call keeps the conversations occupied exactly when it leaves someone. -/
theorem resume_occupied_iff (pending : List PrivateTask) (occupied : Occupied store) (task : PrivateTask) (env : Env) :
    Occupied (PrivateTask.resume platform store task env).1 ↔ LeavesSomeone ⟨store, pending⟩ task env := by
  unfold LeavesSomeone
  cases task with
  | createConversation message =>
      refine iff_of_true ?_ fun _ => trivial
      rw [resume_createConversation_store]
      exact occupied.createConversation platform env message
  | findMembers message conversation => exact iff_of_true occupied fun _ => trivial
  | saveMessage message conversation sender receiver members =>
      exact iff_of_true (occupied.saveMessage env message conversation sender receiver members) fun _ => trivial
  | countRemaining userId conversationId => exact iff_of_true occupied fun _ => trivial
  | commitDeletion userId conversationId now remaining =>
      refine transaction_condition_iff occupied ?_
      by_cases last : remaining = 0
      · have deleted : finishDeletion now userId conversationId remaining store =
            deleteConversation conversationId (markConversationAsDeleted now conversationId userId store) := if_pos last
        rw [deleted]
        exact iff_of_true (occupied.deleteMarked now conversationId userId) fun others => absurd last others
      · have marked : finishDeletion now userId conversationId remaining store =
            markConversationAsDeleted now conversationId userId store := if_neg last
        have written := occupied_mark_iff occupied now conversationId userId
          (markConversationAsDeleted now conversationId userId store) rfl rfl
        rw [marked]
        exact ⟨fun still _ => written.mp still, fun met => written.mpr (met last)⟩
  | commitLeave userId conversationId => exact leave_occupied_iff occupied env userId conversationId
  | deleteFiles dto doomed =>
      refine iff_of_true ?_ fun _ => trivial
      rw [resume_deleteFiles_store]
      obtain ⟨kept, shape, -⟩ := StorageService.deleteFiles_shape env
        (AdminService.storageKeysOf store
          (store.messages.filter fun message => doomed.contains message.conversationId)) store
      rw [shape]
      exact occupied
  | commitUser dto doomed => exact transaction_condition_iff occupied (occupied_deleteUser_iff occupied _ dto.userId)

end Steps

/-- Every private conversation has an active member in every state, exactly when each commit that takes members
away leaves someone in the conversations that it keeps. -/
theorem private_conversations_occupied_iff (platform : Platform) (users : List User)
    (pendingUploads : List PendingUpload) (bucket : List StorageKey) (nextId : Uuid)
    (turns : List (Turn (Env × OccupancyCall) Env)) :
    (∀ position, Occupied (stateAt (privateSystem platform).advance
        ⟨emptyStore users pendingUploads bucket nextId, []⟩ turns position).state) ↔
      Meets (privateSystem platform).advance (OnResume LeavesSomeone)
        ⟨emptyStore users pendingUploads bucket nextId, []⟩ turns := by
  have resumes : (privateSystem platform).resume = PrivateTask.resume platform := rfl
  apply always_iff_meets (privateSystem platform).advance (fun progress => Occupied progress.state)
    fun progress => Occupied progress.state
  · exact fun conversation inside => absurd inside List.not_mem_nil
  · exact fun _ occupied => occupied
  · intro progress turn occupied met
    refine (privateSystem platform).advance_keeps (fun progress => Occupied progress.state) occupied ?_ ?_
    · intro call _
      change Occupied (PrivateTask.start platform progress.state call).1
      rw [start_store]
      exact occupied
    · rintro position env task rfl present
      exact (resume_occupied_iff progress.pending occupied task env).mpr (met task present)
  · intro progress turn occupied still
    cases turn with
    | call call => trivial
    | resume position env =>
        intro task present
        have found : progress.pending[position]? = some task := present
        rw [Cooperative.advance, found] at still
        exact (resume_occupied_iff progress.pending occupied task env).mp still

instance (conversationId : Uuid) (condition : Uuid → Prop) [DecidablePred condition]
    (members : List ConversationMember) : Decidable (HasActive conversationId condition members) :=
  inferInstanceAs (Decidable (∃ member ∈ members, _ ∧ _ ∧ condition member.userId))

instance (store : Store) : Decidable (Occupied store) :=
  inferInstanceAs (Decidable (∀ conversation ∈ store.conversations, conversation.type = .privateType → HasActive _ _ _))

/-- Users 1 and 2 have no conversation yet. -/
def strangersOfTwo : Store :=
  emptyStore [{ id := 1, role := .user, createdAt := 0 }, { id := 2, role := .user, createdAt := 0 }] [] [] 10

/-- User 1 writes to user 2 in the new conversation 10. -/
def firstPrivateMessage : List (Turn (Env × OccupancyCall) Env) :=
  [.call ({ now := 1000 }, .createPrivateMessage 1 { receiverId := uuidText 2, content := [104], attachments := [] }),
   .resume 0 { now := 2000 }, .resume 0 { now := 3000 }, .resume 0 { now := 4000 }]

/-- Both users delete the conversation at the same time, and each count sees the other user. -/
def crossedDeletions : List (Turn (Env × OccupancyCall) Env) :=
  firstPrivateMessage ++ [.call ({ now := 5000 }, .deletePrivateConversation 1 10),
    .call ({ now := 6000 }, .deletePrivateConversation 2 10), .resume 0 { now := 7000 }, .resume 0 { now := 8000 },
    .resume 0 { now := 9000 }, .resume 0 { now := 10000 }]

/-- Both users leave the private conversation through the route for groups. -/
def privateLeaves : List (Turn (Env × OccupancyCall) Env) :=
  firstPrivateMessage ++ [.call ({ now := 5000 }, .leaveGroup 1 10), .resume 0 { now := 6000 },
    .call ({ now := 7000 }, .leaveGroup 2 10), .resume 0 { now := 8000 }]

/-- User 2 deletes the conversation, and an admin deletes user 1. -/
def deletedPartner : List (Turn (Env × OccupancyCall) Env) :=
  firstPrivateMessage ++ [.call ({ now := 5000 }, .deletePrivateConversation 2 10), .resume 0 { now := 6000 },
    .resume 0 { now := 7000 }, .call ({ now := 8000 }, .deleteUser ⟨1⟩), .resume 0 { now := 9000 },
    .resume 0 { now := 10000 }]

/-- This is the state after the whole run. -/
def finalState (turns : List (Turn (Env × OccupancyCall) Env)) : Library.Progress Store PrivateTask :=
  turns.foldl (privateSystem plainPlatform).advance ⟨strangersOfTwo, []⟩

/-- After each of these runs no call is in flight, and the private conversation has no active member. -/
theorem private_conversation_abandoned :
    ((finalState crossedDeletions).pending.isEmpty = true ∧ ¬ Occupied (finalState crossedDeletions).state) ∧
      ((finalState privateLeaves).pending.isEmpty = true ∧ ¬ Occupied (finalState privateLeaves).state) ∧
      ((finalState deletedPartner).pending.isEmpty = true ∧ ¬ Occupied (finalState deletedPartner).state) := by
  decide

end Messinger
