import Messinger.Proof.ActiveOwner

namespace Messinger
open Library ConversationMemberRepository ConversationService
open Relation (ReflTransGen)

/-- These calls read and check rows before the transaction that changes owners or members. -/
inductive OwnershipCall where
  | transferGroupOwnership (env : Env) (prevOwner : Uuid) (dto : TransferOwnershipDto)
  | leaveGroup (env : Env) (userId conversationId : Uuid)
  | removeGroupMember (env : Env) (userId : Uuid) (dto : RemoveMemberDto)

/-- A plan is the transaction of a call that has passed its checks. -/
inductive OwnershipPlan where
  | transfer (env : Env) (prevOwner : Uuid) (dto : TransferOwnershipDto)
  | removal (env : Env) (conversationId actorId targetUserId : Uuid)
      (eventType : ConversationEventType)

/-- The first step reads and checks, and the second step is the committed transaction. -/
def ownershipSystem : TwoPhase Store OwnershipCall OwnershipPlan where
  read store call :=
    match call with
    | .transferGroupOwnership env prevOwner dto =>
        match transferGroupOwnershipChecks store prevOwner dto with
        | .ok _ => some (.transfer env prevOwner dto)
        | .error _ => none
    | .leaveGroup env userId conversationId =>
        match leaveGroupChecks store userId conversationId with
        | .ok _ => some (.removal env conversationId userId userId .memberLeft)
        | .error _ => none
    | .removeGroupMember env userId dto =>
        match removeGroupMemberChecks store userId dto with
        | .ok _ => some (.removal env dto.conversationId userId (parseUuid dto.targetUserId)
            .memberRemoved)
        | .error _ => none
  commit store plan :=
    match plan with
    | .transfer env prevOwner dto =>
        (transaction (env.succeeds 0) store (transferGroupOwnershipBody env.now prevOwner dto)).2
    | .removal env conversationId actorId targetUserId eventType =>
        (transaction (env.succeeds 0) store
          (removeMemberFromGroup env.now conversationId actorId targetUserId eventType)).2

/-- A call that no other step interrupts is its read followed by its commit. -/
def runUninterrupted (store : Store) : OwnershipCall → Store
  | .transferGroupOwnership env prevOwner dto => (transferGroupOwnership env prevOwner dto store).2
  | .leaveGroup env userId conversationId => (leaveGroup env userId conversationId store).2
  | .removeGroupMember env userId dto => (removeGroupMember env userId dto store).2

theorem transaction_map_store {A B : Type} (commits : Bool) (store : Store)
    (body : Store → Except Exception (A × Store)) (value : B) :
    (transaction commits store fun current => do
      let (_, next) ← body current
      return (value, next)).2 = (transaction commits store body).2 := by
  unfold transaction
  simp only
  cases body store with
  | error exception => rfl
  | ok pair => cases commits <;> rfl

/-- The two steps of a call without interruption are the call of the service. -/
theorem read_commit_eq_runUninterrupted (store : Store) (call : OwnershipCall) :
    runUninterrupted store call =
      match ownershipSystem.read store call with
      | some plan => ownershipSystem.commit store plan
      | none => store := by
  cases call with
  | transferGroupOwnership env prevOwner dto =>
      simp only [runUninterrupted, transferGroupOwnership, ownershipSystem]
      cases transferGroupOwnershipChecks store prevOwner dto with
      | error exception => rfl
      | ok members => exact transaction_map_store _ _ _ members
  | leaveGroup env userId conversationId =>
      simp only [runUninterrupted, leaveGroup, ownershipSystem]
      cases leaveGroupChecks store userId conversationId with
      | error exception => rfl
      | ok members => exact transaction_map_store _ _ _ members
  | removeGroupMember env userId dto =>
      simp only [runUninterrupted, removeGroupMember, ownershipSystem]
      cases removeGroupMemberChecks store userId dto with
      | error exception => rfl
      | ok members => exact transaction_map_store _ _ _ members

/-- A plan on the conversation that commits finds its rows as its call has checked them. -/
def StillChecked (conversationId : Uuid) (store : Store) : OwnershipPlan → Prop
  | .transfer env prevOwner dto => dto.conversationId = conversationId →
      (transaction (env.succeeds 0) store (transferGroupOwnershipBody env.now prevOwner dto)).1 = .ok () →
      (∃ owner, findMember store conversationId prevOwner = some owner ∧ owner.role = .owner ∧
        owner.softDeletedAt = none) ∧
      ∃ newOwner, findMember store conversationId (parseUuid dto.newOwnerId) = some newOwner ∧
        newOwner.softDeletedAt = none
  | .removal env planned actorId targetUserId eventType => planned = conversationId →
      (transaction (env.succeeds 0) store
        (removeMemberFromGroup env.now planned actorId targetUserId eventType)).1 = .ok () →
      ∃ target, findMember store conversationId targetUserId = some target ∧ target.role ≠ .owner

/-- The member rows have distinct keys, and the conversation has one active owner. -/
def HasOwner (conversationId : Uuid) (store : Store) : Prop :=
  (store.members.map ConversationMember.key).Nodup ∧
    ∃ owner, SoleHolder (rosterOf store conversationId) owner

theorem HasOwner.of_roster {conversationId : Uuid} {store next : Store}
    (held : HasOwner conversationId store)
    (keys : next.members.map ConversationMember.key = store.members.map ConversationMember.key)
    (roster : ReflTransGen RosterStep (rosterOf store conversationId) (rosterOf next conversationId)) :
    HasOwner conversationId next := by
  obtain ⟨distinct, owner, holding⟩ := held
  refine ⟨?_, holding.steps roster⟩
  rw [keys]
  exact distinct

/-- A commit that finds its rows as checked keeps one active owner. -/
theorem hasOwner_commit (conversationId : Uuid) (store : Store) (plan : OwnershipPlan)
    (held : HasOwner conversationId store) (checked : StillChecked conversationId store plan) :
    HasOwner conversationId (ownershipSystem.commit store plan) := by
  cases plan with
  | transfer env prevOwner dto =>
      change HasOwner conversationId (transaction (env.succeeds 0) store
        (transferGroupOwnershipBody env.now prevOwner dto)).2
      obtain ⟨exception, failed⟩ | ⟨nothing, next, done, -, equal⟩ := transaction_cases (env.succeeds 0) store
        (transferGroupOwnershipBody env.now prevOwner dto)
      · rw [failed]
        exact held
      · rw [equal, transferGroupOwnershipBody_ok done]
        apply held.of_roster
        · unfold transferred updateRole
          rw [Store.logEvent_members, memberKeys_updateMember, memberKeys_updateMember] <;>
            exact fun _ => rfl
        · by_cases same : dto.conversationId = conversationId
          · have committed := congrArg Prod.fst equal
            obtain ⟨⟨owner, foundOwner, role, active⟩, newOwner, foundNew, present⟩ := checked same committed
            rw [same]
            exact rosterSteps_transferred env.now prevOwner _ conversationId store foundOwner role active
              foundNew present conversationId
          · rw [rosterOf_transferred_other _ _ _ _ _ _ (Ne.symm same)]
  | removal env planned actorId targetUserId eventType =>
      change HasOwner conversationId (transaction (env.succeeds 0) store
        (removeMemberFromGroup env.now planned actorId targetUserId eventType)).2
      obtain ⟨exception, failed⟩ | ⟨nothing, next, done, -, equal⟩ := transaction_cases (env.succeeds 0) store
        (removeMemberFromGroup env.now planned actorId targetUserId eventType)
      · rw [failed]
        exact held
      · rw [equal, removeMemberFromGroup_ok done]
        apply held.of_roster
        · exact memberKeys_updateMember store planned targetUserId _ fun _ => rfl
        · by_cases same : planned = conversationId
          · obtain ⟨target, found, ordinary⟩ := checked same (congrArg Prod.fst equal)
            subst same
            have marked := rosterSteps_mark env.now store planned targetUserId (by
              intro member listed
              rw [found] at listed
              cases listed
              exact ordinary)
            unfold removedFrom
            rw [rosterOf_congr (Store.logEvent_members _ _)]
            exact marked planned
          · rw [rosterOf_removedFrom_other _ _ _ _ _ _ _ (Ne.symm same)]

/-- While every commit finds its rows as its call has checked them, the group has one active owner
after each step of every schedule. -/
theorem owner_kept_while_checks_hold (start : Store) (conversationId : Uuid) (owner : ConversationMember)
    (keys : (start.members.map ConversationMember.key).Nodup)
    (single : ownersOf start conversationId = [owner]) (active : owner.softDeletedAt = none)
    (schedule : List (Schedule OwnershipCall))
    (checked : ownershipSystem.CommitsValid (StillChecked conversationId) ⟨start, []⟩ schedule)
    (position : Nat) :
    ∃ successor,
      ownersOf ((schedule.take position).foldl ownershipSystem.advance ⟨start, []⟩).state
        conversationId = [successor] ∧ successor.softDeletedAt = none := by
  have initial : HasOwner conversationId start :=
    ⟨keys, owner.userId, soleHolder_of_ownersOf keys single active⟩
  obtain ⟨distinct, holder, held⟩ := ownershipSystem.interleaving_invariant
    (StillChecked conversationId) (HasOwner conversationId)
    (fun store plan holds valid => hasOwner_commit conversationId store plan holds valid)
    (schedule.take position) ⟨start, []⟩ initial (checked.take position)
  exact ownersOf_eq_singleton distinct held

/-- User 1 owns this group of three users. -/
def sharedGroup : Store :=
  { users := [1, 2, 3].map fun id => { id, role := .user, createdAt := 0 }
    conversations := [{ id := 10, name := some "group", type := .groupType, createdAt := 0, updatedAt := 0 }]
    members :=
      [{ conversationId := 10, userId := 1, role := .owner, createdAt := 0 },
       { conversationId := 10, userId := 2, role := .member, createdAt := 0 },
       { conversationId := 10, userId := 3, role := .member, createdAt := 0 }]
    nextId := 11 }

/-- User 1 transfers the group to another user. -/
def transferTo (newOwner : Uuid) : OwnershipCall :=
  .transferGroupOwnership { now := 1 } 1 { conversationId := 10, newOwnerId := uuidText newOwner }

/-- Three calls read before any of them commits: a transfer to user 2, the leave of user 3, and a transfer to user 3
that the database aborts. -/
def overlappingCalls : List (Schedule OwnershipCall) :=
  [.read (transferTo 2), .read (.leaveGroup { now := 1 } 3 10),
    .read (.transferGroupOwnership { now := 1, succeeds := fun _ => false } 1
      { conversationId := 10, newOwnerId := uuidText 3 }),
    .commit 1, .commit 0, .commit 0]

theorem overlappingCalls_checked :
    ownershipSystem.CommitsValid (StillChecked 10) ⟨sharedGroup, []⟩ overlappingCalls := by
  refine .read (.read (.read (.commit rfl ?leave (.commit rfl ?transfer (.commit rfl ?aborted trivial)))))
  case leave =>
    intro _ _
    exact ⟨_, rfl, nofun⟩
  case transfer =>
    intro _ _
    exact ⟨⟨_, rfl, rfl, rfl⟩, _, rfl, rfl⟩
  case aborted =>
    intro _ committed
    cases committed

theorem overlappingCalls_keep_owner :
    ∃ successor,
      ownersOf ((overlappingCalls.take 6).foldl ownershipSystem.advance ⟨sharedGroup, []⟩).state 10 =
        [successor] ∧ successor.softDeletedAt = none :=
  owner_kept_while_checks_hold sharedGroup 10 { conversationId := 10, userId := 1, role := .owner, createdAt := 0 }
    (by decide) (by decide) rfl overlappingCalls overlappingCalls_checked 6

/-- Two transfers that both read before either commits leave the group with two owners. -/
theorem racing_transfers_leave_two_owners :
    (ownersOf sharedGroup 10).map (fun row => (row.userId, row.softDeletedAt)) = [(1, none)] ∧
      let progress := [.read (transferTo 2), .read (transferTo 3), .commit 0, .commit 0].foldl
        ownershipSystem.advance ⟨sharedGroup, []⟩
      progress.pending.length = 0 ∧
        (ownersOf progress.state 10).map (fun row => (row.userId, row.softDeletedAt)) =
          [(2, none), (3, none)] := by
  decide

end Messinger
