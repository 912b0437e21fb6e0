import Mathlib.Data.Finset.Card
import Messinger.Proof.InvitationRuns

namespace Messinger
open Library ConversationMemberRepository ConversationRepository GroupInvitationRepository
  ConversationService
section Run
variable (start : Store) (actions : List (Env × GroupCall)) (conversationId userId : Uuid)

/-- A join uses an invitation that is unexpired, not rejected, and newer than every departure. -/
structure Consumes (join invitation : Nat) : Prop where
  earlier : invitation < join
  created : invitesAt start actions conversationId userId invitation = true
  unexpired : ∀ accept invite, actions[join]? = some accept → actions[invitation]? = some invite →
    isAfter accept.1.now (addHours (jsDate invite.1.now) 24) = false
  standing : ∀ position, invitation < position → position < join →
    rejectsAt start actions conversationId userId position = false
  renewed : ∀ position < join, departsAt start actions conversationId userId position = true →
    position < invitation

/-- Each join of the user uses its own invitation, so joins never outnumber invitations. -/
structure JoinsAreFresh : Prop where
  consumed : ∃ consume : Nat → Nat,
    (∀ join, joinsAt start actions conversationId userId join = true →
      Consumes start actions conversationId userId join (consume join)) ∧
    ∀ first second, joinsAt start actions conversationId userId first = true →
      joinsAt start actions conversationId userId second = true →
      consume first = consume second → first = second
  bounded : ∀ count, ((Finset.range count).filter fun position =>
      joinsAt start actions conversationId userId position = true).card ≤
    ((Finset.range count).filter fun position =>
      invitesAt start actions conversationId userId position = true).card

/-- Before a join, some row for the user is pending and unexpired and was not there when the user
last left or was removed. -/
def FindsPendingInvitation : Prop :=
  ∀ join env, actions[join]? = some (env, .acceptGroupInvitation conversationId userId) →
    joinsAt start actions conversationId userId join = true →
    ∃ invitation ∈ (storeAt start actions join).invitations,
      ofPair conversationId userId invitation = true ∧ invitation.status = .pending ∧
        isAfter env.now invitation.expiresAt = false ∧
        ∀ position < join, departsAt start actions conversationId userId position = true →
          ∀ row ∈ (storeAt start actions position).invitations, row.id ≠ invitation.id

variable {start actions conversationId userId}

/-- A pending row that is newer than every departure can be consumed by the join that finds it. -/
theorem consumes_of_pending {join position : Nat} {invitation : GroupInvitation} {env : Env}
    (made : CreatedAt start actions position join invitation)
    (action : actions[join]? = some (env, .acceptGroupInvitation conversationId userId))
    (pair : ofPair conversationId userId invitation = true)
    (unexpired : isAfter env.now invitation.expiresAt = false)
    (renewed : ∀ departure < join, departsAt start actions conversationId userId departure = true →
      ∀ row ∈ (storeAt start actions departure).invitations, row.id ≠ invitation.id) :
    Consumes start actions conversationId userId join position := by
  obtain ⟨inviteEnv, actorId, dto, invite, accepted, equal⟩ := made.created
  have pending : invitation.status = .pending := by rw [equal]; rfl
  have targets := pair
  rw [equal] at targets
  unfold ofPair newInvitation at targets
  constructor
  · exact made.earlier
  · unfold invitesAt
    rw [invite]
    simp only [accepted, Bool.and_true]
    exact targets
  · intro accept call atJoin atPosition
    rw [action] at atJoin
    rw [invite] at atPosition
    cases atJoin
    cases atPosition
    rw [equal] at unexpired
    exact unexpired
  · intro between after before
    by_contra rejects
    rw [Bool.not_eq_false] at rejects
    unfold rejectsAt at rejects
    split at rejects
    · rename_i rejectEnv group target atBetween
      simp only [Bool.and_eq_true, beq_iff_eq] at rejects
      obtain ⟨⟨same, user⟩, done⟩ := rejects
      subst same user
      have present := made.present (between + 1) (Nat.lt_succ_of_lt after) before
      unfold storeAt at present
      rw [stateAt_succ runGroupCall atBetween] at present
      have rejected := rejected_of_isOk _ rejectEnv group target done invitation present pair
      rw [pending] at rejected
      cases rejected
    · cases rejects
  · intro departure before departs
    by_contra later
    have order : position ≤ departure := Nat.le_of_not_lt later
    obtain sooner | same := Nat.lt_or_eq_of_le order
    · exact renewed departure before departs invitation
        (made.present departure sooner (Nat.le_of_lt before)) rfl
    · rw [← same, departsAt, existsMember_invites start actions conversationId userId invite] at departs
      simp at departs

/-- While every join finds a pending and unexpired invitation that is newer than the user's last
departure, every join uses an invitation of its own. -/
theorem joins_fresh_of_pending (users : List User) (pendingUploads : List PendingUpload)
    (bucket : List StorageKey) (nextId : Uuid) (actions : List (Env × GroupCall))
    (conversationId userId : Uuid)
    (finds : FindsPendingInvitation (emptyStore users pendingUploads bucket nextId) actions
      conversationId userId) :
    JoinsAreFresh (emptyStore users pendingUploads bucket nextId) actions conversationId userId := by
  let start := emptyStore users pendingUploads bucket nextId
  have origins : ∀ join, joinsAt start actions conversationId userId join = true →
      ∃ position invitation, CreatedAt start actions position join invitation ∧
        Consumes start actions conversationId userId join position ∧
        ∀ departure < join, departsAt start actions conversationId userId departure = true →
          ∀ row ∈ (storeAt start actions departure).invitations, row.id ≠ invitation.id := by
    intro join joins
    obtain ⟨⟨env, action⟩, -, -⟩ := joinsAt_spec start actions conversationId userId joins
    obtain ⟨invitation, present, pair, pending, unexpired, renewed⟩ := finds join env action joins
    have inside : join < actions.length := (List.getElem?_eq_some_iff.mp action).1
    obtain ⟨position, made⟩ :=
      pending_created start actions rfl join (Nat.le_of_lt inside) invitation present pending
    exact ⟨position, invitation, made, consumes_of_pending made action pair unexpired renewed, renewed⟩
  choose! consume invitation made consumes renewed using origins
  have apart : ∀ first second, joinsAt start actions conversationId userId first = true →
      joinsAt start actions conversationId userId second = true → first < second →
      consume first ≠ consume second := by
    intro first second joinsFirst joinsSecond order same
    obtain ⟨-, -, active⟩ := joinsAt_spec start actions conversationId userId joinsFirst
    obtain ⟨-, gone, -⟩ := joinsAt_spec start actions conversationId userId joinsSecond
    have different : first + 1 ≠ second := by
      intro equal
      rw [equal, gone] at active
      cases active
    obtain ⟨departure, after, before, departs⟩ := departs_between start actions conversationId userId
      (Nat.lt_of_le_of_ne order different) active gone
    refine renewed second joinsSecond departure before departs (invitation second joinsSecond) ?_ rfl
    apply (made second joinsSecond).present departure _ (Nat.le_of_lt before)
    rw [← same]
    exact Nat.lt_trans (made first joinsFirst).earlier after
  have injective : ∀ first second, joinsAt start actions conversationId userId first = true →
      joinsAt start actions conversationId userId second = true →
      consume first = consume second → first = second := by
    intro first second joinsFirst joinsSecond same
    obtain sooner | equal | later := Nat.lt_trichotomy first second
    · exact absurd same (apart first second joinsFirst joinsSecond sooner)
    · exact equal
    · exact absurd same.symm (apart second first joinsSecond joinsFirst later)
  refine ⟨⟨consume, consumes, injective⟩, ?_⟩
  intro count
  apply Finset.card_le_card_of_injOn consume
  · intro join inside
    simp only [Finset.coe_filter, Finset.mem_range, Set.mem_ofPred_eq] at inside ⊢
    exact ⟨Nat.lt_trans (consumes join inside.2).earlier inside.1, (consumes join inside.2).created⟩
  · intro first inFirst second inSecond same
    simp only [Finset.coe_filter, Finset.mem_range, Set.mem_ofPred_eq] at inFirst inSecond
    exact injective first second inFirst.2 inSecond.2 same

end Run

/-- Two users exist before the run. -/
def twoUsers : List User := [1, 2].map fun id => { id, role := .user, createdAt := 0 }

/-- User 1 creates group 10 and invites user 2, who accepts. -/
def joiningRun : List (Env × GroupCall) :=
  [({ now := 1000000 }, .createGroup 1 { name := "group" }),
   ({ now := 2000000 }, .validateGroupInvitation 1 { conversationId := 10, targetUserId := uuidText 2 }),
   ({ now := 3000000 }, .acceptGroupInvitation 10 2)]

/-- The join of the first run uses the one invitation. -/
theorem joins_fresh_of_joiningRun : JoinsAreFresh (emptyStore twoUsers [] [] 10) joiningRun 10 2 := by
  apply joins_fresh_of_pending
  intro join env action joins
  match join, action, joins with
  | 0, action, _ => cases action
  | 1, action, _ => cases action
  | 2, action, _ =>
      cases action
      refine ⟨newInvitation 2000000 10 1 2 12, by decide, rfl, rfl, by decide, ?_⟩
      intro position before departs
      match position, before, departs with
      | 0, _, departs => exact absurd departs (by decide)
      | 1, _, departs => exact absurd departs (by decide)
  | _ + 3, action, _ => cases action

/-- User 1 then removes user 2, who accepts the same invitation again. -/
def rejoiningRun : List (Env × GroupCall) :=
  joiningRun ++
    [({ now := 4000000 }, .removeGroupMember 1 { conversationId := 10, targetUserId := uuidText 2 }),
     ({ now := 5000000 }, .acceptGroupInvitation 10 2)]

/-- The removed user comes back without a new invitation. -/
theorem removed_member_rejoins :
    ¬ JoinsAreFresh (emptyStore twoUsers [] [] 10) rejoiningRun 10 2 := by
  intro fresh
  have bounded := fresh.bounded 5
  revert bounded
  decide

end Messinger
