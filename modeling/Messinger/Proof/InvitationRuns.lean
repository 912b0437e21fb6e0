import Messinger.Library.Runs
import Messinger.Proof.GroupSteps

namespace Messinger
open Library ConversationMemberRepository ConversationRepository GroupInvitationRepository
  ConversationService

section Run
variable (start : Store) (actions : List (Env × GroupCall))

/-- This is the store before the call at the given position of the run. -/
def storeAt (position : Nat) : Store := stateAt runGroupCall start actions position

variable (conversationId userId : Uuid)

/-- The call at the position accepts and turns the user into an active member. -/
def joinsAt (position : Nat) : Bool :=
  match actions[position]? with
  | some (_, .acceptGroupInvitation group target) =>
      group == conversationId && target == userId &&
        !existsMember (storeAt start actions position) conversationId userId &&
        existsMember (storeAt start actions (position + 1)) conversationId userId
  | _ => false

/-- The call at the position creates an invitation for the user. -/
def invitesAt (position : Nat) : Bool :=
  match actions[position]? with
  | some (env, .validateGroupInvitation actorId dto) =>
      dto.conversationId == conversationId && parseUuid dto.targetUserId == userId &&
        (validateGroupInvitation env actorId dto (storeAt start actions position)).1.isOk
  | _ => false

/-- The call at the position rejects the invitations of the user. -/
def rejectsAt (position : Nat) : Bool :=
  match actions[position]? with
  | some (env, .rejectGroupInvitation group target) =>
      group == conversationId && target == userId &&
        (rejectGroupInvitation env group target (storeAt start actions position)).1.isOk
  | _ => false

/-- The user leaves or is removed at the position. -/
def departsAt (position : Nat) : Bool :=
  existsMember (storeAt start actions position) conversationId userId &&
    !existsMember (storeAt start actions (position + 1)) conversationId userId

end Run

/-- Closing the invitations of a pair keeps the pending ones of the others. -/
theorem pending_of_setStatus {status : GroupInvitationStatus} (closed : status ≠ .pending)
    {conversationId userId : Uuid} {store : Store} {invitation : GroupInvitation}
    (inside : invitation ∈ (setStatus status conversationId userId store).invitations)
    (pending : invitation.status = .pending) : invitation ∈ store.invitations := by
  obtain ⟨old, present, equal⟩ := mem_updateWhere.mp inside
  split at equal
  · rw [equal] at pending
    exact absurd pending closed
  · rw [equal]
    exact present

/-- After a call, a pending invitation was there before or is the one that the call creates. -/
theorem pending_invitation_cases (store : Store) (env : Env) (call : GroupCall)
    (invitation : GroupInvitation)
    (inside : invitation ∈ (runGroupCall store (env, call)).invitations)
    (pending : invitation.status = .pending) :
    invitation ∈ store.invitations ∨
      ∃ actorId dto, call = .validateGroupInvitation actorId dto ∧
        (validateGroupInvitation env actorId dto store).1.isOk = true ∧
        invitation = newInvitation env.now dto.conversationId actorId (parseUuid dto.targetUserId)
          store.nextId := by
  have step := groupStep env call store
  generalize runGroupCall store (env, call) = next at step inside
  cases step with
  | refused | creates | restores | leaves | removes | transfers => exact .inl inside
  | invites actorId dto conversation answered =>
      obtain old | new := List.mem_append.mp inside
      · exact .inl old
      · exact .inr ⟨actorId, dto, rfl, congrArg Except.isOk answered, List.mem_singleton.mp new⟩
  | acceptsLate | joins | rejectsLate | rejects => exact .inl (pending_of_setStatus (by decide) inside pending)

/-- A successful rejection leaves no invitation of the pair pending. -/
theorem rejected_of_isOk (store : Store) (env : Env) (conversationId userId : Uuid)
    (rejected : (rejectGroupInvitation env conversationId userId store).1.isOk = true)
    (invitation : GroupInvitation)
    (inside : invitation ∈
      (rejectGroupInvitation env conversationId userId store).2.invitations)
    (pair : ofPair conversationId userId invitation = true) : invitation.status = .rejected := by
  obtain ⟨exception, failed⟩ | ⟨read, -, -, ⟨-, equal⟩ | ⟨-, equal⟩⟩ :=
    rejectGroupInvitation_cases env conversationId userId store
  · rw [failed] at rejected
    cases rejected
  · rw [equal] at rejected
    cases rejected
  · rw [equal] at inside
    obtain ⟨old, -, same⟩ := mem_updateWhere.mp inside
    split at same
    · rw [same]
    · rename_i other
      rw [← same] at other
      exact absurd pair other

section Run
variable (start : Store) (actions : List (Env × GroupCall))

/-- The row was created by a call of the run and has been there ever since. -/
structure CreatedAt (position current : Nat) (invitation : GroupInvitation) : Prop where
  earlier : position < current
  created : ∃ env actorId dto,
    actions[position]? = some (env, .validateGroupInvitation actorId dto) ∧
      (validateGroupInvitation env actorId dto (storeAt start actions position)).1.isOk = true ∧
      invitation = newInvitation env.now dto.conversationId actorId (parseUuid dto.targetUserId)
        (storeAt start actions position).nextId
  present : ∀ between, position < between → between ≤ current →
    invitation ∈ (storeAt start actions between).invitations

/-- Every pending invitation of a run goes back to the call that created it. -/
theorem pending_created (initial : start.invitations = []) (current : Nat)
    (inside : current ≤ actions.length) :
    ∀ invitation ∈ (storeAt start actions current).invitations, invitation.status = .pending →
      ∃ position, CreatedAt start actions position current invitation := by
  induction current with
  | zero =>
      intro invitation present
      change invitation ∈ start.invitations at present
      rw [initial] at present
      cases present
  | succ current ih =>
      intro invitation present pending
      have action : actions[current]? = some actions[current] := List.getElem?_eq_getElem inside
      have here := present
      unfold storeAt at here
      rw [stateAt_succ runGroupCall action] at here
      obtain old | ⟨actorId, dto, call, accepted, equal⟩ :=
        pending_invitation_cases _ actions[current].1 actions[current].2 invitation here pending
      · obtain ⟨position, made⟩ := ih (Nat.le_of_succ_le inside) invitation old pending
        refine ⟨position, Nat.lt_succ_of_lt made.earlier, made.created, ?_⟩
        intro between after before
        obtain sooner | same := Nat.lt_or_eq_of_le before
        · exact made.present between after (Nat.le_of_lt_succ sooner)
        · rw [same]
          exact present
      · refine ⟨current, Nat.lt_succ_self current, ⟨actions[current].1, actorId, dto, ?_, accepted, equal⟩, ?_⟩
        · rw [action, ← call]
        · intro between after before
          rw [Nat.le_antisymm before after]
          exact present

variable (conversationId userId : Uuid)

/-- Between two joins of one user, the user leaves or is removed. -/
theorem departs_between {first second : Nat} (order : first < second)
    (active : existsMember (storeAt start actions first) conversationId userId = true)
    (gone : existsMember (storeAt start actions second) conversationId userId = false) :
    ∃ position, first ≤ position ∧ position < second ∧
      departsAt start actions conversationId userId position = true := by
  induction second, order using Nat.le_induction with
  | base =>
      refine ⟨first, Nat.le_refl first, Nat.lt_succ_self first, ?_⟩
      rw [departsAt, active, gone]
      rfl
  | succ second later ih =>
      cases present : existsMember (storeAt start actions second) conversationId userId with
      | true =>
          refine ⟨second, Nat.le_of_succ_le later, Nat.lt_succ_self second, ?_⟩
          rw [departsAt, present, gone]
          rfl
      | false =>
          obtain ⟨position, after, before, departs⟩ := ih present
          exact ⟨position, after, Nat.lt_succ_of_lt before, departs⟩

theorem joinsAt_spec {position : Nat}
    (joins : joinsAt start actions conversationId userId position = true) :
    (∃ env, actions[position]? = some (env, .acceptGroupInvitation conversationId userId)) ∧
      existsMember (storeAt start actions position) conversationId userId = false ∧
      existsMember (storeAt start actions (position + 1)) conversationId userId = true := by
  unfold joinsAt at joins
  split at joins
  · rename_i env group target action
    simp only [Bool.and_eq_true, beq_iff_eq, Bool.not_eq_true'] at joins
    obtain ⟨⟨⟨same, user⟩, gone⟩, active⟩ := joins
    subst same user
    exact ⟨⟨env, action⟩, gone, active⟩
  · cases joins

/-- Creating an invitation changes no membership. -/
theorem existsMember_invites {position : Nat} {env : Env} {actorId : Uuid} {dto : InviteGroupMemberDto}
    (action : actions[position]? = some (env, .validateGroupInvitation actorId dto)) :
    existsMember (storeAt start actions (position + 1)) conversationId userId =
      existsMember (storeAt start actions position) conversationId userId := by
  unfold storeAt
  rw [stateAt_succ runGroupCall action]
  change existsMember (validateGroupInvitation env actorId dto _).2 _ _ = _
  obtain ⟨exception, failed⟩ | ⟨conversation, -, -, -, equal⟩ := validateGroupInvitation_cases env actorId
    dto (stateAt runGroupCall start actions position)
  · rw [failed]
  · rw [equal]
    rfl

end Run

end Messinger
