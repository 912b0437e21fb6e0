import Messinger.Library.Statuses
import Messinger.Proof.EventReplay

namespace Messinger
open Library ConversationMemberRepository GroupInvitationRepository ConversationService

/-- A pending invitation may take any status, and any other status stays. -/
def MayBecome (first second : GroupInvitationStatus) : Prop := first = .pending ∨ second = first

def InvitationsSettle (store next : Store) : Prop :=
  StatusesFollow GroupInvitation.id (·.status) MayBecome store.invitations next.invitations

/-- The rule holds of the status of every invitation of the pair. -/
def PairHas (rule : GroupInvitationStatus → Prop) (conversationId targetId : Uuid) (store : Store) : Prop :=
  ∀ id invitation, lookup GroupInvitation.id id store.invitations = some invitation →
    ofPair conversationId targetId invitation = true → rule invitation.status

/-- The invitation takes the status between the two stores. -/
def Takes (status : GroupInvitationStatus) (store next : Store) (invitation : GroupInvitation) : Prop :=
  ∃ id after, lookup GroupInvitation.id id store.invitations = some invitation ∧ invitation.status ≠ status ∧
    lookup GroupInvitation.id id next.invitations = some after ∧ after.status = status

/-- An invitation starts as PENDING. A call that sets ACCEPTED makes the target an active member, a call that
sets EXPIRED comes after `expiresAt`, and a successful acceptance leaves no invitation of its pair PENDING. -/
structure MovesInvitations (store : Store) (action : Env × GroupCall) : Prop where
  starts : ∀ id invitation, lookup GroupInvitation.id id store.invitations = none →
    lookup GroupInvitation.id id (runGroupCall store action).invitations = some invitation →
    invitation.status = .pending
  accepted : ∀ invitation, Takes .accepted store (runGroupCall store action) invitation →
    existsMember store invitation.conversationId invitation.targetId = false ∧
      existsMember (runGroupCall store action) invitation.conversationId invitation.targetId = true
  expired : ∀ invitation, Takes .expired store (runGroupCall store action) invitation →
    isAfter action.1.now invitation.expiresAt = true
  answered : ∀ conversationId userId members, action.2 = .acceptGroupInvitation conversationId userId →
    (acceptGroupInvitation action.1 conversationId userId store).1 = .ok members →
    PairHas (· ≠ .pending) conversationId userId (runGroupCall store action)

/-- Along the run each invitation settles once, and each call moves the invitations as it may. -/
structure InvitationsLiveOnce (start : Store) (actions : List (Env × GroupCall)) : Prop where
  settle : ∀ earlier later, earlier ≤ later →
    InvitationsSettle (stateAt runGroupCall start actions earlier) (stateAt runGroupCall start actions later)
  moves : Meets runGroupCall MovesInvitations start actions

/-- An acceptance that reads an expired invitation finds all invitations of the pair ACCEPTED, one that inserts
a row finds them PENDING or ACCEPTED, and one that restores a row finds none PENDING. -/
def AcceptsOpen (now : Nat) (rows : AcceptRows) (conversationId userId : Uuid) (store : Store) : Prop :=
  if isAfter now rows.invitation.expiresAt then PairHas (· = .accepted) conversationId userId store
  else match rows.member with
    | none => store.hasUser userId = true →
        PairHas (fun status => MayBecome status .accepted) conversationId userId store
    | some member => member.softDeletedAt.isSome = true → PairHas (· ≠ .pending) conversationId userId store

/-- A rejection that reads an expired invitation finds all invitations of the pair ACCEPTED, and any other
finds them PENDING or REJECTED. -/
def RejectsOpen (now : Nat) (invitation : GroupInvitation) (conversationId userId : Uuid) (store : Store) : Prop :=
  if isAfter now invitation.expiresAt then PairHas (· = .accepted) conversationId userId store
  else PairHas (fun status => MayBecome status .rejected) conversationId userId store

/-- Every answer that passes its checks and is committed finds the invitations of its pair open for it. -/
def FindsOpen (store : Store) (action : Env × GroupCall) : Prop :=
  match action.2 with
  | .acceptGroupInvitation conversationId userId => ∀ rows,
      acceptGroupInvitationChecks action.1.scan store conversationId userId = .ok rows →
      action.1.succeeds 0 = true → AcceptsOpen action.1.now rows conversationId userId store
  | .rejectGroupInvitation conversationId userId => ∀ invitation,
      findOne action.1.scan store conversationId userId = some invitation → action.1.succeeds 0 = true →
      RejectsOpen action.1.now invitation conversationId userId store
  | .createGroup _ _ => True
  | .validateGroupInvitation _ _ => True
  | .leaveGroup _ _ => True
  | .removeGroupMember _ _ => True
  | .transferGroupOwnership _ _ => True

instance (first second : GroupInvitationStatus) : Decidable (MayBecome first second) :=
  inferInstanceAs (Decidable (_ ∨ _))

theorem MayBecome.refl (status : GroupInvitationStatus) : MayBecome status status := .inr rfl

theorem MayBecome.trans (first second third : GroupInvitationStatus) (one : MayBecome first second)
    (two : MayBecome second third) : MayBecome first third := by
  obtain pending | same := one
  · exact .inl pending
  · obtain pending | kept := two
    · exact .inl (same.symm.trans pending)
    · exact .inr (kept.trans same)

section Step
variable {store : Store} {action : Env × GroupCall}

theorem InvitationsSettle.of_same {next : Store} (same : next.invitations = store.invitations) :
    InvitationsSettle store next := by
  unfold InvitationsSettle
  rw [same]
  exact .refl _ _ MayBecome.refl _

theorem not_takes_of_same {next : Store} (same : next.invitations = store.invitations)
    {status : GroupInvitationStatus} {invitation : GroupInvitation} : ¬ Takes status store next invitation := by
  rintro ⟨id, after, before, different, later, set⟩
  rw [same, before] at later
  cases later
  exact different set

/-- A call that leaves the invitations moves them well when it accepts none of a pair with pending ones. -/
theorem movesInvitations_of_same (same : (runGroupCall store action).invitations = store.invitations)
    (answered : ∀ conversationId userId members, action.2 = .acceptGroupInvitation conversationId userId →
      (acceptGroupInvitation action.1 conversationId userId store).1 = .ok members →
      PairHas (· ≠ .pending) conversationId userId store) : MovesInvitations store action where
  starts id invitation missing present := by
    rw [same, missing] at present
    cases present
  accepted _ takes := absurd takes (not_takes_of_same same)
  expired _ takes := absurd takes (not_takes_of_same same)
  answered conversationId userId members call done := by
    unfold PairHas
    rw [same]
    exact answered conversationId userId members call done

theorem lookup_setStatus (value : GroupInvitationStatus) (conversationId userId id : Uuid) (store : Store) :
    lookup GroupInvitation.id id (setStatus value conversationId userId store).invitations =
      (lookup GroupInvitation.id id store.invitations).map fun invitation =>
        if ofPair conversationId userId invitation then { invitation with status := value } else invitation := by
  apply lookup_updateWhere
  exact fun _ => rfl

theorem settles_setStatus_iff {value : GroupInvitationStatus} {conversationId userId : Uuid} {next : Store}
    (written : next.invitations = (setStatus value conversationId userId store).invitations) :
    InvitationsSettle store next ↔ PairHas (fun status => MayBecome status value) conversationId userId store := by
  unfold InvitationsSettle
  rw [written]
  apply statusesFollow_updateWhere_iff _ _ MayBecome.refl <;> exact fun _ => rfl

/-- The rows of the pair that have another status take the written one. -/
theorem takes_setStatus_iff {value status : GroupInvitationStatus} {conversationId userId : Uuid} {next : Store}
    (written : next.invitations = (setStatus value conversationId userId store).invitations)
    {invitation : GroupInvitation} :
    Takes status store next invitation ↔ status = value ∧ invitation.status ≠ value ∧
      ofPair conversationId userId invitation = true ∧
      ∃ id, lookup GroupInvitation.id id store.invitations = some invitation := by
  unfold Takes
  rw [written]
  simp only [lookup_setStatus]
  constructor
  · rintro ⟨id, after, before, different, later, set⟩
    rw [before, Option.map_some] at later
    split at later
    · next pair =>
        cases later
        have same : value = status := set
        subst same
        exact ⟨rfl, different, pair, id, before⟩
    · cases later
      exact absurd set different
  · rintro ⟨rfl, different, pair, id, before⟩
    exact ⟨id, _, before, different, by rw [before, Option.map_some, if_pos pair], rfl⟩

/-- A call that sets one status on a pair moves the invitations well when an acceptance comes with a join. -/
theorem movesInvitations_of_setStatus {value : GroupInvitationStatus} {conversationId userId : Uuid}
    (written : (runGroupCall store action).invitations = (setStatus value conversationId userId store).invitations)
    (answer : value = .accepted ∨ value = .rejected)
    (call : ∀ other target, action.2 = .acceptGroupInvitation other target →
      other = conversationId ∧ target = userId)
    (joins : value = .accepted → ∀ id invitation,
      lookup GroupInvitation.id id store.invitations = some invitation →
      ofPair conversationId userId invitation = true → invitation.status ≠ .accepted →
      existsMember store conversationId userId = false ∧
        existsMember (runGroupCall store action) conversationId userId = true) :
    MovesInvitations store action where
  starts id invitation missing present := by
    rw [written, lookup_setStatus, missing] at present
    cases present
  accepted invitation takes := by
    obtain ⟨same, different, pair, id, before⟩ := (takes_setStatus_iff written).mp takes
    have placed := pair
    unfold ofPair at placed
    rw [Bool.and_eq_true, beq_iff_eq, beq_iff_eq] at placed
    rw [placed.1, placed.2]
    exact joins same.symm id invitation before pair (same ▸ different)
  expired invitation takes := by
    obtain ⟨same, -⟩ := (takes_setStatus_iff written).mp takes
    obtain accepted | rejected := answer
    · rw [accepted] at same
      cases same
    · rw [rejected] at same
      cases same
  answered other target members accepts done := by
    obtain ⟨rfl, rfl⟩ := call other target accepts
    intro id invitation present pair pending
    rw [written, lookup_setStatus] at present
    obtain ⟨before, -, same⟩ := Option.map_eq_some_iff.mp present
    split at same
    · rw [← same] at pending
      obtain rfl | rfl := answer <;> cases pending
    · next other =>
        rw [same] at other
        exact other pair

/-- Setting ACCEPTED without a join needs a pair whose invitations are all ACCEPTED. -/
theorem expires_iff {conversationId userId : Uuid}
    (written : (runGroupCall store action).invitations =
      (markInvitationAsExpired conversationId userId store).invitations)
    (members : existsMember (runGroupCall store action) = existsMember store)
    (call : ∀ other target, action.2 = .acceptGroupInvitation other target →
      other = conversationId ∧ target = userId) :
    InvitationsSettle store (runGroupCall store action) ∧ MovesInvitations store action ↔
      PairHas (· = .accepted) conversationId userId store := by
  constructor
  · rintro ⟨-, moves⟩ id invitation present pair
    by_contra different
    have takes := (takes_setStatus_iff written).mpr ⟨rfl, different, pair, id, present⟩
    obtain ⟨absent, joined⟩ := moves.accepted invitation takes
    rw [members, absent] at joined
    cases joined
  · intro accepted
    refine ⟨(settles_setStatus_iff written).mpr ?_, movesInvitations_of_setStatus written (.inl rfl) call ?_⟩
    · exact fun id invitation present pair => .inr (accepted id invitation present pair).symm
    · exact fun _ id invitation present pair different =>
        absurd (accepted id invitation present pair) different

theorem existsMember_congr {next : Store} (same : next.members = store.members) :
    existsMember next = existsMember store := by
  unfold existsMember
  rw [same]

theorem accepts_call (env : Env) (conversationId userId other target : Uuid)
    (call : (env, GroupCall.acceptGroupInvitation conversationId userId).2 = .acceptGroupInvitation other target) :
    other = conversationId ∧ target = userId := by
  cases call
  exact ⟨rfl, rfl⟩

section Accept
variable {env : Env} {conversationId userId : Uuid} {members : List ConversationMember}

/-- An acceptance that answers an exception and writes nothing is in order. -/
theorem moves_of_refusal {exception : Exception}
    (refused : acceptGroupInvitation env conversationId userId store = (.error exception, store)) :
    InvitationsSettle store (runGroupCall store (env, .acceptGroupInvitation conversationId userId)) ∧
      MovesInvitations store (env, .acceptGroupInvitation conversationId userId) := by
  have same : (runGroupCall store (env, .acceptGroupInvitation conversationId userId)).invitations =
    store.invitations := congrArg (fun outcome => outcome.2.invitations) refused
  refine ⟨.of_same same, movesInvitations_of_same same ?_⟩
  intro other target members accepts done
  obtain ⟨rfl, rfl⟩ := accepts_call env conversationId userId other target accepts
  rw [refused] at done
  cases done

/-- An acceptance that inserts a row sets ACCEPTED together with its join. -/
theorem joins_iff (missing : findMember store conversationId userId = none)
    (joins : acceptGroupInvitation env conversationId userId store =
      (.ok members, joined env.now conversationId userId store)) :
    InvitationsSettle store (runGroupCall store (env, .acceptGroupInvitation conversationId userId)) ∧
        MovesInvitations store (env, .acceptGroupInvitation conversationId userId) ↔
      PairHas (fun status => MayBecome status .accepted) conversationId userId store := by
  have next : runGroupCall store (env, .acceptGroupInvitation conversationId userId) =
    joined env.now conversationId userId store := congrArg Prod.snd joins
  have written : (runGroupCall store (env, .acceptGroupInvitation conversationId userId)).invitations =
      (setStatus .accepted conversationId userId store).invitations := by
    rw [next]
    rfl
  rw [settles_setStatus_iff written]
  refine and_iff_left (movesInvitations_of_setStatus written (.inl rfl) (accepts_call env _ _) ?_)
  intro _ id invitation _ _ _
  constructor
  · unfold existsMember
    rw [List.any_eq_false]
    intro row inside selected
    simp only [Bool.and_eq_true, beq_iff_eq] at selected
    exact findMember_none.mp missing row inside (by rw [ConversationMember.key, selected.1.1, selected.1.2])
  · rw [next]
    unfold existsMember
    rw [List.any_eq_true]
    exact ⟨_, List.mem_append_right _ (List.mem_singleton.mpr rfl), by simp [newRow]⟩

/-- An acceptance that restores a row leaves the pending invitations of its pair. -/
theorem restores_iff
    (restores : acceptGroupInvitation env conversationId userId store =
      (.ok members, restoreConversation env.now conversationId userId store)) :
    InvitationsSettle store (runGroupCall store (env, .acceptGroupInvitation conversationId userId)) ∧
        MovesInvitations store (env, .acceptGroupInvitation conversationId userId) ↔
      PairHas (· ≠ .pending) conversationId userId store := by
  have next : runGroupCall store (env, .acceptGroupInvitation conversationId userId) =
    restoreConversation env.now conversationId userId store := congrArg Prod.snd restores
  have same : (runGroupCall store (env, .acceptGroupInvitation conversationId userId)).invitations =
      store.invitations := by
    rw [next]
    rfl
  constructor
  · rintro ⟨-, moves⟩
    have answered := moves.answered conversationId userId members rfl (congrArg Prod.fst restores)
    unfold PairHas at answered
    rw [same] at answered
    exact answered
  · intro closed
    refine ⟨.of_same same, movesInvitations_of_same same ?_⟩
    intro other target _ accepts _
    obtain ⟨rfl, rfl⟩ := accepts_call env conversationId userId other target accepts
    exact closed

theorem accepts_iff (keys : (store.members.map ConversationMember.key).Nodup) :
    InvitationsSettle store (runGroupCall store (env, .acceptGroupInvitation conversationId userId)) ∧
        MovesInvitations store (env, .acceptGroupInvitation conversationId userId) ↔
      FindsOpen store (env, .acceptGroupInvitation conversationId userId) := by
  cases passed : acceptGroupInvitationChecks env.scan store conversationId userId with
  | error exception =>
      have refused : acceptGroupInvitation env conversationId userId store = (.error exception, store) := by
        rw [acceptGroupInvitation, passed]
        rfl
      refine iff_of_true (moves_of_refusal refused) ?_
      intro rows present
      rw [passed] at present
      cases present
  | ok rows =>
      cases commits : env.succeeds 0 with
      | false =>
          obtain ⟨exception, failed⟩ := acceptGroupInvitation_aborts conversationId userId store commits
          refine iff_of_true (moves_of_refusal failed) ?_
          intro _ _ commit
          rw [commits] at commit
          cases commit
      | true =>
          have finds : FindsOpen store (env, .acceptGroupInvitation conversationId userId) ↔
              AcceptsOpen env.now rows conversationId userId store := by
            constructor
            · exact fun finds => finds rows passed commits
            · intro finds other present _
              cases passed.symm.trans present
              exact finds
          rw [finds, AcceptsOpen]
          have written := acceptGroupInvitation_eq keys passed commits
          obtain ⟨found, -, -⟩ := acceptGroupInvitationChecks_ok passed
          by_cases late : isAfter env.now rows.invitation.expiresAt = true
          · rw [if_pos late] at written ⊢
            have next : runGroupCall store (env, .acceptGroupInvitation conversationId userId) =
              markInvitationAsExpired conversationId userId store := congrArg Prod.snd written
            refine expires_iff (congrArg Store.invitations next) (existsMember_congr ?_) (accepts_call env _ _)
            rw [next]
            rfl
          · rw [if_neg late] at written ⊢
            cases row : rows.member with
            | none =>
                simp only [row] at written ⊢
                by_cases user : store.hasUser userId = true
                · rw [if_pos user] at written
                  rw [forall_prop_of_true user]
                  exact joins_iff (found.symm.trans row) written
                · rw [if_neg user] at written
                  exact iff_of_true (moves_of_refusal written) fun present => absurd present user
            | some member =>
                simp only [row] at written ⊢
                by_cases deleted : member.softDeletedAt.isSome = true
                · rw [if_pos deleted] at written
                  rw [forall_prop_of_true deleted]
                  exact restores_iff written
                · rw [if_neg deleted] at written
                  exact iff_of_true (moves_of_refusal written) fun present => absurd present deleted

end Accept

/-- No call but an acceptance has an answer that the invitations must follow. -/
theorem moves_of_same {env : Env} {call : GroupCall}
    (other : ∀ conversationId userId, call ≠ .acceptGroupInvitation conversationId userId)
    (same : (runGroupCall store (env, call)).invitations = store.invitations) :
    InvitationsSettle store (runGroupCall store (env, call)) ∧ MovesInvitations store (env, call) := by
  refine ⟨.of_same same, movesInvitations_of_same same ?_⟩
  exact fun conversationId userId _ accepts _ => absurd accepts (other conversationId userId)

/-- Inviting adds a row that is still PENDING. -/
theorem moves_of_append {env : Env} {call : GroupCall}
    (other : ∀ conversationId userId, call ≠ .acceptGroupInvitation conversationId userId)
    {row : GroupInvitation} (written : (runGroupCall store (env, call)).invitations = store.invitations ++ [row])
    (pending : row.status = .pending) :
    InvitationsSettle store (runGroupCall store (env, call)) ∧ MovesInvitations store (env, call) := by
  have kept {id : Uuid} {invitation : GroupInvitation}
      (before : lookup GroupInvitation.id id store.invitations = some invitation) :
      lookup GroupInvitation.id id (runGroupCall store (env, call)).invitations = some invitation := by
    rw [written, lookup_append, before, Option.some_or]
  have stays {status : GroupInvitationStatus} {invitation : GroupInvitation} :
      ¬ Takes status store (runGroupCall store (env, call)) invitation := by
    rintro ⟨id, after, before, different, later, set⟩
    rw [kept before] at later
    cases later
    exact different set
  refine ⟨?_, ?_, fun _ takes => absurd takes stays, fun _ takes => absurd takes stays,
    fun conversationId userId _ accepts _ => absurd accepts (other conversationId userId)⟩
  · unfold InvitationsSettle
    rw [written]
    exact .append _ _ MayBecome.refl _ _
  · intro id invitation missing present
    rw [written, lookup_append, missing, Option.none_or] at present
    rw [List.mem_singleton.mp (lookup_mem GroupInvitation.id present).1]
    exact pending

theorem reject_ne (conversationId userId other target : Uuid) :
    GroupCall.rejectGroupInvitation conversationId userId ≠ .acceptGroupInvitation other target := by
  intro same
  cases same

theorem rejects_iff {env : Env} {conversationId userId : Uuid} :
    InvitationsSettle store (runGroupCall store (env, .rejectGroupInvitation conversationId userId)) ∧
        MovesInvitations store (env, .rejectGroupInvitation conversationId userId) ↔
      FindsOpen store (env, .rejectGroupInvitation conversationId userId) := by
  let next := runGroupCall store (env, .rejectGroupInvitation conversationId userId)
  have call : next = (rejectGroupInvitation env conversationId userId store).2 := rfl
  unfold rejectGroupInvitation at call
  cases found : findOne env.scan store conversationId userId with
  | none =>
      rw [found] at call
      refine iff_of_true (moves_of_same (reject_ne conversationId userId) (congrArg Store.invitations call)) ?_
      intro invitation present
      rw [found] at present
      cases present
  | some invitation =>
      simp only [found] at call
      cases commits : env.succeeds 0 with
      | false =>
          have same : next = store := by
            rw [call, expireInvitation, commits]
            split <;> rfl
          refine iff_of_true (moves_of_same (reject_ne conversationId userId) (congrArg Store.invitations same)) ?_
          intro _ _ commit
          rw [commits] at commit
          cases commit
      | true =>
          have finds : FindsOpen store (env, .rejectGroupInvitation conversationId userId) ↔
              RejectsOpen env.now invitation conversationId userId store := by
            constructor
            · exact fun finds => finds invitation found commits
            · intro finds other present _
              cases found.symm.trans present
              exact finds
          rw [finds, RejectsOpen]
          by_cases late : isAfter env.now invitation.expiresAt = true
          · rw [if_pos late, expireInvitation, commits, if_pos rfl] at call
            rw [if_pos late]
            refine expires_iff (congrArg Store.invitations call) (existsMember_congr ?_)
              fun other target same => absurd same (reject_ne conversationId userId other target)
            change next.members = store.members
            rw [call]
            rfl
          · rw [if_neg late, commits] at call
            rw [if_neg late]
            have written : next.invitations = (setStatus .rejected conversationId userId store).invitations :=
              congrArg Store.invitations call
            rw [settles_setStatus_iff written]
            refine and_iff_left (movesInvitations_of_setStatus written (.inr rfl) ?_ ?_)
            · exact fun other target same => absurd same (reject_ne conversationId userId other target)
            · intro accepted
              cases accepted

/-- One call keeps the life cycle exactly when it finds the invitations of its pair open. -/
theorem moves_iff (keys : (store.members.map ConversationMember.key).Nodup) :
    InvitationsSettle store (runGroupCall store action) ∧ MovesInvitations store action ↔
      FindsOpen store action := by
  obtain ⟨env, call⟩ := action
  cases call with
  | acceptGroupInvitation conversationId userId => exact accepts_iff keys
  | rejectGroupInvitation conversationId userId => exact rejects_iff
  | validateGroupInvitation actorId dto =>
      refine iff_of_true ?_ trivial
      obtain ⟨exception, failed⟩ | ⟨conversation, -, -, -, equal⟩ := validateGroupInvitation_cases env actorId dto store
      · exact moves_of_same (fun _ _ => nofun) (congrArg (fun outcome => outcome.2.invitations) failed)
      · have written : (runGroupCall store (env, .validateGroupInvitation actorId dto)).invitations =
          store.invitations ++ [_] := congrArg (fun outcome => outcome.2.invitations) equal
        exact moves_of_append (fun _ _ => nofun) written rfl
  | createGroup ownerId dto =>
      refine iff_of_true (moves_of_same (fun _ _ => nofun) ?_) trivial
      obtain ⟨exception, failed⟩ | ⟨-, -, done⟩ := createGroup_cases env ownerId dto store
      · exact congrArg (fun outcome => outcome.2.invitations) failed
      · exact congrArg (fun outcome => outcome.2.invitations) done
  | leaveGroup userId conversationId =>
      refine iff_of_true (moves_of_same (fun _ _ => nofun) ?_) trivial
      obtain ⟨exception, failed⟩ | ⟨member, -, -, done⟩ := leaveGroup_cases env userId conversationId store
      · exact congrArg (fun outcome => outcome.2.invitations) failed
      · exact congrArg (fun outcome => outcome.2.invitations) done
  | removeGroupMember userId dto =>
      refine iff_of_true (moves_of_same (fun _ _ => nofun) ?_) trivial
      obtain ⟨exception, failed⟩ | ⟨actor, target, -, -, -, -, done⟩ := removeGroupMember_cases env userId dto store
      · exact congrArg (fun outcome => outcome.2.invitations) failed
      · exact congrArg (fun outcome => outcome.2.invitations) done
  | transferGroupOwnership prevOwner dto =>
      refine iff_of_true (moves_of_same (fun _ _ => nofun) ?_) trivial
      obtain ⟨exception, failed⟩ | ⟨owner, newOwner, -, -, -, -, -, done⟩ :=
        transferGroupOwnership_cases env prevOwner dto store
      · exact congrArg (fun outcome => outcome.2.invitations) failed
      · exact congrArg (fun outcome => outcome.2.invitations) done

end Step

/-- In every run each invitation settles once and moves as its answers say, exactly when every answer finds the
invitations of its pair open. -/
theorem invitations_live_once_iff (users : List User) (pendingUploads : List PendingUpload)
    (bucket : List StorageKey) (nextId : Uuid) (actions : List (Env × GroupCall)) :
    InvitationsLiveOnce (emptyStore users pendingUploads bucket nextId) actions ↔
      Meets runGroupCall FindsOpen (emptyStore users pendingUploads bucket nextId) actions := by
  let start := emptyStore users pendingUploads bucket nextId
  have governed (position : Nat) : Governed (fun roster => ∃ owner, SoleHolder roster owner)
      (stateAt runGroupCall start actions position) :=
    stateAt_persists runGroupCall _ (fun _ action held => held.runGroup action) (Nat.zero_le position)
      (governed_emptyStore soleHolder_office users pendingUploads bucket nextId)
  have settles := stateAt_related_iff runGroupCall InvitationsSettle (fun _ => .of_same rfl)
    (fun _ _ _ => StatusesFollow.trans _ _ MayBecome.trans) start actions
  constructor
  · rintro ⟨settle, moves⟩ position action present
    exact (moves_iff (governed position).memberKeys).mp
      ⟨settles.mp settle position action present, moves position action present⟩
  · intro finds
    have both (position : Nat) (action : Env × GroupCall) (present : actions[position]? = some action) :=
      (moves_iff (governed position).memberKeys).mpr (finds position action present)
    exact ⟨settles.mpr fun position action present => (both position action present).1,
      fun position action present => (both position action present).2⟩

/-- User 2 rejects the invitation that it has accepted. -/
def lateRejection : List (Env × GroupCall) := firstJoin ++ [({ now := 4000000 }, .rejectGroupInvitation 10 2)]

/-- User 2 accepts the invitation after its last day. -/
def lateAcceptance : List (Env × GroupCall) := firstJoin.take 2 ++
  [({ now := 90000000000 }, .acceptGroupInvitation 10 2)]

/-- This is the invitation of user 2 in these runs. -/
def firstInvitation : GroupInvitation :=
  { id := 12, conversationId := 10, actorId := 1, targetId := 2, expiresAt := 86402000000, createdAt := 2000000 }

/-- The rejection overwrites ACCEPTED, the expiry sets ACCEPTED without a join, and the second join leaves its
invitation PENDING. -/
theorem invitation_life_cycle_breaks :
    ¬ InvitationsLiveOnce loggedStore lateRejection ∧ ¬ InvitationsLiveOnce loggedStore lateAcceptance ∧
      ¬ InvitationsLiveOnce loggedStore secondJoin := by
  refine ⟨?_, ?_, ?_⟩
  · intro lives
    obtain ⟨after, stored, may⟩ := lives.settle 3 4 (by decide) 12 { firstInvitation with status := .accepted }
      (by decide)
    have rejected : lookup GroupInvitation.id 12 (stateAt runGroupCall loggedStore lateRejection 4).invitations =
      some { firstInvitation with status := .rejected } := by decide
    cases rejected.symm.trans stored
    exact absurd may (by decide)
  · intro lives
    have joins := (lives.moves 2 ({ now := 90000000000 }, .acceptGroupInvitation 10 2) rfl).accepted firstInvitation
      ⟨12, { firstInvitation with status := .accepted }, by decide, by decide, by decide, rfl⟩
    exact absurd joins.2 (by decide)
  · intro lives
    have answered := (lives.moves 5 ({ now := 6000000 }, .acceptGroupInvitation 10 2) rfl).answered 10 2
      (ConversationRepository.getConversationMembers (stateAt runGroupCall loggedStore secondJoin 5) 10) rfl (by decide)
    exact answered 15 { firstInvitation with id := 15, expiresAt := 86405000000, createdAt := 5000000 } (by decide)
      (by decide) rfl

end Messinger
