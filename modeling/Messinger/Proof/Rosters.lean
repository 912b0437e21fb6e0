import Messinger.Proof.GroupCalls
import Messinger.Proof.InvitationCalls
import Messinger.Proof.PrivateCalls

namespace Messinger
open Library ConversationMemberRepository ConversationRepository ConversationService MessageService
open Relation (ReflTransGen)

/-- Zero or more roster steps lead from one store to the other, in every conversation. -/
def RosterSteps (store next : Store) : Prop :=
  ∀ conversationId, ReflTransGen RosterStep (rosterOf store conversationId)
    (rosterOf next conversationId)

theorem RosterSteps.of_eq {store next : Store} (same : rosterOf next = rosterOf store) :
    RosterSteps store next := by
  intro conversationId
  rw [same]

/-- A write to one row is a roster step when its new entry is. -/
theorem RosterSteps.update (store : Store) (conversationId userId : Uuid)
    (change : ConversationMember → ConversationMember)
    (keeps : ∀ member, (change member).key = member.key)
    (allowed : ∀ member, findMember store conversationId userId = some member →
      RosterStep (rosterOf store conversationId)
        (Function.update (rosterOf store conversationId) userId (some (change member).entry))) :
    RosterSteps store (updateMember store conversationId userId change) := by
  intro other
  by_cases same : other = conversationId
  · subst same
    cases found : findMember store other userId with
    | none => rw [rosterOf_updateMember_none store other userId change keeps found]
    | some member =>
        rw [rosterOf_updateMember store other userId change keeps found]
        exact .single (allowed member found)
  · rw [rosterOf_updateMember_other store conversationId userId change keeps other same]

theorem entry_of_role_ne {member : ConversationMember} (ordinary : member.role ≠ .owner) :
    member.entry.holds = false := by
  unfold ConversationMember.entry
  simpa using ordinary

theorem rosterOf_eq_some {store : Store} {conversationId userId : Uuid} {member : ConversationMember}
    (found : findMember store conversationId userId = some member) :
    rosterOf store conversationId userId = some member.entry := by
  unfold rosterOf
  rw [found]
  rfl

/-- On the roster, an active member has an active entry. -/
theorem existsMember_iff {store : Store} (keys : (store.members.map ConversationMember.key).Nodup)
    {conversationId userId : Uuid} :
    existsMember store conversationId userId = true ↔
      ∃ entry, rosterOf store conversationId userId = some entry ∧ entry.active = true := by
  constructor
  · intro present
    obtain ⟨member, inside, selected⟩ := List.any_eq_true.mp present
    simp only [Bool.and_eq_true, beq_iff_eq] at selected
    obtain ⟨⟨rfl, rfl⟩, active⟩ := selected
    exact ⟨_, rosterOf_eq_some (findMember_of_mem keys inside), active⟩
  · rintro ⟨entry, listed, active⟩
    unfold rosterOf at listed
    obtain ⟨member, found, rfl⟩ := Option.map_eq_some_iff.mp listed
    obtain ⟨inside, rfl, rfl⟩ := findMember_some found
    refine List.any_eq_true.mpr ⟨member, inside, ?_⟩
    simpa [ConversationMember.entry] using active

/-- Marking the row of an ordinary member is a roster step. -/
theorem rosterSteps_mark (now : Nat) (store : Store) (conversationId userId : Uuid)
    (ordinary : ∀ member, findMember store conversationId userId = some member →
      member.role ≠ .owner) :
    RosterSteps store (markConversationAsDeleted now conversationId userId store) := by
  refine RosterSteps.update store conversationId userId _ ?_ ?_
  · exact fun _ => rfl
  intro member found
  have entry : ({ member with softDeletedAt := some (jsDate now) } : ConversationMember).entry =
      ⟨false, false⟩ := by
    unfold ConversationMember.entry
    simp [ordinary member found]
  rw [entry]
  apply RosterStep.enrol
  intro entry listed
  rw [rosterOf_eq_some found] at listed
  cases listed
  exact entry_of_role_ne (ordinary member found)

/-- Restoring a row is a roster step whatever its role. -/
theorem rosterSteps_restore (now : Nat) (store : Store) (conversationId userId : Uuid) :
    RosterSteps store (restoreConversation now conversationId userId store) := by
  refine RosterSteps.update store conversationId userId _ ?_ ?_
  · exact fun _ => rfl
  intro member found
  exact RosterStep.reactivate userId member.entry (rosterOf_eq_some found)

/-- The counters are not part of the roster. -/
theorem rosterOf_countUnread (store next : Store) (conversationId : Uuid) (targets : List Uuid)
    (members : next.members = store.members.map (countUnread conversationId targets)) :
    rosterOf next = rosterOf store := by
  funext other userId
  unfold rosterOf findMember lookup
  rw [members, List.find?_map, Option.map_map]
  rfl

/-- A first join lists the user as an active member. -/
theorem rosterOf_joined (now : Nat) (conversationId userId : Uuid) (store : Store)
    (missing : findMember store conversationId userId = none) :
    rosterOf (joined now conversationId userId store) conversationId =
      Function.update (rosterOf store conversationId) userId (some ⟨false, true⟩) := by
  let row := newRow now { conversationId, userId, role := .member }
  have same : rosterOf (joined now conversationId userId store) =
      rosterOf { store with members := store.members ++ [row] } := rosterOf_congr rfl
  rw [same]
  exact rosterOf_insert store row missing

theorem rosterOf_joined_other (now : Nat) (conversationId userId other : Uuid) (store : Store)
    (different : other ≠ conversationId) :
    rosterOf (joined now conversationId userId store) other = rosterOf store other := by
  let row := newRow now { conversationId, userId, role := .member }
  have same : rosterOf (joined now conversationId userId store) =
      rosterOf { store with members := store.members ++ [row] } := rosterOf_congr rfl
  rw [same]
  apply rosterOf_insert_other
  intro inserted inside
  rw [List.mem_singleton] at inside
  subst inside
  exact Ne.symm different

/-- A first join is a roster step. -/
theorem rosterSteps_joined (now : Nat) (conversationId userId : Uuid) (store : Store)
    (missing : findMember store conversationId userId = none) :
    RosterSteps store (joined now conversationId userId store) := by
  intro other
  by_cases same : other = conversationId
  · subst same
    rw [rosterOf_joined now other userId store missing]
    refine .single (RosterStep.enrol userId true ?_)
    intro entry listed
    unfold rosterOf at listed
    rw [missing] at listed
    cases listed
  · rw [rosterOf_joined_other now conversationId userId other store same]

/-- Leaving and removing end the membership of an ordinary member. -/
theorem rosterOf_removedFrom (now : Nat) (conversationId actorId targetUserId : Uuid)
    (eventType : ConversationEventType) (store : Store) {target : ConversationMember}
    (found : findMember store conversationId targetUserId = some target) (ordinary : target.role ≠ .owner) :
    rosterOf (removedFrom now conversationId actorId targetUserId eventType store) conversationId =
      Function.update (rosterOf store conversationId) targetUserId (some ⟨false, false⟩) := by
  let mark (member : ConversationMember) : ConversationMember :=
    { member with softDeletedAt := some (jsDate now) }
  have entry : (mark target).entry = ⟨false, false⟩ := by
    simp [mark, ConversationMember.entry, ordinary]
  rw [removedFrom, rosterOf_congr (Store.logEvent_members _ _), ← entry]
  exact rosterOf_updateMember store conversationId targetUserId mark (fun _ => rfl) found

/-- A removal on another conversation keeps the roster. -/
theorem rosterOf_removedFrom_other (now : Nat) (conversationId actorId targetUserId other : Uuid)
    (eventType : ConversationEventType) (store : Store) (different : other ≠ conversationId) :
    rosterOf (removedFrom now conversationId actorId targetUserId eventType store) other =
      rosterOf store other := by
  unfold removedFrom
  rw [rosterOf_congr (Store.logEvent_members _ _)]
  apply rosterOf_updateMember_other _ _ _ _ _ _ different
  exact fun _ => rfl

theorem rosterOf_transferred_other (now : Nat) (prevOwner newOwner conversationId other : Uuid)
    (store : Store) (different : other ≠ conversationId) :
    rosterOf (transferred now prevOwner newOwner conversationId store) other = rosterOf store other := by
  unfold transferred
  rw [rosterOf_congr (Store.logEvent_members _ _)]
  unfold updateRole
  rw [rosterOf_updateMember_other, rosterOf_updateMember_other]
  · exact fun _ => rfl
  · exact different
  · exact fun _ => rfl
  · exact different

/-- A transfer between active rows hands the ownership over. -/
theorem rosterOf_transferred (now : Nat) (prevOwner newOwner conversationId : Uuid) (store : Store)
    {owner target : ConversationMember}
    (foundOwner : findMember store conversationId prevOwner = some owner)
    (active : owner.softDeletedAt = none)
    (foundTarget : findMember store conversationId newOwner = some target)
    (present : target.softDeletedAt = none) :
    rosterOf (transferred now prevOwner newOwner conversationId store) conversationId =
      Function.update (Function.update (rosterOf store conversationId) prevOwner (some ⟨false, true⟩))
        newOwner (some ⟨true, true⟩) := by
  let demote (member : ConversationMember) : ConversationMember := { member with role := .member }
  let promote (member : ConversationMember) : ConversationMember := { member with role := .owner }
  let demoted := updateMember store conversationId prevOwner demote
  have demotedRoster : rosterOf demoted conversationId =
      Function.update (rosterOf store conversationId) prevOwner (some ⟨false, true⟩) := by
    have entry : (demote owner).entry = ⟨false, true⟩ := by
      simp [demote, ConversationMember.entry, active]
    rw [← entry]
    exact rosterOf_updateMember store conversationId prevOwner demote (fun _ => rfl) foundOwner
  have foundDemoted : ∃ row, findMember demoted conversationId newOwner = some row ∧
      row.softDeletedAt = none := by
    by_cases same : newOwner = prevOwner
    · subst same
      refine ⟨demote owner, ?_, active⟩
      have mapped := findMember_updateMember_same store conversationId newOwner demote (fun _ => rfl)
      rw [foundOwner] at mapped
      exact mapped
    · refine ⟨target, ?_, present⟩
      rw [← foundTarget]
      apply findMember_updateMember_other store conversationId prevOwner demote (fun _ => rfl)
      intro equal
      exact same (Prod.mk.inj equal).2
  obtain ⟨row, foundRow, rowActive⟩ := foundDemoted
  have entry : (promote row).entry = ⟨true, true⟩ := by
    simp [promote, ConversationMember.entry, rowActive]
  have promoted := rosterOf_updateMember demoted conversationId newOwner promote (fun _ => rfl) foundRow
  rw [entry, demotedRoster] at promoted
  rw [transferred, rosterOf_congr (Store.logEvent_members _ _)]
  exact promoted

/-- A transfer between active rows is one roster step. -/
theorem rosterSteps_transferred (now : Nat) (prevOwner newOwner conversationId : Uuid) (store : Store)
    {owner target : ConversationMember}
    (foundOwner : findMember store conversationId prevOwner = some owner) (role : owner.role = .owner)
    (active : owner.softDeletedAt = none)
    (foundTarget : findMember store conversationId newOwner = some target)
    (present : target.softDeletedAt = none) :
    RosterSteps store (transferred now prevOwner newOwner conversationId store) := by
  intro other
  by_cases same : other = conversationId
  · subst same
    rw [rosterOf_transferred now prevOwner newOwner other store foundOwner active foundTarget present]
    refine .single (RosterStep.handOver prevOwner newOwner target.entry ?_
      (rosterOf_eq_some foundTarget) ?_)
    · rw [rosterOf_eq_some foundOwner]
      simp [ConversationMember.entry, role, active]
    · simp [ConversationMember.entry, present]
  · rw [rosterOf_transferred_other now prevOwner newOwner conversationId other store same]

end Messinger
