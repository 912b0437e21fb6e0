import Messinger.Proof.GroupAuthority
import Messinger.Proof.StrangerRequests

namespace Messinger
open Library ConversationMemberRepository ConversationRepository ConversationEventRepository
  GroupInvitationRepository ConversationService

/-- The user gets in at that time whenever the database works, whichever invitation the lookup meets. -/
def Admits (store : Store) (now : Nat) (conversationId userId : Uuid) : Prop :=
  ∀ env : Env, env.now = now → env.succeeds 0 = true →
    (∃ members, (acceptGroupInvitation env conversationId userId store).1 = .ok members) ∧
      existsMember (acceptGroupInvitation env conversationId userId store).2 conversationId userId = true

/-- The invitation lets its target in at that time. -/
def GroupInvitation.valid (now : Nat) (invitation : GroupInvitation) : Prop :=
  invitation.status = .pending ∧ isAfter now invitation.expiresAt = false

section Lookup
variable {store : Store} {conversationId userId : Uuid}

/-- Some order of the rows makes the lookup meet the given one. -/
theorem exists_pickRow {Row : Type} {rows : List Row} {row : Row} (inside : row ∈ rows) :
    ∃ scan, pickRow scan rows = some row := by
  obtain ⟨scan, found⟩ := List.mem_iff_getElem?.mp inside
  obtain ⟨below, -⟩ := List.getElem?_eq_some_iff.mp found
  refine ⟨scan, ?_⟩
  rw [pickRow, Nat.mod_eq_of_lt below, found]

theorem existsMember_of_found {member : ConversationMember}
    (found : findMember store conversationId userId = some member) (active : member.softDeletedAt = none) :
    existsMember store conversationId userId = true := by
  obtain ⟨inside, place, user⟩ := findMember_some found
  exact List.any_eq_true.mpr ⟨member, inside, by simp [place, user, active]⟩

end Lookup

section Acceptance
variable {store : Store} {conversationId userId : Uuid}

theorem existsMember_joined (now : Nat) :
    existsMember (joined now conversationId userId store) conversationId userId = true := by
  have inside : newRow now { conversationId, userId, role := .member } ∈ (joined now conversationId userId store).members :=
    List.mem_append_right _ (List.mem_singleton_self _)
  exact List.any_eq_true.mpr ⟨_, inside, by simp [newRow]⟩

theorem existsMember_restored {member : ConversationMember}
    (found : findMember store conversationId userId = some member) (now : Nat) :
    existsMember (restoreConversation now conversationId userId store) conversationId userId = true := by
  have restored := findMember_updateMember_same store conversationId userId
    (fun member => { member with softDeletedAt := none, restoredAt := some (jsDate now) }) fun _ => rfl
  rw [found] at restored
  exact existsMember_of_found restored rfl

/-- An invitation that is not expired lets the user in. -/
theorem acceptGroupInvitation_admits (keys : (store.members.map ConversationMember.key).Nodup) {env : Env}
    {conversation : Conversation} (group : findById store conversationId = some conversation)
    (stored : store.hasUser userId = true) (outside : existsMember store conversationId userId = false)
    {invitation : GroupInvitation} (picked : findOne env.scan store conversationId userId = some invitation)
    (early : isAfter env.now invitation.expiresAt = false) (commits : env.succeeds 0 = true) :
    (∃ members, (acceptGroupInvitation env conversationId userId store).1 = .ok members) ∧
      existsMember (acceptGroupInvitation env conversationId userId store).2 conversationId userId = true := by
  have checks : acceptGroupInvitationChecks env.scan store conversationId userId =
      .ok { member := findMember store conversationId userId
            members := getConversationMembers store conversationId, invitation } := by
    unfold acceptGroupInvitationChecks
    rw [group, picked]
    rfl
  rw [acceptGroupInvitation_eq keys checks commits, if_neg (Bool.eq_false_iff.mp early)]
  cases found : findMember store conversationId userId with
  | none =>
      simp only [stored, if_true]
      exact ⟨⟨_, rfl⟩, existsMember_joined env.now⟩
  | some member =>
      have deleted := existsMember_eq_false outside found
      simp only [deleted, if_true]
      exact ⟨⟨_, rfl⟩, existsMember_restored found env.now⟩

/-- An expired invitation keeps the user out. -/
theorem acceptGroupInvitation_expired {env : Env} {invitation : GroupInvitation}
    (picked : findOne env.scan store conversationId userId = some invitation)
    (late : isAfter env.now invitation.expiresAt = true) :
    ∃ exception, (acceptGroupInvitation env conversationId userId store).1 = .error exception := by
  unfold acceptGroupInvitation
  cases passed : acceptGroupInvitationChecks env.scan store conversationId userId with
  | error exception => exact ⟨exception, rfl⟩
  | ok rows =>
      obtain ⟨-, -, found⟩ := acceptGroupInvitationChecks_ok passed
      rw [picked] at found
      cases found
      simp only [guarded, late, if_true]
      obtain ⟨exception, failed⟩ | equal := expireInvitation_cases (A := List ConversationMember) env conversationId
        userId store
      · exact ⟨exception, by rw [failed]⟩
      · exact ⟨_, by rw [equal]⟩

end Acceptance

/-- In every reachable state, a user with a valid invitation gets into the group exactly when no invitation of the user
to the group has expired, since the lookup may meet any of them. -/
theorem invited_user_joins_iff (platform : Platform) (store : Store) (reachable : Reachable platform store)
    (conversationId userId : Uuid) (group : IsGroup store conversationId) (stored : store.hasUser userId = true)
    (outside : existsMember store conversationId userId = false) (now : Nat)
    (invited : ∃ invitation ∈ store.invitations, invitation.conversationId = conversationId ∧
      invitation.targetId = userId ∧ invitation.valid now) :
    Admits store now conversationId userId ↔
      ∀ invitation ∈ store.invitations, invitation.conversationId = conversationId → invitation.targetId = userId →
        isAfter now invitation.expiresAt = false := by
  constructor
  · intro admits invitation inside place target
    have listed : invitation ∈ store.invitations.filter (ofPair conversationId userId) :=
      List.mem_filter.mpr ⟨inside, by simp [ofPair, place, target]⟩
    obtain ⟨scan, picked⟩ := exists_pickRow listed
    by_contra late
    have refused : ∃ exception, (acceptGroupInvitation { now, scan } conversationId userId store).1 = .error exception :=
      acceptGroupInvitation_expired picked (eq_true_of_ne_false late)
    obtain ⟨exception, failed⟩ := refused
    obtain ⟨⟨members, admitted⟩, -⟩ := admits { now, scan } rfl rfl
    rw [failed] at admitted
    cases admitted
  · rintro early env rfl commits
    obtain ⟨invitation, inside, place, target, -⟩ := invited
    have listed : invitation ∈ store.invitations.filter (ofPair conversationId userId) :=
      List.mem_filter.mpr ⟨inside, by simp [ofPair, place, target]⟩
    obtain ⟨row, chosen, picked⟩ := pickRow_isSome listed env.scan
    obtain ⟨present, pair⟩ := List.mem_filter.mp chosen
    obtain ⟨conversation, found⟩ : ∃ conversation, findById store conversationId = some conversation := by
      obtain ⟨conversation, listed, same, -⟩ := group
      cases found : findById store conversationId with
      | some conversation => exact ⟨conversation, rfl⟩
      | none => exact absurd same ((lookup_eq_none Conversation.id).mp found conversation listed)
    refine acceptGroupInvitation_admits reachable.consistent.governed.memberKeys found stored outside picked ?_ commits
    simp only [ofPair, Bool.and_eq_true, beq_iff_eq] at pair
    exact early row present pair.1 pair.2

/-- User 2 also creates group 7. -/
def strangersGroupRun : List (Env × Action) :=
  strangersRun ++ [requestAt 6 0 {
    cookies := { accessToken := some (.text strangersTokens.accessToken), refreshToken := none }
    route := .createGroup (some { name := "group" }) }]

/-- User 2 invites user 0 to the group. -/
def inviting (seconds : Nat) : Env × Action :=
  (clock seconds 0, .validateGroupInvitation 2 { conversationId := 7, targetUserId := uuidText 0 })

def invitedStore : Store := (strangersGroupRun ++ [inviting 7]).foldl (act plainPlatform) {}

/-- The first invitation of user 0 has been valid for almost a day. -/
theorem invitedStore_admits : Admits invitedStore 86406000000 7 0 := by
  refine (invited_user_joins_iff plainPlatform invitedStore ⟨_, rfl⟩ 7 0 ?_ ?_ ?_ 86406000000 ?_).mpr ?_
  · unfold IsGroup
    decide
  · decide
  · decide
  · unfold GroupInvitation.valid
    decide
  · decide

/-- User 2 invites user 0 again when the first invitation has expired. -/
def reinvitedStore : Store := (strangersGroupRun ++ [inviting 7, inviting 90000]).foldl (act plainPlatform) {}

/-- The second invitation is valid, and the lookup may still meet the first one. -/
theorem reinvited_user_refused :
    Reachable plainPlatform reinvitedStore ∧ IsGroup reinvitedStore 7 ∧ reinvitedStore.hasUser 0 = true ∧
      existsMember reinvitedStore 7 0 = false ∧
      (∃ invitation ∈ reinvitedStore.invitations, invitation.conversationId = 7 ∧ invitation.targetId = 0 ∧
        invitation.valid 90001000000) ∧
      ¬ Admits reinvitedStore 90001000000 7 0 := by
  refine ⟨⟨_, rfl⟩, ?_, by decide, by decide, ?_, ?_⟩
  · unfold IsGroup
    decide
  · unfold GroupInvitation.valid
    decide
  · intro admits
    obtain ⟨⟨members, admitted⟩, -⟩ := admits (clock 90001 0) rfl rfl
    have refused : (acceptGroupInvitation (clock 90001 0) 7 0 reinvitedStore).1 =
        .error (.forbidden "GROUP_INVITATION:EXPIRED") := by rfl
    rw [refused] at admitted
    cases admitted

end Messinger
