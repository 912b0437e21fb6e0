import Messinger.Proof.Calls

namespace Messinger.ConversationService
open Library ConversationMemberRepository ConversationRepository ConversationEventRepository
  GroupInvitationRepository

/-- This is the row of the invitation that inviting inserts. -/
def newInvitation (now : Nat) (conversationId actorId targetId id : Uuid) : GroupInvitation :=
  { id, conversationId, actorId, targetId, expiresAt := addHours (jsDate now) 24, createdAt := now }

theorem validateGroupInvitationChecks_ok {store : Store} {actorId : Uuid} {dto : InviteGroupMemberDto}
    {conversation : Conversation}
    (passed : validateGroupInvitationChecks store actorId dto = .ok conversation) :
    findById store dto.conversationId = some conversation ∧ conversation.type = .groupType ∧
      existsMember store dto.conversationId (parseUuid dto.targetUserId) = false ∧
      ∃ actor, findMember store dto.conversationId actorId = some actor ∧ actor.role = .owner := by
  unfold validateGroupInvitationChecks at passed
  simp only at passed
  split at passed
  · rename_i found foundConversation
    split at passed
    · cases passed
    · rename_i type
      split at passed
      · rename_i actor foundActor
        split at passed
        · cases passed
        · rename_i role
          split at passed
          · cases passed
          · split at passed
            · cases passed
            · rename_i absent
              cases passed
              exact ⟨foundConversation, not_not.mp type, Bool.eq_false_iff.mpr absent, actor,
                foundActor, not_not.mp role⟩
      · cases passed
  · cases passed

/-- Inviting appends one pending invitation. -/
theorem validateGroupInvitation_cases (env : Env) (actorId : Uuid) (dto : InviteGroupMemberDto)
    (store : Store) :
    (∃ exception, validateGroupInvitation env actorId dto store = (.error exception, store)) ∨
      ∃ conversation, findById store dto.conversationId = some conversation ∧
        conversation.type = .groupType ∧
        existsMember store dto.conversationId (parseUuid dto.targetUserId) = false ∧
        validateGroupInvitation env actorId dto store =
          (.ok conversation, { store with
            invitations := store.invitations ++
              [newInvitation env.now dto.conversationId actorId (parseUuid dto.targetUserId)
                store.nextId]
            nextId := store.nextId + 1 }) := by
  obtain failed | ⟨value, result, next, passed, done, equal⟩ := guarded_transaction_cases
    (rfl : _ = validateGroupInvitation env actorId dto store)
  · exact .inl failed
  · obtain ⟨found, type, absent, -⟩ := validateGroupInvitationChecks_ok passed
    obtain ⟨written, created, rest⟩ := ok_of_bind done
    cases rest
    rw [(createInvitation_ok created).2] at equal
    exact .inr ⟨value, found, type, absent, equal⟩

theorem acceptGroupInvitationChecks_ok {scan : Nat} {store : Store} {conversationId userId : Uuid}
    {rows : AcceptRows}
    (passed : acceptGroupInvitationChecks scan store conversationId userId = .ok rows) :
    rows.member = findMember store conversationId userId ∧
      rows.members = getConversationMembers store conversationId ∧
      findOne scan store conversationId userId = some rows.invitation := by
  unfold acceptGroupInvitationChecks at passed
  split at passed
  · split at passed
    · rename_i found
      cases passed
      exact ⟨rfl, rfl, found⟩
    · cases passed
  · cases passed

/-- The invitation that the service reads is one of the pair. -/
theorem findOne_some {scan : Nat} {store : Store} {conversationId userId : Uuid}
    {invitation : GroupInvitation}
    (found : findOne scan store conversationId userId = some invitation) :
    invitation ∈ store.invitations ∧ ofPair conversationId userId invitation = true :=
  List.mem_filter.mp (pickRow_mem found)

theorem expireInvitation_cases {A : Type} (env : Env) (conversationId userId : Uuid) (store : Store) :
    (∃ exception, (expireInvitation env conversationId userId store : Outcome A) =
        (.error exception, store)) ∨
      (expireInvitation env conversationId userId store : Outcome A) =
        (.error (.forbidden "GROUP_INVITATION:EXPIRED"),
          markInvitationAsExpired conversationId userId store) := by
  unfold expireInvitation
  split
  · exact .inr rfl
  · exact .inl ⟨_, rfl⟩

/-- This is the state that a first join writes. -/
def joined (now : Nat) (conversationId userId : Uuid) (store : Store) : Store :=
  let logged := (acceptInvitation conversationId userId store).logEvent
    { id := store.nextId, conversationId, actorId := userId, type := .memberJoined, createdAt := now }
  { logged with members := store.members ++ [newRow now { conversationId, userId, role := .member }] }

/-- The body restores a deleted row, or inserts a row under a free key. -/
theorem acceptGroupInvitationBody_ok {now : Nat} {conversationId userId : Uuid} {store next : Store}
    {nothing : Unit}
    (done : acceptGroupInvitationBody now (findMember store conversationId userId) conversationId
      userId store = .ok (nothing, next)) :
    (∃ member, findMember store conversationId userId = some member ∧
        member.softDeletedAt.isSome = true ∧
        next = restoreConversation now conversationId userId store) ∨
      (findMember store conversationId userId = none ∧
        store.hasConversation conversationId = true ∧ store.hasUser userId = true ∧
        ((joined now conversationId userId store).members.map ConversationMember.key).Nodup ∧
        next = joined now conversationId userId store) := by
  unfold acceptGroupInvitationBody at done
  split at done
  · rename_i deleted
    cases found : findMember store conversationId userId with
    | none => simp [found] at deleted
    | some member =>
        cases done
        rw [found] at deleted
        exact .inl ⟨member, rfl, deleted, rfl⟩
  · obtain ⟨logged, created, rest⟩ := ok_of_bind done
    obtain ⟨final, inserted, last⟩ := ok_of_bind rest
    cases last
    obtain ⟨present, event⟩ := createEvent_ok created
    obtain ⟨members, references, distinct⟩ := bulkCreate_ok inserted
    rw [event] at members references distinct
    refine .inr ⟨?_, present, (references _ (List.mem_singleton_self _)).2, distinct, members⟩
    rw [findMember_none]
    intro member inside same
    rw [List.map_append, List.nodup_append] at distinct
    exact distinct.2.2 _ (List.mem_map_of_mem inside) _ (List.mem_map_of_mem (List.mem_singleton.mpr rfl))
      same.symm

/-- Accepting reads some invitation of the pair, and no branch reads its status. -/
theorem acceptGroupInvitation_cases (env : Env) (conversationId userId : Uuid) (store : Store) :
    (∃ exception, acceptGroupInvitation env conversationId userId store = (.error exception, store)) ∨
      ∃ invitation ∈ store.invitations, ofPair conversationId userId invitation = true ∧
        ((isAfter env.now invitation.expiresAt = true ∧
            acceptGroupInvitation env conversationId userId store =
              (.error (.forbidden "GROUP_INVITATION:EXPIRED"),
                markInvitationAsExpired conversationId userId store)) ∨
          (isAfter env.now invitation.expiresAt = false ∧
            ∃ next, acceptGroupInvitation env conversationId userId store =
                (.ok (getConversationMembers store conversationId), next) ∧
              ((∃ member, findMember store conversationId userId = some member ∧
                  member.softDeletedAt.isSome = true ∧
                  next = restoreConversation env.now conversationId userId store) ∨
                (findMember store conversationId userId = none ∧
                  store.hasConversation conversationId = true ∧ store.hasUser userId = true ∧
                  ((joined env.now conversationId userId store).members.map
                    ConversationMember.key).Nodup ∧
                  next = joined env.now conversationId userId store)))) := by
  unfold acceptGroupInvitation
  cases passed : acceptGroupInvitationChecks env.scan store conversationId userId with
  | error exception => exact .inl ⟨exception, rfl⟩
  | ok rows =>
      obtain ⟨member, members, found⟩ := acceptGroupInvitationChecks_ok passed
      obtain ⟨inside, pair⟩ := findOne_some found
      simp only [guarded]
      split
      · rename_i late
        obtain failed | equal := expireInvitation_cases (A := List ConversationMember) env conversationId
          userId store
        · exact .inl failed
        · exact .inr ⟨rows.invitation, inside, pair, .inl ⟨late, equal⟩⟩
      · rename_i early
        generalize call : transaction _ _ _ = outcome
        obtain failed | ⟨value, next, done, equal⟩ := transaction_outcome call
        · exact .inl failed
        · obtain ⟨⟨_, written⟩, body, rest⟩ := ok_of_bind done
          cases rest
          rw [member] at body
          exact .inr ⟨rows.invitation, inside, pair, .inr ⟨Bool.eq_false_iff.mpr early, _,
            equal.trans (by rw [members]), acceptGroupInvitationBody_ok body⟩⟩

/-- Rejecting marks every invitation of the pair, whatever its status. -/
theorem rejectGroupInvitation_cases (env : Env) (conversationId userId : Uuid) (store : Store) :
    (∃ exception, rejectGroupInvitation env conversationId userId store = (.error exception, store)) ∨
      ∃ invitation ∈ store.invitations, ofPair conversationId userId invitation = true ∧
        ((isAfter env.now invitation.expiresAt = true ∧
            rejectGroupInvitation env conversationId userId store =
              (.error (.forbidden "GROUP_INVITATION:EXPIRED"),
                markInvitationAsExpired conversationId userId store)) ∨
          (isAfter env.now invitation.expiresAt = false ∧
            rejectGroupInvitation env conversationId userId store =
              (.ok (), rejectInvitation conversationId userId store))) := by
  unfold rejectGroupInvitation
  cases found : findOne env.scan store conversationId userId with
  | none => exact .inl ⟨_, rfl⟩
  | some invitation =>
      obtain ⟨inside, pair⟩ := findOne_some found
      simp only
      split
      · rename_i late
        obtain failed | equal := expireInvitation_cases (A := Unit) env conversationId userId store
        · exact .inl failed
        · exact .inr ⟨invitation, inside, pair, .inl ⟨late, equal⟩⟩
      · rename_i early
        obtain failed | ⟨value, next, done, -, equal⟩ := transaction_cases (env.succeeds 0) store
          fun current => .ok ((), rejectInvitation conversationId userId current)
        · exact .inl failed
        · cases done
          exact .inr ⟨invitation, inside, pair, .inr ⟨Bool.eq_false_iff.mpr early, equal⟩⟩

section Commits
variable {env : Env} {store : Store} {userId conversationId : Uuid}

theorem acceptGroupInvitation_ok {members : List ConversationMember}
    (done : (acceptGroupInvitation env conversationId userId store).1 = .ok members) :
    ∃ rows, acceptGroupInvitationChecks env.scan store conversationId userId = .ok rows ∧
      isAfter env.now rows.invitation.expiresAt = false ∧ env.succeeds 0 = true := by
  unfold acceptGroupInvitation at done
  cases passed : acceptGroupInvitationChecks env.scan store conversationId userId with
  | error exception =>
      rw [passed] at done
      cases done
  | ok rows =>
      rw [passed] at done
      simp only [guarded] at done
      split at done
      · obtain ⟨exception, failed⟩ | equal := expireInvitation_cases (A := List ConversationMember) env
          conversationId userId store
        · rw [failed] at done
          cases done
        · rw [equal] at done
          cases done
      · rename_i early
        exact ⟨rows, rfl, Bool.eq_false_iff.mpr early, transaction_commits done⟩

/-- A checked call that finds a row with a soft deletion restores it. -/
theorem acceptGroupInvitation_commits {rows : AcceptRows}
    (passed : acceptGroupInvitationChecks env.scan store conversationId userId = .ok rows)
    (early : isAfter env.now rows.invitation.expiresAt = false) (commits : env.succeeds 0 = true)
    (deleted : (rows.member.bind (·.softDeletedAt)).isSome = true) :
    (acceptGroupInvitation env conversationId userId store).2 =
      restoreConversation env.now conversationId userId store := by
  unfold acceptGroupInvitation
  simp only [passed, guarded, early, transaction, acceptGroupInvitationBody, deleted, commits]
  rfl

/-- The insert of one row fails when its key is taken. -/
theorem bulkCreate_taken {now : Nat} {role : ConversationRole} (current : Store) {member : ConversationMember}
    (found : findMember current conversationId userId = some member) :
    bulkCreate now [{ conversationId, userId, role }] current = .error .failedCall := by
  unfold bulkCreate
  simp only
  split
  · next allowed =>
      have missing : findMember current conversationId userId = none := by
        rw [findMember_none]
        intro row inside same
        have distinct := allowed.2
        rw [List.map_append, List.nodup_append] at distinct
        exact distinct.2.2 _ (List.mem_map_of_mem inside) _ (List.mem_map_of_mem (List.mem_singleton.mpr rfl))
          same.symm
      rw [missing] at found
      cases found
  · rfl

/-- The insert of one row succeeds when its key is free and the rows that it refers to are there. -/
theorem bulkCreate_free {now : Nat} {role : ConversationRole} (current : Store)
    (keys : (current.members.map ConversationMember.key).Nodup)
    (missing : findMember current conversationId userId = none)
    (conversation : current.hasConversation conversationId = true) (user : current.hasUser userId = true) :
    bulkCreate now [{ conversationId, userId, role }] current =
      .ok { current with members := current.members ++ [newRow now { conversationId, userId, role }] } := by
  unfold bulkCreate
  simp only
  rw [if_pos]
  · rfl
  · refine ⟨by simp [newRow, conversation, user], ?_⟩
    rw [List.map_append, List.nodup_append]
    refine ⟨keys, List.nodup_singleton _, ?_⟩
    intro key inside other new same
    obtain ⟨row, present, rfl⟩ := List.mem_map.mp inside
    rw [List.mem_singleton.mp new] at same
    exact findMember_none.mp missing row present same.symm

theorem hasConversation_of_acceptChecks {scan : Nat} {rows : AcceptRows}
    (passed : acceptGroupInvitationChecks scan store conversationId userId = .ok rows) :
    store.hasConversation conversationId = true := by
  unfold acceptGroupInvitationChecks at passed
  split at passed
  · next conversation found => exact hasConversation_iff.mpr ⟨conversation, findById_some found⟩
  · cases passed

/-- A call whose write is not committed changes nothing. -/
theorem acceptGroupInvitation_aborts (conversationId userId : Uuid) (store : Store)
    (aborts : env.succeeds 0 = false) :
    ∃ exception, acceptGroupInvitation env conversationId userId store = (.error exception, store) := by
  unfold acceptGroupInvitation
  cases acceptGroupInvitationChecks env.scan store conversationId userId with
  | error exception => exact ⟨exception, rfl⟩
  | ok rows =>
      simp only [guarded]
      split
      · exact ⟨.failedCall, by rw [expireInvitation, aborts]; rfl⟩
      · rw [aborts]
        exact transaction_aborts store _

/-- The body writes by the row that the user has. -/
theorem acceptGroupInvitationBody_eq {now : Nat} (keys : (store.members.map ConversationMember.key).Nodup)
    (present : store.hasConversation conversationId = true) :
    acceptGroupInvitationBody now (findMember store conversationId userId) conversationId userId store =
      match findMember store conversationId userId with
      | none =>
          if store.hasUser userId then .ok ((), joined now conversationId userId store) else .error .failedCall
      | some member =>
          if member.softDeletedAt.isSome then .ok ((), restoreConversation now conversationId userId store)
          else .error .failedCall := by
  let accepted := acceptInvitation conversationId userId store
  let logged := accepted.logEvent
    { id := store.nextId, conversationId, actorId := userId, type := .memberJoined, createdAt := now }
  have inserts : createEvent now conversationId userId none .memberJoined accepted = .ok logged := if_pos present
  cases found : findMember store conversationId userId with
  | none =>
      simp only [acceptGroupInvitationBody, Option.bind_none, Option.isSome_none, Bool.false_eq_true, if_false]
      change (createEvent now conversationId userId none .memberJoined accepted >>= _) = _
      rw [inserts]
      change (bulkCreate now [{ conversationId, userId, role := .member }] logged >>= _) = _
      cases user : store.hasUser userId with
      | true =>
          rw [bulkCreate_free logged keys found present user]
          rfl
      | false =>
          have refused : bulkCreate now [{ conversationId, userId, role := .member }] logged = .error .failedCall := by
            refine if_neg fun allowed => ?_
            have known := (Bool.and_eq_true_iff.mp (List.all_eq_true.mp allowed.1 _ (List.mem_singleton.mpr rfl))).2
            exact Bool.false_ne_true (user.symm.trans known)
          rw [refused]
          rfl
  | some member =>
      simp only [acceptGroupInvitationBody, Option.bind_some]
      split
      · rfl
      · change (createEvent now conversationId userId none .memberJoined accepted >>= _) = _
        rw [inserts]
        change (bulkCreate now [{ conversationId, userId, role := .member }] logged >>= _) = _
        rw [bulkCreate_taken logged found]
        rfl

/-- These are the writes of a checked call that the database commits. -/
theorem acceptGroupInvitation_eq {rows : AcceptRows}
    (keys : (store.members.map ConversationMember.key).Nodup)
    (passed : acceptGroupInvitationChecks env.scan store conversationId userId = .ok rows)
    (commits : env.succeeds 0 = true) :
    acceptGroupInvitation env conversationId userId store =
      if isAfter env.now rows.invitation.expiresAt then
        (.error (.forbidden "GROUP_INVITATION:EXPIRED"), markInvitationAsExpired conversationId userId store)
      else match rows.member with
        | none =>
            if store.hasUser userId then (.ok rows.members, joined env.now conversationId userId store)
            else (.error .failedCall, store)
        | some member =>
            if member.softDeletedAt.isSome then
              (.ok rows.members, restoreConversation env.now conversationId userId store)
            else (.error .failedCall, store) := by
  obtain ⟨same, -, -⟩ := acceptGroupInvitationChecks_ok passed
  rw [acceptGroupInvitation, passed]
  simp only [guarded]
  split
  · rw [expireInvitation, commits]
    rfl
  · rw [same]
    unfold transaction
    simp only
    rw [acceptGroupInvitationBody_eq keys (hasConversation_of_acceptChecks passed), commits]
    cases findMember store conversationId userId with
    | none => cases store.hasUser userId <;> rfl
    | some member =>
        simp only
        cases member.softDeletedAt.isSome <;> rfl

end Commits

end Messinger.ConversationService
