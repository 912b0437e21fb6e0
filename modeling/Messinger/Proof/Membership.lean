import Messinger.Library.Roster
import Messinger.Model.MessageService

namespace Messinger
open Library ConversationMemberRepository

/-- The office of a conversation is its ownership. -/
def ConversationMember.entry (member : ConversationMember) : Entry :=
  ⟨member.role == .owner, member.softDeletedAt.isNone⟩

/-- The member rows of one conversation form a roster of its users. -/
def rosterOf (store : Store) (conversationId : Uuid) : Roster Uuid :=
  fun userId => (findMember store conversationId userId).map ConversationMember.entry

/-- The lookup depends only on the member table. -/
theorem findMember_congr {store next : Store} (same : next.members = store.members)
    (conversationId userId : Uuid) :
    findMember next conversationId userId = findMember store conversationId userId := by
  unfold findMember
  rw [same]

theorem rosterOf_congr {store next : Store} (same : next.members = store.members) :
    rosterOf next = rosterOf store := by
  funext conversationId userId
  unfold rosterOf
  rw [findMember_congr same]

theorem findMember_some {store : Store} {conversationId userId : Uuid} {member : ConversationMember}
    (found : findMember store conversationId userId = some member) :
    member ∈ store.members ∧ member.conversationId = conversationId ∧ member.userId = userId := by
  obtain ⟨inside, same⟩ := lookup_mem _ found
  unfold ConversationMember.key at same
  rw [Prod.mk.injEq] at same
  exact ⟨inside, same⟩

/-- The primary key makes the lookup find every row. -/
theorem findMember_of_mem {store : Store} {member : ConversationMember}
    (distinct : (store.members.map ConversationMember.key).Nodup) (inside : member ∈ store.members) :
    findMember store member.conversationId member.userId = some member :=
  lookup_of_mem ConversationMember.key distinct inside

theorem findMember_none {store : Store} {conversationId userId : Uuid} :
    findMember store conversationId userId = none ↔
      ∀ member ∈ store.members, (conversationId, userId) ≠ member.key := by
  unfold findMember
  rw [lookup_eq_none]
  simp only [ne_comm]

section Update
variable (store : Store) (conversationId userId : Uuid)
  (change : ConversationMember → ConversationMember)
  (keeps : ∀ member, (change member).key = member.key)
include keeps

/-- A member update maps the row that it addresses. -/
theorem findMember_updateMember_same :
    findMember (updateMember store conversationId userId change) conversationId userId =
      (findMember store conversationId userId).map change :=
  lookup_updateWhere_same _ _ change keeps store.members

/-- A member update keeps every other row. -/
theorem findMember_updateMember_other (otherConversation otherUser : Uuid)
    (different : (otherConversation, otherUser) ≠ (conversationId, userId)) :
    findMember (updateMember store conversationId userId change) otherConversation otherUser =
      findMember store otherConversation otherUser := by
  apply lookup_updateWhere_other _ _ _ change keeps
  intro row same
  rw [same]
  exact decide_eq_false different

theorem memberKeys_updateMember :
    (updateMember store conversationId userId change).members.map ConversationMember.key =
      store.members.map ConversationMember.key :=
  map_updateWhere ConversationMember.key _ change keeps store.members

theorem rosterOf_updateMember_other (other : Uuid) (different : other ≠ conversationId) :
    rosterOf (updateMember store conversationId userId change) other = rosterOf store other := by
  funext person
  unfold rosterOf
  rw [findMember_updateMember_other store conversationId userId change keeps]
  intro same
  exact different (Prod.mk.inj same).1

/-- On the roster, a member update replaces one entry. -/
theorem rosterOf_updateMember {member : ConversationMember}
    (found : findMember store conversationId userId = some member) :
    rosterOf (updateMember store conversationId userId change) conversationId =
      Function.update (rosterOf store conversationId) userId (some (change member).entry) := by
  funext person
  by_cases same : person = userId
  · subst same
    rw [Function.update_self]
    unfold rosterOf
    rw [findMember_updateMember_same store conversationId person change keeps, found]
    rfl
  · rw [Function.update_of_ne same]
    unfold rosterOf
    rw [findMember_updateMember_other store conversationId userId change keeps]
    intro equal
    exact same (Prod.mk.inj equal).2

/-- An update of a missing row changes nothing. -/
theorem rosterOf_updateMember_none (missing : findMember store conversationId userId = none) :
    rosterOf (updateMember store conversationId userId change) conversationId =
      rosterOf store conversationId := by
  funext person
  unfold rosterOf
  by_cases same : person = userId
  · subst same
    rw [findMember_updateMember_same store conversationId person change keeps, missing]
    rfl
  · rw [findMember_updateMember_other store conversationId userId change keeps]
    intro equal
    exact same (Prod.mk.inj equal).2

end Update

/-- The insert appends the new rows, and their keys were free. -/
theorem bulkCreate_ok {now : Nat} {params : List CreateConversationMemberParams}
    {store next : Store} (inserted : bulkCreate now params store = .ok next) :
    next = { store with members := store.members ++ params.map (newRow now) } ∧
      (∀ row ∈ params.map (newRow now), store.hasConversation row.conversationId = true ∧
        store.hasUser row.userId = true) ∧
      ((store.members ++ params.map (newRow now)).map ConversationMember.key).Nodup := by
  unfold bulkCreate at inserted
  simp only at inserted
  split at inserted
  · rename_i allowed
    obtain ⟨references, distinct⟩ := allowed
    refine ⟨(Except.ok.inj inserted).symm, ?_, distinct⟩
    intro row inside
    have both := List.all_eq_true.mp references row inside
    simpa using both
  · cases inserted

/-- After an insert the lookup tries the old rows first. -/
theorem findMember_append (store : Store) (rows : List ConversationMember)
    (conversationId userId : Uuid) :
    findMember { store with members := store.members ++ rows } conversationId userId =
      (findMember store conversationId userId).or
        (lookup ConversationMember.key (conversationId, userId) rows) :=
  lookup_append _ _ store.members rows

/-- A row with a free key joins the roster. -/
theorem rosterOf_insert (store : Store) (row : ConversationMember)
    (missing : findMember store row.conversationId row.userId = none) :
    rosterOf { store with members := store.members ++ [row] } row.conversationId =
      Function.update (rosterOf store row.conversationId) row.userId (some row.entry) := by
  funext person
  unfold rosterOf
  rw [findMember_append]
  by_cases same : person = row.userId
  · subst same
    rw [Function.update_self, missing]
    simp [lookup, ConversationMember.key]
  · rw [Function.update_of_ne same]
    have apart : lookup ConversationMember.key (row.conversationId, person) [row] = none := by
      rw [lookup_eq_none]
      intro other inside equal
      rw [List.mem_singleton] at inside
      subst inside
      exact same (Prod.mk.inj equal).2.symm
    rw [apart, Option.or_none]

theorem rosterOf_insert_other (store : Store) (rows : List ConversationMember)
    (conversationId : Uuid) (apart : ∀ row ∈ rows, row.conversationId ≠ conversationId) :
    rosterOf { store with members := store.members ++ rows } conversationId =
      rosterOf store conversationId := by
  funext person
  unfold rosterOf
  have missing : lookup ConversationMember.key (conversationId, person) rows = none := by
    rw [lookup_eq_none]
    intro row inside equal
    exact apart row inside (Prod.mk.inj equal).1
  rw [findMember_append, missing, Option.or_none]

/-- Deleting conversations keeps the rosters of the others. -/
theorem findMember_deleteConversations (store : Store) (doomed : Uuid → Bool)
    (conversationId userId : Uuid) (kept : doomed conversationId = false) :
    findMember (store.deleteConversations doomed) conversationId userId =
      findMember store conversationId userId := by
  apply lookup_filter_kept
  intro row same
  have conversation := (Prod.mk.inj same).1
  rw [conversation, kept]
  rfl

end Messinger
