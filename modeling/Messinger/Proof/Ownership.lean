import Messinger.Library.Runs
import Messinger.Model.ConversationCalls
import Messinger.Proof.Rosters

namespace Messinger
open Library ConversationMemberRepository ConversationRepository ConversationService MessageService
open Relation (ReflTransGen)

/-- These are the rows with role OWNER in one conversation. -/
def ownersOf (store : Store) (conversationId : Uuid) : List ConversationMember :=
  store.members.filter fun member =>
    member.conversationId == conversationId && member.role == .owner

/-- The rule holds of the roster of each group, and no private conversation has an owner. -/
structure Governed (rule : Roster Uuid → Prop) (store : Store) : Prop where
  office : OfficeRule rule
  memberKeys : (store.members.map ConversationMember.key).Nodup
  membersKnown : ∀ member ∈ store.members, member.conversationId < store.nextId
  conversationsKnown : ∀ conversation ∈ store.conversations, conversation.id < store.nextId
  groups : ∀ conversation ∈ store.conversations, conversation.type = .groupType →
    rule (rosterOf store conversation.id)
  privates : ∀ conversation ∈ store.conversations, conversation.type = .privateType →
    Vacant (rosterOf store conversation.id)

/-- The sole holder of the roster is the only row with role OWNER. -/
theorem ownersOf_eq_singleton {store : Store}
    (keys : (store.members.map ConversationMember.key).Nodup) {conversationId owner : Uuid}
    (held : SoleHolder (rosterOf store conversationId) owner) :
    ∃ row, ownersOf store conversationId = [row] ∧ row.softDeletedAt = none := by
  have listed := held.listed
  unfold rosterOf at listed
  obtain ⟨row, found, entry⟩ := Option.map_eq_some_iff.mp listed
  unfold ConversationMember.entry at entry
  obtain ⟨role, active⟩ := Entry.mk.inj entry
  obtain ⟨inside, conversation, user⟩ := findMember_some found
  refine ⟨row, ?_, Option.isNone_iff_eq_none.mp active⟩
  apply filter_eq_singleton keys.of_map inside
  · rw [conversation, role]
    simp
  · intro other present selected
    simp only [Bool.and_eq_true, beq_iff_eq] at selected
    obtain ⟨same, holds⟩ := selected
    have foundOther := findMember_of_mem keys present
    rw [same] at foundOther
    have unique := held.only other.userId other.entry (rosterOf_eq_some foundOther)
      (by simp [ConversationMember.entry, holds])
    rw [unique, found] at foundOther
    exact (Option.some.inj foundOther).symm

theorem ownersOf_eq_nil {store : Store}
    (keys : (store.members.map ConversationMember.key).Nodup) {conversationId : Uuid}
    (vacant : Vacant (rosterOf store conversationId)) : ownersOf store conversationId = [] := by
  unfold ownersOf
  rw [List.filter_eq_nil_iff]
  intro member inside selected
  simp only [Bool.and_eq_true, beq_iff_eq] at selected
  obtain ⟨same, holds⟩ := selected
  have found := findMember_of_mem keys inside
  rw [same] at found
  have none := vacant member.userId member.entry (rosterOf_eq_some found)
  simp [ConversationMember.entry, holds] at none

/-- The only row with role OWNER, when it is active, is the sole holder of the roster. -/
theorem soleHolder_of_ownersOf {store : Store}
    (keys : (store.members.map ConversationMember.key).Nodup) {conversationId : Uuid}
    {row : ConversationMember} (single : ownersOf store conversationId = [row])
    (active : row.softDeletedAt = none) :
    SoleHolder (rosterOf store conversationId) row.userId := by
  have owners : ∀ member, member ∈ ownersOf store conversationId ↔ member = row := by
    intro member
    rw [single, List.mem_singleton]
  obtain ⟨inside, selected⟩ := List.mem_filter.mp ((owners row).mpr rfl)
  simp only [Bool.and_eq_true, beq_iff_eq] at selected
  obtain ⟨conversation, role⟩ := selected
  constructor
  · have found := findMember_of_mem keys inside
    rw [conversation] at found
    rw [rosterOf_eq_some found]
    simp [ConversationMember.entry, role, active]
  · intro other entry listed holds
    unfold rosterOf at listed
    obtain ⟨member, found, same⟩ := Option.map_eq_some_iff.mp listed
    obtain ⟨present, place, user⟩ := findMember_some found
    subst same
    have owner : member ∈ ownersOf store conversationId := by
      refine List.mem_filter.mpr ⟨present, ?_⟩
      rw [place]
      simpa [ConversationMember.entry] using holds
    rw [← user, (owners member).mp owner]

theorem ownersOf_userIds {store : Store} (keys : (store.members.map ConversationMember.key).Nodup)
    {conversationId owner : Uuid} (held : SoleHolder (rosterOf store conversationId) owner) :
    (ownersOf store conversationId).map (·.userId) = [owner] := by
  obtain ⟨row, single, active⟩ := ownersOf_eq_singleton keys held
  have same := (soleHolder_of_ownersOf keys single active).unique held
  rw [single, List.map_singleton, same]

variable {rule : Roster Uuid → Prop}

/-- Roster steps on known conversations keep the store governed. -/
theorem Governed.steps {store next : Store} (governed : Governed rule store)
    (rosters : RosterSteps store next)
    (keys : (next.members.map ConversationMember.key).Nodup)
    (known : ∀ member ∈ next.members, member.conversationId < store.nextId)
    (conversations : ∀ conversation ∈ next.conversations, ∃ old ∈ store.conversations,
      old.id = conversation.id ∧ old.type = conversation.type)
    (later : store.nextId ≤ next.nextId) : Governed rule next where
  office := governed.office
  memberKeys := keys
  membersKnown member inside := Nat.lt_of_lt_of_le (known member inside) later
  conversationsKnown conversation inside := by
    obtain ⟨old, present, id, -⟩ := conversations conversation inside
    rw [← id]
    exact Nat.lt_of_lt_of_le (governed.conversationsKnown old present) later
  groups conversation inside type := by
    obtain ⟨old, present, id, same⟩ := conversations conversation inside
    rw [← id]
    exact governed.office.steps (governed.groups old present (same.trans type)) (rosters old.id)
  privates conversation inside type := by
    obtain ⟨old, present, id, same⟩ := conversations conversation inside
    rw [← id]
    exact Vacant.steps (governed.privates old present (same.trans type)) (rosters old.id)

/-- The same holds when the member rows keep their keys. -/
theorem Governed.steps_of_keys {store next : Store} (governed : Governed rule store)
    (rosters : RosterSteps store next)
    (keys : next.members.map ConversationMember.key = store.members.map ConversationMember.key)
    (conversations : ∀ conversation ∈ next.conversations, ∃ old ∈ store.conversations,
      old.id = conversation.id ∧ old.type = conversation.type)
    (later : store.nextId ≤ next.nextId) : Governed rule next := by
  apply governed.steps rosters _ _ conversations later
  · rw [keys]
    exact governed.memberKeys
  · intro member inside
    have present : member.key ∈ store.members.map ConversationMember.key := by
      rw [← keys]
      exact List.mem_map_of_mem inside
    obtain ⟨old, oldInside, same⟩ := List.mem_map.mp present
    rw [← (Prod.mk.inj same).1]
    exact governed.membersKnown old oldInside

/-- A new conversation with its rows keeps the store governed. -/
theorem Governed.founds {store next : Store} (governed : Governed rule store) (row : Conversation)
    (rows : List ConversationMember) (fresh : row.id = store.nextId)
    (conversations : next.conversations = store.conversations ++ [row])
    (members : next.members = store.members ++ rows)
    (apart : ∀ member ∈ rows, member.conversationId = row.id)
    (keys : (next.members.map ConversationMember.key).Nodup)
    (later : store.nextId < next.nextId)
    (group : row.type = .groupType → rule (rosterOf next row.id))
    (pair : row.type = .privateType → Vacant (rosterOf next row.id)) : Governed rule next := by
  have kept : ∀ conversation ∈ store.conversations,
      rosterOf next conversation.id = rosterOf store conversation.id := by
    intro conversation inside
    have same : rosterOf next = rosterOf { store with members := store.members ++ rows } :=
      rosterOf_congr members
    rw [same]
    apply rosterOf_insert_other
    intro member new equal
    have known := governed.conversationsKnown conversation inside
    rw [← equal, apart member new, fresh] at known
    exact Nat.lt_irrefl _ known
  constructor
  · exact governed.office
  · exact keys
  · intro member inside
    rw [members, List.mem_append] at inside
    obtain old | new := inside
    · exact Nat.lt_trans (governed.membersKnown member old) later
    · rw [apart member new, fresh]
      exact later
  · intro conversation inside
    rw [conversations, List.mem_append, List.mem_singleton] at inside
    obtain old | rfl := inside
    · exact Nat.lt_trans (governed.conversationsKnown conversation old) later
    · rw [fresh]
      exact later
  · intro conversation inside type
    rw [conversations, List.mem_append, List.mem_singleton] at inside
    obtain old | rfl := inside
    · rw [kept conversation old]
      exact governed.groups conversation old type
    · exact group type
  · intro conversation inside type
    rw [conversations, List.mem_append, List.mem_singleton] at inside
    obtain old | rfl := inside
    · rw [kept conversation old]
      exact governed.privates conversation old type
    · exact pair type

end Messinger
