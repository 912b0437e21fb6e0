import Messinger.Proof.PrivatePairs
import Messinger.Proof.UserDeletions

namespace Messinger
open Library ConversationMemberRepository ConversationRepository ConversationService GroupInvitationRepository
  MessageService

/-- The private conversation has rows of two users at most, and each of the two has one as long as it exists. -/
structure HoldsPair (store : Store) (first second : Uuid) (conversation : Conversation) : Prop where
  type : conversation.type = .privateType
  spent : first < store.nextId ∧ second < store.nextId
  only : ∀ userId ∈ memberIds store conversation.id, userId = first ∨ userId = second
  present : ∀ userId, userId = first ∨ userId = second → store.hasUser userId = true →
    userId ∈ memberIds store conversation.id

/-- Each conversation with a key holds the pair of users of a message with this key, and nobody is invited to it.
All members exist. -/
structure PairRooms (platform : Platform) (store : Store) : Prop where
  users : Allotted store.nextId (store.users.map User.id)
  conversations : Allotted store.nextId (store.conversations.map Conversation.id)
  members : ∀ key ∈ store.members.map ConversationMember.key, store.hasUser key.2 = true
  pairs : ∀ conversation ∈ store.conversations, ∀ privateKey, conversation.privateKey = some privateKey →
    ∃ senderId receiverId, privateKey = keyOf platform senderId receiverId ∧
      HoldsPair store senderId (parseUuid receiverId) conversation
  invited : ∀ invitation ∈ store.invitations, invitation.conversationId < store.nextId ∧
    ∀ conversation ∈ store.conversations, conversation.id = invitation.conversationId →
      conversation.privateKey = none

/-- The write opens no private conversation, lets nobody into one, and takes out of one exactly those whom it
deletes. -/
structure KeepsPairs (store next : Store) : Prop where
  users : Allots store.nextId next.nextId (store.users.map User.id) (next.users.map User.id)
  rooms : (next.conversations.map Conversation.room).Sublist (store.conversations.map Conversation.room) ∨
    next.conversations.map Conversation.room =
      store.conversations.map Conversation.room ++ [(store.nextId, .groupType, none)] ∧ store.nextId < next.nextId
  fewer : ∀ key ∈ next.members.map ConversationMember.key, key ∈ store.members.map ConversationMember.key ∨
    store.hasUser key.2 = true ∧
      (key.1 = store.nextId ∨ ∃ invitation ∈ store.invitations, invitation.conversationId = key.1)
  exist : ∀ key ∈ next.members.map ConversationMember.key, store.hasUser key.2 = true → next.hasUser key.2 = true
  stays : ∀ key ∈ store.members.map ConversationMember.key, next.hasConversation key.1 = true →
    next.hasUser key.2 = true → key ∈ next.members.map ConversationMember.key
  invited : ∀ invitation ∈ next.invitations,
    (∃ old ∈ store.invitations, old.conversationId = invitation.conversationId) ∨
      ∃ conversation ∈ store.conversations, conversation.id = invitation.conversationId ∧
        conversation.type = .groupType
  later : store.nextId ≤ next.nextId

theorem hasUser_iff {store : Store} {userId : Uuid} :
    store.hasUser userId = true ↔ userId ∈ store.users.map User.id := by
  unfold Store.hasUser
  simp only [List.any_eq_true, beq_iff_eq, List.mem_map]

section Step
variable {platform : Platform} {store next : Store}

theorem KeepsPairs.ids (keeps : KeepsPairs store next) : Allots store.nextId next.nextId
    (store.conversations.map Conversation.id) (next.conversations.map Conversation.id) := by
  rw [map_id_eq store, map_id_eq next]
  rcases keeps.rooms with less | ⟨added, later⟩
  · exact .inl (less.map _)
  · rw [added, List.map_append]
    exact .inr ⟨rfl, later⟩

/-- A conversation with a key was there before. -/
theorem KeepsPairs.old (keeps : KeepsPairs store next) {conversation : Conversation}
    (inside : conversation ∈ next.conversations) (keyed : conversation.privateKey ≠ none) :
    ∃ old ∈ store.conversations, old.room = conversation.room := by
  have listed := List.mem_map_of_mem (f := Conversation.room) inside
  rcases keeps.rooms with less | ⟨added, -⟩
  · exact List.mem_map.mp (less.subset listed)
  · rw [added, List.mem_append, List.mem_singleton] at listed
    rcases listed with stored | new
    · exact List.mem_map.mp stored
    · exact absurd (congrArg (·.2.2) new) keyed

theorem PairRooms.holdsPair (pairs : PairRooms platform store) (keeps : KeepsPairs store next) {first second : Uuid}
    {old conversation : Conversation} (stored : old ∈ store.conversations) (room : old.room = conversation.room)
    (keyed : old.privateKey ≠ none) (inside : conversation ∈ next.conversations)
    (holds : HoldsPair store first second old) : HoldsPair next first second conversation := by
  have id : old.id = conversation.id := congrArg Prod.fst room
  constructor
  · exact (congrArg (·.2.1) room).symm.trans holds.type
  · exact ⟨Nat.lt_of_lt_of_le holds.spent.1 keeps.later, Nat.lt_of_lt_of_le holds.spent.2 keeps.later⟩
  · intro userId listed
    rw [mem_memberIds, ← id] at listed
    rcases keeps.fewer _ listed with row | ⟨-, fresh | ⟨invitation, sent, place⟩⟩
    · exact holds.only userId (mem_memberIds.mpr row)
    · have known := pairs.conversations.spent old.id (List.mem_map_of_mem stored)
      exact absurd known (fresh ▸ Nat.lt_irrefl _)
    · exact absurd ((pairs.invited invitation sent).2 old stored place.symm) keyed
  · intro userId either present
    have spent : userId < store.nextId := by
      rcases either with rfl | rfl
      · exact holds.spent.1
      · exact holds.spent.2
    have before := hasUser_iff.mpr (keeps.users.old (hasUser_iff.mp present) spent)
    have row := mem_memberIds.mp (holds.present userId either before)
    rw [mem_memberIds, ← id]
    exact keeps.stays _ row (hasConversation_iff.mpr ⟨conversation, inside, id.symm⟩) present

/-- No conversation with the identifier of a group has a key. -/
theorem PairRooms.keyless (pairs : PairRooms platform store) {group conversation : Conversation}
    (stored : group ∈ store.conversations) (type : group.type = .groupType)
    (inside : conversation ∈ store.conversations) (same : conversation.id = group.id) :
    conversation.privateKey = none := by
  obtain rfl := List.inj_on_of_nodup_map pairs.conversations.distinct inside stored same
  cases key : conversation.privateKey with
  | none => rfl
  | some privateKey =>
      obtain ⟨senderId, receiverId, -, holds⟩ := pairs.pairs conversation inside privateKey key
      have both := type.symm.trans holds.type
      cases both

/-- A write that keeps the pairs keeps the invariant. -/
theorem PairRooms.step (pairs : PairRooms platform store) (keeps : KeepsPairs store next) :
    PairRooms platform next where
  users := pairs.users.step keeps.users keeps.later
  conversations := pairs.conversations.step keeps.ids keeps.later
  members key inside := by
    apply keeps.exist key inside
    rcases keeps.fewer key inside with row | ⟨stored, -⟩
    · exact pairs.members key row
    · exact stored
  pairs conversation inside privateKey key := by
    have keyed : conversation.privateKey ≠ none := by simp [key]
    obtain ⟨old, stored, room⟩ := keeps.old inside keyed
    have same : old.privateKey = conversation.privateKey := congrArg (·.2.2) room
    obtain ⟨senderId, receiverId, made, holds⟩ := pairs.pairs old stored privateKey (same.trans key)
    exact ⟨senderId, receiverId, made, pairs.holdsPair keeps stored room (same ▸ keyed) inside holds⟩
  invited invitation sent := by
    have before : invitation.conversationId < store.nextId ∧ ∀ conversation ∈ store.conversations,
        conversation.id = invitation.conversationId → conversation.privateKey = none := by
      rcases keeps.invited invitation sent with ⟨old, stored, place⟩ | ⟨group, stored, place, type⟩
      · rw [← place]
        exact pairs.invited old stored
      · rw [← place]
        exact ⟨pairs.conversations.spent _ (List.mem_map_of_mem stored), fun _ inside => pairs.keyless stored type inside⟩
    refine ⟨Nat.lt_of_lt_of_le before.1 keeps.later, ?_⟩
    intro conversation inside place
    by_contra keyed
    obtain ⟨old, stored, room⟩ := keeps.old inside keyed
    have same : old.privateKey = conversation.privateKey := congrArg (·.2.2) room
    have id : old.id = conversation.id := congrArg Prod.fst room
    exact keyed (same.symm.trans (before.2 old stored (id.trans place)))

/-- A private conversation opens for two users who exist, and its identifier is new. -/
theorem PairRooms.opens (pairs : PairRooms platform store) {rule : Roster Uuid → Prop} (governed : Governed rule store)
    {senderId : Uuid} {receiverId : Text} (sender : store.hasUser senderId = true)
    (receiver : store.hasUser (parseUuid receiverId) = true)
    (opened : OpensRoom (keyOf platform senderId receiverId) (newUsers senderId receiverId) store next)
    (users : next.users = store.users) (invitations : next.invitations = store.invitations)
    (later : store.nextId < next.nextId) : PairRooms platform next where
  users := by
    rw [users]
    exact pairs.users.step (.refl _ _ _) (Nat.le_of_lt later)
  conversations := by
    apply pairs.conversations.step _ (Nat.le_of_lt later)
    right
    rw [map_id_eq next, opened.conversations, List.map_append, ← map_id_eq]
    exact ⟨rfl, later⟩
  members key inside := by
    rw [opened.members, List.mem_append] at inside
    rw [Store.hasUser, users]
    rcases inside with row | new
    · exact pairs.members key row
    · obtain ⟨userId, listed, rfl⟩ := List.mem_map.mp new
      rcases mem_newUsers.mp listed with rfl | rfl
      · exact sender
      · exact receiver
  pairs conversation inside privateKey key := by
    rcases opened.kept governed inside with ⟨old, stored, room, members⟩ | ⟨room, members⟩
    · have same : old.privateKey = conversation.privateKey := congrArg (·.2.2) room
      obtain ⟨first, second, made, holds⟩ := pairs.pairs old stored privateKey (same.trans key)
      refine ⟨first, second, made, ?_⟩
      constructor
      · exact (congrArg (·.2.1) room).symm.trans holds.type
      · exact ⟨Nat.lt_trans holds.spent.1 later, Nat.lt_trans holds.spent.2 later⟩
      · exact fun userId listed => holds.only userId ((members userId).mp listed)
      · intro userId either present
        rw [Store.hasUser, users] at present
        exact (members userId).mpr (holds.present userId either present)
    · have same : conversation.privateKey = some (keyOf platform senderId receiverId) := congrArg (·.2.2) room
      refine ⟨senderId, receiverId, Option.some.inj (key.symm.trans same), ?_⟩
      have spent {userId : Uuid} (present : store.hasUser userId = true) : userId < next.nextId :=
        Nat.lt_trans (pairs.users.spent userId (hasUser_iff.mp present)) later
      constructor
      · exact congrArg (·.2.1) room
      · exact ⟨spent sender, spent receiver⟩
      · exact fun userId listed => mem_newUsers.mp ((members userId).mp listed)
      · exact fun userId either _ => (members userId).mpr (mem_newUsers.mpr either)
  invited invitation sent := by
    rw [invitations] at sent
    obtain ⟨known, keyless⟩ := pairs.invited invitation sent
    refine ⟨Nat.lt_trans known later, ?_⟩
    intro conversation inside place
    rcases opened.kept governed inside with ⟨old, stored, room, -⟩ | ⟨room, -⟩
    · have same : old.privateKey = conversation.privateKey := congrArg (·.2.2) room
      have id : old.id = conversation.id := congrArg Prod.fst room
      exact same.symm.trans (keyless old stored (id.trans place))
    · have id : conversation.id = store.nextId := congrArg Prod.fst room
      rw [← place, id] at known
      exact absurd known (Nat.lt_irrefl _)

end Step

namespace KeepsPairs
variable {store next : Store}

theorem of_sameRooms (same : SameRooms store next) (users : next.users.map User.id = store.users.map User.id)
    (invitations : next.invitations.map (·.conversationId) = store.invitations.map (·.conversationId))
    (later : store.nextId ≤ next.nextId) : KeepsPairs store next where
  users := by
    rw [users]
    exact .refl _ _ _
  rooms := by
    rw [same.conversations]
    exact .inl (.refl _)
  fewer key inside := .inl (same.members ▸ inside)
  exist key _ stored := by
    rw [hasUser_iff] at stored ⊢
    rw [users]
    exact stored
  stays key inside _ _ := same.members ▸ inside
  invited invitation inside := by
    have listed : invitation.conversationId ∈ next.invitations.map (·.conversationId) := List.mem_map_of_mem inside
    rw [invitations] at listed
    exact .inl (List.mem_map.mp listed)
  later := later

theorem refl (store : Store) : KeepsPairs store store := of_sameRooms (.refl store) rfl rfl (Nat.le_refl _)

/-- A write outside the conversations keeps the pairs. -/
theorem of_tables (users : next.users.map User.id = store.users.map User.id)
    (conversations : next.conversations = store.conversations) (members : next.members = store.members)
    (invitations : next.invitations = store.invitations) (later : store.nextId ≤ next.nextId) :
    KeepsPairs store next :=
  of_sameRooms ⟨by rw [conversations], by rw [members]⟩ users (by rw [invitations]) later

/-- Deliveries and objects do not matter. -/
theorem withFiles (keeps : KeepsPairs store next) (deliveries : List MessageDelivery) (bucket : List StorageKey) :
    KeepsPairs store { next with deliveries, bucket } :=
  ⟨keeps.users, keeps.rooms, keeps.fewer, keeps.exist, keeps.stays, keeps.invited, keeps.later⟩

theorem addUser (row : User) (fresh : row.id = store.nextId) : KeepsPairs store (store.addUser row) where
  users := by
    right
    refine ⟨?_, Nat.lt_succ_self _⟩
    show (store.users ++ [row]).map User.id = _
    rw [List.map_append, ← fresh]
    rfl
  rooms := .inl (.refl _)
  fewer _ inside := .inl inside
  exist _ _ stored := by
    obtain ⟨user, present, id⟩ := List.any_eq_true.mp stored
    exact List.any_eq_true.mpr ⟨user, List.mem_append_left _ present, id⟩
  stays _ inside _ _ := inside
  invited invitation inside := .inl ⟨invitation, inside, rfl⟩
  later := Nat.le_succ _

theorem updateUser (userId : Uuid) (change : User → User) (keeps : ∀ user, (change user).id = user.id)
    (store : Store) : KeepsPairs store (UserRepository.updateUser userId change store) :=
  of_tables (map_updateWhere User.id _ _ keeps store.users) rfl rfl rfl (Nat.le_refl _)

theorem setStatus (status : GroupInvitationStatus) (conversationId targetId : Uuid) (store : Store) :
    KeepsPairs store (setStatus status conversationId targetId store) := by
  refine of_sameRooms ⟨rfl, rfl⟩ rfl ?_ (Nat.le_refl _)
  refine map_updateWhere GroupInvitation.conversationId _ _ ?_ store.invitations
  exact fun _ => rfl

theorem grouped (now : Nat) {ownerId : Uuid} (owner : store.hasUser ownerId = true) (dto : CreateGroupDto) :
    KeepsPairs store (grouped now ownerId dto store) where
  users := .refl _ _ _
  rooms := .inr ⟨List.map_append, Nat.lt_add_of_pos_right Nat.two_pos⟩
  fewer key inside := by
    obtain ⟨member, listed, rfl⟩ := List.mem_map.mp inside
    rcases List.mem_append.mp listed with stored | new
    · exact .inl (List.mem_map_of_mem stored)
    · rw [List.mem_singleton.mp new]
      exact .inr ⟨owner, .inl rfl⟩
  exist _ _ stored := stored
  stays key inside _ _ := by
    obtain ⟨member, listed, rfl⟩ := List.mem_map.mp inside
    exact List.mem_map_of_mem (List.mem_append_left _ listed)
  invited invitation inside := .inl ⟨invitation, inside, rfl⟩
  later := Nat.le_add_right _ 2

theorem joined (now : Nat) {conversationId userId : Uuid} (user : store.hasUser userId = true) {invitation : GroupInvitation}
    (sent : invitation ∈ store.invitations) (place : invitation.conversationId = conversationId) :
    KeepsPairs store (joined now conversationId userId store) where
  users := .refl _ _ _
  rooms := .inl (.refl _)
  fewer key inside := by
    obtain ⟨member, listed, rfl⟩ := List.mem_map.mp inside
    rcases List.mem_append.mp listed with stored | new
    · exact .inl (List.mem_map_of_mem stored)
    · rw [List.mem_singleton.mp new]
      exact .inr ⟨user, .inr ⟨invitation, sent, place⟩⟩
  exist _ _ stored := stored
  stays key inside _ _ := by
    obtain ⟨member, listed, rfl⟩ := List.mem_map.mp inside
    exact List.mem_map_of_mem (List.mem_append_left _ listed)
  invited other inside := (setStatus .accepted conversationId userId store).invited other inside
  later := Nat.le_succ _

theorem deleteMessages (doomed : Message → Bool) (store : Store) : KeepsPairs store (store.deleteMessages doomed) :=
  of_sameRooms ⟨map_room_deleteMessages doomed store, rfl⟩ rfl rfl (Nat.le_refl _)

theorem deleteConversations (doomed : Uuid → Bool) (store : Store) :
    KeepsPairs store (store.deleteConversations doomed) where
  users := .refl _ _ _
  rooms := by
    left
    rw [← map_room_deleteMessages (fun message => doomed message.conversationId) store]
    exact List.filter_sublist.map _
  fewer key inside := by
    obtain ⟨member, listed, rfl⟩ := List.mem_map.mp inside
    exact .inl (List.mem_map_of_mem (List.mem_filter.mp listed).1)
  exist _ _ stored := stored
  stays key inside kept _ := by
    obtain ⟨member, listed, rfl⟩ := List.mem_map.mp inside
    obtain ⟨conversation, stays, place⟩ := hasConversation_iff.mp kept
    have spared := (List.mem_filter.mp stays).2
    rw [place] at spared
    exact List.mem_map_of_mem (List.mem_filter.mpr ⟨listed, spared⟩)
  invited invitation inside := .inl ⟨invitation, (List.mem_filter.mp inside).1, rfl⟩
  later := Nat.le_refl _

/-- Only the rows of users who are deleted go. -/
theorem deleteUsers (distinct : (store.users.map User.id).Nodup) (doomed : User → Bool) :
    KeepsPairs store (store.deleteUsers doomed) where
  users := .inl (List.filter_sublist.map _)
  rooms := .inl (.refl _)
  fewer key inside := by
    obtain ⟨member, listed, rfl⟩ := List.mem_map.mp inside
    exact .inl (List.mem_map_of_mem (List.mem_filter.mp listed).1)
  exist key inside stored := by
    obtain ⟨member, listed, rfl⟩ := List.mem_map.mp inside
    have spared := (List.mem_filter.mp listed).2
    rw [Bool.not_eq_true', List.any_eq_false] at spared
    obtain ⟨user, present, id⟩ := List.any_eq_true.mp stored
    refine List.any_eq_true.mpr ⟨user, List.mem_filter.mpr ⟨present, ?_⟩, id⟩
    rw [Bool.not_eq_true', Bool.eq_false_iff]
    intro doomed
    exact spared user present (Bool.and_eq_true_iff.mpr ⟨id, doomed⟩)
  stays key inside _ kept := by
    obtain ⟨member, listed, rfl⟩ := List.mem_map.mp inside
    refine List.mem_map_of_mem (List.mem_filter.mpr ⟨listed, ?_⟩)
    obtain ⟨user, stays, id⟩ := List.mem_map.mp (hasUser_iff.mp kept)
    obtain ⟨stored, spared⟩ := List.mem_filter.mp stays
    rw [Bool.not_eq_true', List.any_eq_false]
    intro other present gone
    rw [Bool.and_eq_true, beq_iff_eq] at gone
    have same : other = user := List.inj_on_of_nodup_map distinct present stored (gone.1.trans id.symm)
    rw [← same, gone.2] at spared
    cases spared
  invited invitation inside := .inl ⟨invitation, (List.mem_filter.mp inside).1, rfl⟩
  later := Nat.le_refl _

end KeepsPairs

end Messinger
