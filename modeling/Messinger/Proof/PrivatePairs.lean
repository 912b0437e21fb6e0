import Messinger.Proof.PrivateRooms

namespace Messinger
open Library ConversationMemberRepository ConversationRepository ConversationService MessageService

/-- These users have a row of the conversation, with or without a soft deletion. -/
def memberIds (store : Store) (conversationId : Uuid) : List Uuid :=
  ((store.members.map ConversationMember.key).filter fun key => key.1 == conversationId).map (·.2)

/-- The members of the private conversation are the two users, or the one user alone. -/
structure Between (store : Store) (first second : Uuid) (conversation : Conversation) : Prop where
  type : conversation.type = .privateType
  left : first ∈ memberIds store conversation.id
  right : second ∈ memberIds store conversation.id
  only : ∀ userId ∈ memberIds store conversation.id, userId = first ∨ userId = second

instance (store : Store) (first second : Uuid) (conversation : Conversation) :
    Decidable (Between store first second conversation) :=
  decidable_of_iff (conversation.type = .privateType ∧ first ∈ memberIds store conversation.id ∧
      second ∈ memberIds store conversation.id ∧
      ∀ userId ∈ memberIds store conversation.id, userId = first ∨ userId = second)
    ⟨fun ⟨type, left, right, only⟩ => ⟨type, left, right, only⟩,
      fun between => ⟨between.type, between.left, between.right, between.only⟩⟩

/-- Two users share at most one private conversation, and a user has at most one alone. -/
structure OnePerPair (store : Store) : Prop where
  pairs : ∀ first second, first ≠ second →
    ∀ conversation ∈ store.conversations, ∀ other ∈ store.conversations,
      conversation.type = .privateType → other.type = .privateType →
      first ∈ memberIds store conversation.id → second ∈ memberIds store conversation.id →
      first ∈ memberIds store other.id → second ∈ memberIds store other.id → conversation.id = other.id
  alone : ∀ userId, ∀ conversation ∈ store.conversations, ∀ other ∈ store.conversations,
    Between store userId userId conversation → Between store userId userId other → conversation.id = other.id

/-- A message that can open a conversation spells its receiver as in the key of the conversation that its
users have, if they have one. -/
def SpellsAsStored (platform : Platform) (store : Store) : Env × PairCall → Prop
  | (env, .createPrivateMessage senderId dto _) =>
      CanOpen env senderId dto store → ∀ conversation ∈ store.conversations,
        Between store senderId (parseUuid dto.receiverId) conversation →
        conversation.privateKey = some (keyOf platform senderId dto.receiverId)
  | _ => True

instance (platform : Platform) (store : Store) :
    (action : Env × PairCall) → Decidable (SpellsAsStored platform store action)
  | (env, .createPrivateMessage senderId dto _) =>
      inferInstanceAs (Decidable (CanOpen env senderId dto store → ∀ conversation ∈ store.conversations,
        Between store senderId (parseUuid dto.receiverId) conversation →
        conversation.privateKey = some (keyOf platform senderId dto.receiverId)))
  | (_, .deletePrivateConversation _ _) => isTrue trivial
  | (_, .leaveGroup _ _) => isTrue trivial

theorem mem_memberIds {store : Store} {conversationId userId : Uuid} :
    userId ∈ memberIds store conversationId ↔
      (conversationId, userId) ∈ store.members.map ConversationMember.key := by
  unfold memberIds
  simp only [List.mem_map, List.mem_filter, beq_iff_eq, Prod.exists]
  constructor
  · rintro ⟨conversation, user, ⟨row, rfl⟩, rfl⟩
    exact row
  · intro row
    exact ⟨conversationId, userId, ⟨row, rfl⟩, rfl⟩

/-- The conversation was there before with the same key and the same members. -/
def Kept (store next : Store) (conversation : Conversation) : Prop :=
  ∃ old ∈ store.conversations, old.room = conversation.room ∧
    ∀ userId, userId ∈ memberIds next conversation.id ↔ userId ∈ memberIds store old.id

section Changes
variable {store next : Store} {conversation : Conversation}

theorem SameRooms.kept (same : SameRooms store next) (inside : conversation ∈ next.conversations) :
    Kept store next conversation := by
  have room : conversation.room ∈ store.conversations.map Conversation.room :=
    same.conversations ▸ List.mem_map_of_mem inside
  obtain ⟨old, present, equal⟩ := List.mem_map.mp room
  refine ⟨old, present, equal, ?_⟩
  have id : old.id = conversation.id := congrArg Prod.fst equal
  intro userId
  rw [mem_memberIds, mem_memberIds, same.members, id]

theorem DropsRoom.kept {conversationId : Uuid} (dropped : DropsRoom conversationId store next)
    (inside : conversation ∈ next.conversations) : Kept store next conversation := by
  have room : conversation.room ∈
      (store.conversations.map Conversation.room).filter fun room => room.1 != conversationId :=
    dropped.conversations ▸ List.mem_map_of_mem inside
  obtain ⟨listed, other⟩ := List.mem_filter.mp room
  obtain ⟨old, present, equal⟩ := List.mem_map.mp listed
  refine ⟨old, present, equal, ?_⟩
  have id : old.id = conversation.id := congrArg Prod.fst equal
  intro userId
  rw [mem_memberIds, mem_memberIds, dropped.members, List.mem_filter, id]
  exact and_iff_left other

/-- A conversation after the opening was there before, or is the new one with its users. -/
theorem OpensRoom.kept {rule : Roster Uuid → Prop} (governed : Governed rule store) {privateKey : Text}
    {users : List Uuid} (opens : OpensRoom privateKey users store next)
    (inside : conversation ∈ next.conversations) :
    Kept store next conversation ∨
      conversation.room = (store.nextId, .privateType, some privateKey) ∧
        ∀ userId, userId ∈ memberIds next conversation.id ↔ userId ∈ users := by
  have room : conversation.room ∈ store.conversations.map Conversation.room ++
      [(store.nextId, .privateType, some privateKey)] :=
    opens.conversations ▸ List.mem_map_of_mem inside
  obtain listed | new := List.mem_append.mp room
  · obtain ⟨old, present, equal⟩ := List.mem_map.mp listed
    refine .inl ⟨old, present, equal, ?_⟩
    have id : old.id = conversation.id := congrArg Prod.fst equal
    have known := governed.conversationsKnown old present
    intro userId
    rw [mem_memberIds, mem_memberIds, opens.members, List.mem_append, ← id]
    refine or_iff_left ?_
    intro added
    obtain ⟨user, -, same⟩ := List.mem_map.mp added
    have place : store.nextId = old.id := congrArg Prod.fst same
    exact absurd known (place ▸ Nat.lt_irrefl _)
  · have equal := List.mem_singleton.mp new
    refine .inr ⟨equal, ?_⟩
    have id : conversation.id = store.nextId := congrArg Prod.fst equal
    intro userId
    rw [mem_memberIds, opens.members, List.mem_append, id]
    constructor
    · rintro (old | added)
      · obtain ⟨member, listed, same⟩ := List.mem_map.mp old
        have known := governed.membersKnown member listed
        have place : member.conversationId = store.nextId := congrArg Prod.fst same
        exact absurd known (place ▸ Nat.lt_irrefl _)
      · obtain ⟨user, listed, same⟩ := List.mem_map.mp added
        cases same
        exact listed
    · exact fun listed => .inr (List.mem_map_of_mem listed)

end Changes

/-- The conversation has the key and the members of a message with this spelling of its receiver. -/
def Spelled (platform : Platform) (store : Store) (conversation : Conversation) : Prop :=
  ∃ senderId receiverId, ':' ∉ receiverId ∧
    conversation.privateKey = some (keyOf platform senderId receiverId) ∧
    Between store senderId (parseUuid receiverId) conversation

/-- Each conversation belongs to the users in its key, and no two users share a second one. -/
structure Paired (platform : Platform) (store : Store) : Prop where
  governed : Governed (fun roster => ∃ owner, SoleHolder roster owner) store
  ids : (store.conversations.map Conversation.id).Nodup
  spelled : ∀ conversation ∈ store.conversations, Spelled platform store conversation
  one : OnePerPair store

section Invariant
variable {platform : Platform} {store next : Store}

theorem Between.of_kept {first second : Uuid} {conversation old : Conversation} (room : old.room = conversation.room)
    (members : ∀ userId, userId ∈ memberIds next conversation.id ↔ userId ∈ memberIds store old.id) :
    Between next first second conversation ↔ Between store first second old := by
  have type : old.type = conversation.type := congrArg (·.2.1) room
  constructor
  · intro between
    refine ⟨type.trans between.type, (members first).mp between.left, (members second).mp between.right, ?_⟩
    exact fun userId inside => between.only userId ((members userId).mpr inside)
  · intro between
    refine ⟨type.symm.trans between.type, (members first).mpr between.left, (members second).mpr between.right, ?_⟩
    exact fun userId inside => between.only userId ((members userId).mp inside)

theorem between_iff {first second : Uuid} {conversation : Conversation} :
    Between store first second conversation ↔ conversation.type = .privateType ∧
      ∀ userId, userId ∈ memberIds store conversation.id ↔ userId = first ∨ userId = second := by
  constructor
  · intro between
    refine ⟨between.type, fun userId => ⟨between.only userId, ?_⟩⟩
    rintro (rfl | rfl)
    · exact between.left
    · exact between.right
  · rintro ⟨type, members⟩
    exact ⟨type, (members first).mpr (.inl rfl), (members second).mpr (.inr rfl), fun userId => (members userId).mp⟩

/-- Two different members of a private conversation are its two members. -/
theorem Between.of_mem {first second left right : Uuid} {conversation : Conversation}
    (between : Between store first second conversation) (different : left ≠ right)
    (leftInside : left ∈ memberIds store conversation.id) (rightInside : right ∈ memberIds store conversation.id) :
    Between store left right conversation := by
  refine ⟨between.type, leftInside, rightInside, ?_⟩
  intro userId inside
  obtain rfl | rfl := between.only left leftInside
  · obtain rfl | rfl := between.only right rightInside
    · exact absurd rfl different
    · exact between.only userId inside
  · obtain rfl | rfl := between.only right rightInside
    · exact (between.only userId inside).symm
    · exact absurd rfl different

theorem OnePerPair.eq_of_between (one : OnePerPair store) {first second : Uuid} {conversation other : Conversation}
    (inside : conversation ∈ store.conversations) (present : other ∈ store.conversations)
    (between : Between store first second conversation) (otherBetween : Between store first second other) :
    conversation.id = other.id := by
  by_cases same : first = second
  · subst same
    exact one.alone first conversation inside other present between otherBetween
  · exact one.pairs first second same conversation inside other present between.type otherBetween.type
      between.left between.right otherBetween.left otherBetween.right

/-- Where every conversation has one or two members, it is enough to compare those with the same members. -/
theorem OnePerPair.of_between
    (pairs : ∀ conversation ∈ store.conversations, ∃ first second, Between store first second conversation)
    (unique : ∀ first second, ∀ conversation ∈ store.conversations, ∀ other ∈ store.conversations,
      Between store first second conversation → Between store first second other → conversation.id = other.id) :
    OnePerPair store := by
  constructor
  · intro first second different conversation inside other present _ _ left right otherLeft otherRight
    obtain ⟨_, _, between⟩ := pairs conversation inside
    obtain ⟨_, _, otherBetween⟩ := pairs other present
    exact unique first second conversation inside other present (between.of_mem different left right)
      (otherBetween.of_mem different otherLeft otherRight)
  · exact fun userId => unique userId userId

theorem OnePerPair.of_kept (one : OnePerPair store)
    (kept : ∀ conversation ∈ next.conversations, Kept store next conversation) : OnePerPair next := by
  constructor
  · intro first second different conversation inside other present type otherType left right otherLeft otherRight
    obtain ⟨old, listed, room, members⟩ := kept conversation inside
    obtain ⟨older, stored, same, users⟩ := kept other present
    have equal := one.pairs first second different old listed older stored
      ((congrArg (·.2.1) room).trans type) ((congrArg (·.2.1) same).trans otherType)
      ((members first).mp left) ((members second).mp right) ((users first).mp otherLeft)
      ((users second).mp otherRight)
    exact ((congrArg Prod.fst room).symm.trans equal).trans (congrArg Prod.fst same)
  · intro userId conversation inside other present between otherBetween
    obtain ⟨old, listed, room, members⟩ := kept conversation inside
    obtain ⟨older, stored, same, users⟩ := kept other present
    have equal := one.alone userId old listed older stored ((Between.of_kept room members).mp between)
      ((Between.of_kept same users).mp otherBetween)
    exact ((congrArg Prod.fst room).symm.trans equal).trans (congrArg Prod.fst same)

theorem spelled_of_kept {conversation : Conversation}
    (spelled : ∀ conversation ∈ store.conversations, Spelled platform store conversation)
    (kept : Kept store next conversation) : Spelled platform next conversation := by
  obtain ⟨old, listed, room, members⟩ := kept
  obtain ⟨senderId, receiverId, plain, key, between⟩ := spelled old listed
  have same : old.privateKey = conversation.privateKey := congrArg (·.2.2) room
  exact ⟨senderId, receiverId, plain, same.symm.trans key, (Between.of_kept room members).mpr between⟩

theorem Paired.of_kept (paired : Paired platform store)
    (governed : Governed (fun roster => ∃ owner, SoleHolder roster owner) next)
    (ids : (next.conversations.map Conversation.id).Nodup)
    (kept : ∀ conversation ∈ next.conversations, Kept store next conversation) : Paired platform next :=
  ⟨governed, ids, fun conversation inside => spelled_of_kept paired.spelled (kept conversation inside),
    paired.one.of_kept kept⟩

theorem colon_not_mem_of_isUuid {text : Text} (accepted : isUuid text = true) : ':' ∉ text := by
  intro inside
  obtain ⟨index, found⟩ := List.mem_iff_getElem?.mp inside
  have listed : (':', index) ∈ text.zipIdx := List.mem_zipIdx_iff_getElem?.mpr found
  have allowed := List.all_eq_true.mp (Bool.and_eq_true_iff.mp accepted).2 _ listed
  simp only at allowed
  split at allowed
  · exact absurd allowed (by decide)
  · exact absurd allowed (by decide)

/-- A key that is stored with a pair of users belongs to that pair. -/
theorem Paired.between_of_key (paired : Paired platform store) (injective : Function.Injective platform.sha256)
    {senderId : Uuid} {receiverId : Text} (accepted : isUuid receiverId = true) {conversation : Conversation}
    (inside : conversation ∈ store.conversations)
    (key : conversation.privateKey = some (keyOf platform senderId receiverId)) :
    Between store senderId (parseUuid receiverId) conversation := by
  obtain ⟨sender, receiver, plain, stored, between⟩ := paired.spelled conversation inside
  have same : keyOf platform sender receiver = keyOf platform senderId receiverId :=
    Option.some.inj (stored.symm.trans key)
  have users := users_of_keyOf injective (colon_not_mem_of_isUuid accepted) same
  have member (userId : Uuid) : userId ∈ memberIds store conversation.id ↔
      (userId = sender ∨ userId = parseUuid receiver) := by
    constructor
    · exact between.only userId
    · rintro (rfl | rfl)
      · exact between.left
      · exact between.right
  refine ⟨between.type, ?_, ?_, ?_⟩
  · exact (member senderId).mpr ((users senderId).mpr (.inl rfl))
  · exact (member _).mpr ((users _).mpr (.inr rfl))
  · exact fun userId listed => (users userId).mp ((member userId).mp listed)

theorem Paired.empty (users : List User) (pendingUploads : List PendingUpload) (bucket : List StorageKey)
    (nextId : Uuid) : Paired platform (emptyStore users pendingUploads bucket nextId) := by
  refine ⟨governed_emptyStore soleHolder_office users pendingUploads bucket nextId, List.nodup_nil, ?_, ?_, ?_⟩
  · exact fun _ inside => absurd inside List.not_mem_nil
  · exact fun _ _ _ _ inside => absurd inside List.not_mem_nil
  · exact fun _ _ inside => absurd inside List.not_mem_nil

theorem Paired.sameRooms (paired : Paired platform store) (same : SameRooms store next)
    (governed : Governed (fun roster => ∃ owner, SoleHolder roster owner) next) : Paired platform next := by
  exact paired.of_kept governed (same.ids paired.ids) fun _ => same.kept

theorem Paired.dropsRoom (paired : Paired platform store) {conversationId : Uuid}
    (dropped : DropsRoom conversationId store next)
    (governed : Governed (fun roster => ∃ owner, SoleHolder roster owner) next) : Paired platform next := by
  exact paired.of_kept governed (dropped.ids paired.ids) fun _ => dropped.kept

/-- A conversation that no other conversation of its users precedes keeps the pairs apart. -/
theorem Paired.opensRoom (paired : Paired platform store) {senderId : Uuid} {receiverId : Text}
    (accepted : isUuid receiverId = true)
    (opens : OpensRoom (keyOf platform senderId receiverId) (newUsers senderId receiverId) store next)
    (first : ∀ conversation ∈ store.conversations, ¬ Between store senderId (parseUuid receiverId) conversation)
    (governed : Governed (fun roster => ∃ owner, SoleHolder roster owner) next) : Paired platform next := by
  have distinct := opens.ids paired.ids paired.governed.conversationsKnown
  have cases : ∀ conversation ∈ next.conversations, Kept store next conversation ∨
      conversation.privateKey = some (keyOf platform senderId receiverId) ∧ conversation.id = store.nextId ∧
        Between next senderId (parseUuid receiverId) conversation := by
    intro conversation inside
    obtain kept | ⟨room, members⟩ := opens.kept paired.governed inside
    · exact .inl kept
    · refine .inr ⟨congrArg (·.2.2) room, congrArg Prod.fst room, ?_⟩
      exact between_iff.mpr ⟨congrArg (·.2.1) room, fun userId => (members userId).trans mem_newUsers⟩
  have spelled : ∀ conversation ∈ next.conversations, Spelled platform next conversation := by
    intro conversation inside
    obtain kept | ⟨key, -, between⟩ := cases conversation inside
    · exact spelled_of_kept paired.spelled kept
    · exact ⟨senderId, receiverId, colon_not_mem_of_isUuid accepted, key, between⟩
  have apart {left right : Uuid} {conversation other : Conversation} (kept : Kept store next conversation)
      (between : Between next senderId (parseUuid receiverId) other) (here : Between next left right conversation)
      (there : Between next left right other) : False := by
    obtain ⟨old, listed, room, members⟩ := kept
    have users (userId : Uuid) : (userId = left ∨ userId = right) ↔
        (userId = senderId ∨ userId = parseUuid receiverId) :=
      ((between_iff.mp there).2 userId).symm.trans ((between_iff.mp between).2 userId)
    obtain ⟨type, mine⟩ := between_iff.mp ((Between.of_kept room members).mp here)
    exact first old listed (between_iff.mpr ⟨type, fun userId => (mine userId).trans (users userId)⟩)
  refine ⟨governed, distinct, spelled, OnePerPair.of_between ?_ ?_⟩
  · intro conversation inside
    obtain ⟨sender, receiver, -, -, between⟩ := spelled conversation inside
    exact ⟨_, _, between⟩
  · intro left right conversation inside other present here there
    obtain kept | ⟨-, id, between⟩ := cases conversation inside
    · obtain otherKept | ⟨-, otherId, otherBetween⟩ := cases other present
      · obtain ⟨old, listed, room, members⟩ := kept
        obtain ⟨older, stored, same, users⟩ := otherKept
        have equal := paired.one.eq_of_between listed stored ((Between.of_kept room members).mp here)
          ((Between.of_kept same users).mp there)
        exact ((congrArg Prod.fst room).symm.trans equal).trans (congrArg Prod.fst same)
      · exact (apart kept otherBetween here there).elim
    · obtain otherKept | ⟨-, otherId, otherBetween⟩ := cases other present
      · exact (apart otherKept between there here).elim
      · exact id.trans otherId.symm

/-- A second conversation of the same users breaks the pairs apart. -/
theorem OnePerPair.first_of_opensRoom (paired : Paired platform store) (one : OnePerPair next)
    {senderId : Uuid} {receiverId : Text}
    (opens : OpensRoom (keyOf platform senderId receiverId) (newUsers senderId receiverId) store next) :
    ∀ conversation ∈ store.conversations, ¬ Between store senderId (parseUuid receiverId) conversation := by
  intro old listed between
  have known := paired.governed.conversationsKnown old listed
  have stays : old.room ∈ next.conversations.map Conversation.room := by
    rw [opens.conversations]
    exact List.mem_append_left _ (List.mem_map_of_mem listed)
  have added : (store.nextId, ConversationType.privateType, some (keyOf platform senderId receiverId)) ∈
      next.conversations.map Conversation.room := by
    rw [opens.conversations]
    exact List.mem_append_right _ (List.mem_singleton_self _)
  obtain ⟨kept, inside, room⟩ := List.mem_map.mp stays
  obtain ⟨new, present, newRoom⟩ := List.mem_map.mp added
  have keptId : kept.id = old.id := congrArg Prod.fst room
  have newId : new.id = store.nextId := congrArg Prod.fst newRoom
  have here : Between next senderId (parseUuid receiverId) kept := by
    obtain ⟨older, -, same, members⟩ | ⟨other, -⟩ := opens.kept paired.governed inside
    · have id : older.id = old.id := (congrArg Prod.fst same).trans keptId
      rw [id] at members
      exact (Between.of_kept room.symm members).mpr between
    · have id : kept.id = store.nextId := congrArg Prod.fst other
      rw [← id, keptId] at known
      exact absurd known (Nat.lt_irrefl _)
  have there : Between next senderId (parseUuid receiverId) new := by
    obtain ⟨older, stored, same, -⟩ | ⟨-, members⟩ := opens.kept paired.governed present
    · have id : older.id = store.nextId := (congrArg Prod.fst same).trans newId
      exact absurd (paired.governed.conversationsKnown older stored) (id ▸ Nat.lt_irrefl _)
    · exact between_iff.mpr ⟨congrArg (·.2.1) newRoom, fun userId => (members userId).trans mem_newUsers⟩
  have equal := one.eq_of_between inside present here there
  rw [keptId, newId] at equal
  exact absurd known (equal ▸ Nat.lt_irrefl _)

end Invariant

/-- Every two users share at most one private conversation in every state exactly when every message that can
open a conversation spells its receiver as in the key of the conversation that its users have. -/
theorem one_conversation_per_pair_iff {platform : Platform} (injective : Function.Injective platform.sha256)
    (users : List User) (pendingUploads : List PendingUpload) (bucket : List StorageKey) (nextId : Uuid)
    (actions : List (Env × PairCall)) :
    (∀ position, OnePerPair (stateAt (runPairCall platform) (emptyStore users pendingUploads bucket nextId)
        actions position)) ↔
      Meets (runPairCall platform) (SpellsAsStored platform) (emptyStore users pendingUploads bucket nextId)
        actions := by
  refine always_iff_meets (runPairCall platform) (Paired platform) OnePerPair
    (Paired.empty users pendingUploads bucket nextId) (fun _ paired => paired.one) ?_ ?_
  · intro store action paired spells
    have governed := paired.governed.run platform (action.1, action.2.call)
    obtain ⟨env, call⟩ := action
    cases call with
    | createPrivateMessage senderId dto accepted =>
        obtain ⟨missing, opens, opened⟩ | ⟨-, same⟩ :=
          createPrivateMessage_rooms paired.governed platform env senderId dto
        · refine paired.opensRoom accepted opened ?_ governed
          intro conversation inside between
          exact (lookup_eq_none Conversation.privateKey).mp missing conversation inside
            (spells opens conversation inside between)
        · exact paired.sameRooms same governed
    | deletePrivateConversation userId conversationId =>
        obtain same | dropped := deletePrivateConversation_rooms env userId conversationId store
        · exact paired.sameRooms same governed
        · exact paired.dropsRoom dropped governed
    | leaveGroup userId conversationId =>
        exact paired.sameRooms (sameRooms_leaveGroup env userId conversationId store) governed
  · intro store action paired one
    obtain ⟨env, call⟩ := action
    cases call with
    | createPrivateMessage senderId dto accepted =>
        intro opens conversation inside between
        obtain ⟨missing, -, opened⟩ | ⟨closed, same⟩ :=
          createPrivateMessage_rooms paired.governed platform env senderId dto
        · exact absurd between (one.first_of_opensRoom paired opened conversation inside)
        · cases found : findByPrivateKey store (keyOf platform senderId dto.receiverId) with
          | none => exact absurd opens (closed found)
          | some existing =>
              obtain ⟨present, key⟩ := lookup_mem Conversation.privateKey found
              have there := paired.between_of_key injective accepted present key
              have id := paired.one.eq_of_between inside present between there
              rw [List.inj_on_of_nodup_map paired.ids inside present id]
              exact key
    | deletePrivateConversation userId conversationId => exact trivial
    | leaveGroup userId conversationId => exact trivial

/-- The message spells its receiver as the database prints it. -/
def PairCall.canonical : PairCall → Prop
  | .createPrivateMessage _ dto _ => dto.receiverId = uuidText (parseUuid dto.receiverId)
  | _ => True

/-- Each conversation has the key of its users as the database prints them. -/
structure CanonicalKeys (platform : Platform) (store : Store) : Prop where
  governed : Governed (fun roster => ∃ owner, SoleHolder roster owner) store
  keys : ∀ conversation ∈ store.conversations, ∀ first second, Between store first second conversation →
    conversation.privateKey = some (keyOf platform first (uuidText second))

theorem keyOf_of_users {platform : Platform} {first second left right : Uuid}
    (users : ∀ userId, (userId = left ∨ userId = right) ↔ (userId = first ∨ userId = second)) :
    keyOf platform left (uuidText right) = keyOf platform first (uuidText second) := by
  obtain rfl | rfl := (users left).mp (.inl rfl)
  · obtain rfl | rfl := (users right).mp (.inr rfl)
    · obtain rfl | rfl := (users second).mpr (.inr rfl) <;> rfl
    · rfl
  · obtain rfl | rfl := (users right).mp (.inr rfl)
    · exact generatePrivateKey_comm platform _ _
    · obtain rfl | rfl := (users first).mpr (.inl rfl) <;> rfl

namespace CanonicalKeys
variable {platform : Platform} {store next : Store}

theorem of_kept (canonical : CanonicalKeys platform store)
    (governed : Governed (fun roster => ∃ owner, SoleHolder roster owner) next)
    (kept : ∀ conversation ∈ next.conversations, Kept store next conversation) : CanonicalKeys platform next := by
  refine ⟨governed, ?_⟩
  intro conversation inside first second between
  obtain ⟨old, listed, room, members⟩ := kept conversation inside
  have key : old.privateKey = conversation.privateKey := congrArg (·.2.2) room
  rw [← key]
  exact canonical.keys old listed first second ((Between.of_kept room members).mp between)

theorem opensRoom (canonical : CanonicalKeys platform store)
    (governed : Governed (fun roster => ∃ owner, SoleHolder roster owner) next) {senderId : Uuid}
    {receiverId : Text} (spelled : receiverId = uuidText (parseUuid receiverId))
    (opens : OpensRoom (keyOf platform senderId receiverId) (newUsers senderId receiverId) store next) :
    CanonicalKeys platform next := by
  refine ⟨governed, ?_⟩
  intro conversation inside first second between
  obtain ⟨old, listed, room, members⟩ | ⟨room, members⟩ := opens.kept canonical.governed inside
  · have key : old.privateKey = conversation.privateKey := congrArg (·.2.2) room
    rw [← key]
    exact canonical.keys old listed first second ((Between.of_kept room members).mp between)
  · have key : conversation.privateKey = some (keyOf platform senderId receiverId) := congrArg (·.2.2) room
    rw [key, spelled]
    refine congrArg some (keyOf_of_users fun userId => ?_)
    exact ((members userId).trans mem_newUsers).symm.trans ((between_iff.mp between).2 userId)

theorem sameRooms (canonical : CanonicalKeys platform store) (same : SameRooms store next)
    (governed : Governed (fun roster => ∃ owner, SoleHolder roster owner) next) : CanonicalKeys platform next :=
  canonical.of_kept governed fun _ => same.kept

theorem dropsRoom (canonical : CanonicalKeys platform store) {conversationId : Uuid}
    (dropped : DropsRoom conversationId store next)
    (governed : Governed (fun roster => ∃ owner, SoleHolder roster owner) next) : CanonicalKeys platform next :=
  canonical.of_kept governed fun _ => dropped.kept

theorem run (canonical : CanonicalKeys platform store) (action : Env × PairCall)
    (spelled : action.2.canonical) : CanonicalKeys platform (runPairCall platform store action) := by
  have governed := canonical.governed.run platform (action.1, action.2.call)
  obtain ⟨env, call⟩ := action
  cases call with
  | createPrivateMessage senderId dto accepted =>
      obtain ⟨-, -, opened⟩ | ⟨-, same⟩ := createPrivateMessage_rooms canonical.governed platform env senderId dto
      · have text : dto.receiverId = uuidText (parseUuid dto.receiverId) := spelled
        exact canonical.opensRoom governed text opened
      · exact canonical.sameRooms same governed
  | deletePrivateConversation userId conversationId =>
      obtain same | dropped := deletePrivateConversation_rooms env userId conversationId store
      · exact canonical.sameRooms same governed
      · exact canonical.dropsRoom dropped governed
  | leaveGroup userId conversationId =>
      exact canonical.sameRooms (sameRooms_leaveGroup env userId conversationId store) governed

end CanonicalKeys

/-- Messages that spell their receivers as the database prints them keep one conversation for each pair. -/
theorem one_conversation_per_pair_of_canonical {platform : Platform} (injective : Function.Injective platform.sha256)
    (users : List User) (pendingUploads : List PendingUpload) (bucket : List StorageKey) (nextId : Uuid)
    (actions : List (Env × PairCall)) (canonical : ∀ action ∈ actions, action.2.canonical) (position : Nat) :
    OnePerPair (stateAt (runPairCall platform) (emptyStore users pendingUploads bucket nextId) actions position) := by
  refine (one_conversation_per_pair_iff injective users pendingUploads bucket nextId actions).mpr ?_ position
  have listed : Meets (runPairCall platform) (fun _ action => action.2.canonical)
      (emptyStore users pendingUploads bucket nextId) actions :=
    fun _ action present => canonical action (List.mem_of_getElem? present)
  have keys (position : Nat) : CanonicalKeys platform (stateAt (runPairCall platform)
      (emptyStore users pendingUploads bucket nextId) actions position) := by
    apply listed.invariant (runPairCall platform) (CanonicalKeys platform)
    · exact ⟨governed_emptyStore soleHolder_office users pendingUploads bucket nextId,
        fun _ inside => absurd inside List.not_mem_nil⟩
    · exact fun _ action held spelled => held.run action spelled
  intro position action present
  have spelled := canonical action (List.mem_of_getElem? present)
  obtain ⟨env, call⟩ := action
  cases call with
  | createPrivateMessage senderId dto accepted =>
      intro _ conversation inside between
      have text : dto.receiverId = uuidText (parseUuid dto.receiverId) := spelled
      rw [text]
      exact (keys position).keys conversation inside senderId (parseUuid dto.receiverId) between
  | deletePrivateConversation userId conversationId => exact trivial
  | leaveGroup userId conversationId => exact trivial

/-- The database prints these two users as 00000000-0000-4000-8000-00000000000a and -00000000000b. -/
def pairUsers : List Uuid := [0x4000800000000000000a, 0x4000800000000000000b]

def pairStore : Store := emptyStore (pairUsers.map fun id => { id, role := .user, createdAt := 0 }) [] [] 10

/-- The first user writes to the second one, deletes the conversation and gets an answer. -/
def answeredPair : List (Env × PairCall) :=
  [({ now := 1 }, .createPrivateMessage 0x4000800000000000000a
      ⟨uuidText 0x4000800000000000000b, [104], []⟩ (by decide)),
    ({ now := 2 }, .deletePrivateConversation 0x4000800000000000000a 10),
    ({ now := 3 }, .createPrivateMessage 0x4000800000000000000b
      ⟨uuidText 0x4000800000000000000a, [105], []⟩ (by decide))]

theorem answeredPair_has_one_conversation :
    OnePerPair (stateAt (runPairCall plainPlatform) pairStore answeredPair 3) :=
  (one_conversation_per_pair_iff (fun _ _ same => same) _ [] [] 10 answeredPair).mpr (by decide) 3

/-- The first user writes to the second one with capital letters, and gets an answer. -/
def capitalReceiver : List (Env × PairCall) :=
  [({ now := 1 }, .createPrivateMessage 0x4000800000000000000a
      ⟨(uuidText 0x4000800000000000000b).map Char.toUpper, [104], []⟩ (by decide)),
    ({ now := 2 }, .createPrivateMessage 0x4000800000000000000b
      ⟨uuidText 0x4000800000000000000a, [105], []⟩ (by decide))]

/-- The answer opens a second conversation of the same two users. -/
theorem capital_receiver_gets_two_conversations :
    ¬ ∀ position, OnePerPair (stateAt (runPairCall plainPlatform) pairStore capitalReceiver position) := by
  intro one
  have twice := (one 2).pairs 0x4000800000000000000a 0x4000800000000000000b (by decide)
  have apart : ∃ conversation ∈ (stateAt (runPairCall plainPlatform) pairStore capitalReceiver 2).conversations,
      ∃ other ∈ (stateAt (runPairCall plainPlatform) pairStore capitalReceiver 2).conversations,
        conversation.type = .privateType ∧ other.type = .privateType ∧
        0x4000800000000000000a ∈
          memberIds (stateAt (runPairCall plainPlatform) pairStore capitalReceiver 2) conversation.id ∧
        0x4000800000000000000b ∈
          memberIds (stateAt (runPairCall plainPlatform) pairStore capitalReceiver 2) conversation.id ∧
        0x4000800000000000000a ∈ memberIds (stateAt (runPairCall plainPlatform) pairStore capitalReceiver 2) other.id ∧
        0x4000800000000000000b ∈ memberIds (stateAt (runPairCall plainPlatform) pairStore capitalReceiver 2) other.id ∧
        conversation.id ≠ other.id := by
    decide
  obtain ⟨conversation, inside, other, present, type, otherType, left, right, otherLeft, otherRight, different⟩ := apart
  exact different (twice conversation inside other present type otherType left right otherLeft otherRight)

end Messinger
