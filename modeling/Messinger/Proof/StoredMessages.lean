import Messinger.Proof.DeliveryRecords
import Messinger.Proof.HistoryPages
import Messinger.Proof.IntegralWrites
import Messinger.Proof.SentContents
import Messinger.Proof.StrangerRequests

namespace Messinger
open Library MessageService ConversationRepository MessageDeliveryRepository

/-- This is the message that was inserted last, among those that are stored for the conversation. -/
def newestMessage (store : Store) (conversationId : Uuid) : Option Uuid :=
  (store.messages.filter fun message => message.conversationId == conversationId).getLast?.map Message.id

/-- A conversation links to its newest message, or to none. -/
def LinksNewest (store : Store) : Prop :=
  ∀ conversation ∈ store.conversations, ∀ messageId, conversation.lastMessageId = some messageId →
    newestMessage store conversation.id = some messageId

section Links
variable {platform : Platform} {store next : Store}

/-- The last entry of a list is the last of those that are kept, if it is kept. -/
theorem getLast?_filter_kept {A : Type} {list : List A} {last : A} {keep : A → Bool} (found : list.getLast? = some last)
    (kept : keep last = true) : (list.filter keep).getLast? = some last := by
  obtain ⟨init, rfl⟩ := List.getLast?_eq_some_iff.mp found
  rw [List.filter_append, List.filter_singleton, kept, cond_true, List.getLast?_concat]

theorem newestMessage_congr {change : Message → Message}
    (keeps : ∀ message, (change message).id = message.id ∧
      (change message).conversationId = message.conversationId)
    (messages : next.messages = store.messages.map change) (conversationId : Uuid) :
    newestMessage next conversationId = newestMessage store conversationId := by
  have same : (fun message : Message => message.conversationId == conversationId) ∘ change =
      fun message => message.conversationId == conversationId := by
    funext message
    rw [Function.comp_apply, (keeps message).2]
  have ids : Message.id ∘ change = Message.id := by
    funext message
    exact (keeps message).1
  rw [newestMessage, newestMessage, messages, List.filter_map, same, List.getLast?_map, Option.map_map, ids]

/-- A newest message that is not doomed stays the newest. -/
theorem newestMessage_kept {doomed : Message → Bool} {conversationId messageId : Uuid}
    (newest : newestMessage store conversationId = some messageId)
    (stays : ∀ message ∈ store.messages, message.id = messageId → doomed message = false) :
    newestMessage (store.deleteMessages doomed) conversationId = some messageId := by
  obtain ⟨message, last, same⟩ := Option.map_eq_some_iff.mp newest
  have stored := (List.mem_filter.mp (List.mem_of_getLast? last)).1
  have kept : (!doomed message) = true := by rw [stays message stored same, Bool.not_false]
  have filtered := @getLast?_filter_kept _ _ _ (fun message => !doomed message) last kept
  rw [List.filter_filter] at filtered
  have same_rows : (store.deleteMessages doomed).messages.filter
        (fun message => message.conversationId == conversationId) =
      store.messages.filter fun message => !doomed message && message.conversationId == conversationId := by
    change (store.messages.filter fun message => !doomed message).filter _ = _
    rw [List.filter_filter]
    exact congrArg (fun test => store.messages.filter test) (funext fun message => Bool.and_comm ..)
  rw [newestMessage, same_rows, filtered, Option.map_some, same]

theorem LinksNewest.deleteMessages (before : LinksNewest store) (doomed : Message → Bool) :
    LinksNewest (store.deleteMessages doomed) := by
  intro conversation inside messageId links
  obtain ⟨old, there, rfl⟩ := List.mem_map.mp inside
  -- a link that is left names a message that stays
  by_cases cleared : old.lastMessageId.any
      (fun messageId => store.messages.any fun message => message.id == messageId && doomed message) = true
  · rw [if_pos cleared] at links
    cases links
  · rw [if_neg cleared] at links ⊢
    refine newestMessage_kept (before old there messageId links) ?_
    intro message stored same
    rw [← Bool.not_eq_true]
    intro gone
    rw [links] at cleared
    refine cleared (List.any_eq_true.mpr ⟨message, stored, ?_⟩)
    rw [beq_iff_eq.mpr same, gone, Bool.and_self]

/-- The new message is the newest of its conversation, and of no other. -/
theorem newestMessage_posted {row : Message} (messages : next.messages = store.messages ++ [row])
    (conversationId : Uuid) : newestMessage next conversationId =
      if row.conversationId = conversationId then some row.id else newestMessage store conversationId := by
  rw [newestMessage, messages, List.filter_append, List.filter_singleton]
  by_cases same : row.conversationId = conversationId
  · rw [if_pos same, beq_iff_eq.mpr same, cond_true, List.getLast?_concat, Option.map_some]
  · rw [if_neg same, beq_eq_false_iff_ne.mpr same, cond_false, List.append_nil]
    rfl

theorem Write.linksNewest (write : Write platform store next) (before : LinksNewest store) : LinksNewest next := by
  cases write with
  | openConversation row rows id empty =>
      intro conversation inside messageId links
      obtain old | new := List.mem_append.mp inside
      · exact before conversation old messageId links
      · rw [List.mem_singleton.mp new, empty] at links
        cases links
  | deleteUsers doomed =>
      intro conversation inside messageId links
      rw [← before conversation inside messageId links]
      refine newestMessage_congr ?_ rfl conversation.id
      intro message
      split <;> exact ⟨rfl, rfl⟩
  | deleteMessages doomed => exact before.deleteMessages doomed
  | deleteConversations doomed =>
      intro conversation inside messageId links
      exact before.deleteMessages _ conversation (List.mem_of_mem_filter inside) messageId links
  | postMessage now row senderId userIds =>
      intro conversation inside messageId links
      obtain ⟨old, there, rfl⟩ := mem_updateWhere.mp inside
      rw [newestMessage_posted rfl]
      by_cases same : old.id = row.conversationId
      · rw [if_pos (beq_iff_eq.mpr same)] at links ⊢
        rw [if_pos same.symm]
        exact links
      · rw [if_neg fun equal => same (beq_iff_eq.mp equal)] at links ⊢
        rw [if_neg fun equal => same equal.symm]
        exact before old there messageId links
  | _ => exact before

end Links

/-- A delivery belongs to a message and to a user. -/
def MessageDelivery.address (delivery : MessageDelivery) : Uuid × Uuid := (delivery.messageId, delivery.userId)

/-- Private conversations have at most two members, and every message reaches each of its users once. -/
structure Addressed (store : Store) : Prop where
  pairs : ∀ conversation ∈ store.conversations, conversation.type = .privateType →
    (store.members.filter fun member => member.conversationId == conversation.id).length ≤ 2
  single : (store.deliveries.map MessageDelivery.address).Nodup
  others : ∀ delivery ∈ store.deliveries, ∀ message ∈ store.messages, message.id = delivery.messageId →
    message.senderId ≠ some delivery.userId

section Addresses
variable {platform : Platform} {store next : Store}

theorem membersOf_length (members : List ConversationMember) (conversationId : Uuid) :
    (members.filter fun member => member.conversationId == conversationId).length =
      ((members.map ConversationMember.key).filter fun key => key.1 == conversationId).length := by
  rw [List.filter_map, List.length_map]
  rfl

/-- A write that opens no conversation, adds no member and sends no message. -/
theorem Addressed.of_tables (before : Addressed store)
    (kinds : List.Sublist (next.conversations.map Conversation.kind) (store.conversations.map Conversation.kind))
    (keys : List.Sublist (next.members.map ConversationMember.key) (store.members.map ConversationMember.key))
    (deliveries : List.Sublist (next.deliveries.map MessageDelivery.address)
      (store.deliveries.map MessageDelivery.address))
    (messages : ∀ message ∈ next.messages, ∃ old ∈ store.messages, old.id = message.id ∧
      (message.senderId = old.senderId ∨ message.senderId = none)) : Addressed next where
  pairs conversation inside type := by
    obtain ⟨old, there, kind⟩ := List.mem_map.mp (kinds.subset (List.mem_map_of_mem inside))
    have id : old.id = conversation.id := congrArg Prod.fst kind
    have oldType : old.type = conversation.type := congrArg Prod.snd kind
    have few := before.pairs old there (oldType.trans type)
    rw [membersOf_length, id] at few
    rw [membersOf_length]
    exact Nat.le_trans (keys.filter _).length_le few
  single := before.single.sublist deliveries
  others delivery inside message stored same := by
    obtain ⟨old, there, address⟩ := List.mem_map.mp (deliveries.subset (List.mem_map_of_mem inside))
    have messageId : old.messageId = delivery.messageId := congrArg Prod.fst address
    have userId : old.userId = delivery.userId := congrArg Prod.snd address
    obtain ⟨posted, sent, id, kept | cleared⟩ := messages message stored
    · rw [kept, ← userId]
      exact before.others old there posted sent (id.trans (same.trans messageId.symm))
    · rw [cleared]
      nofun

theorem message_itself (messages : List Message) : ∀ message ∈ messages, ∃ old ∈ messages, old.id = message.id ∧
    (message.senderId = old.senderId ∨ message.senderId = none) :=
  fun message inside => ⟨message, inside, rfl, .inl rfl⟩

theorem message_kept {messages : List Message} {keep : Message → Bool} : ∀ message ∈ messages.filter keep,
    ∃ old ∈ messages, old.id = message.id ∧ (message.senderId = old.senderId ∨ message.senderId = none) :=
  fun message inside => ⟨message, List.mem_of_mem_filter inside, rfl, .inl rfl⟩

theorem MessageDelivery.message_of_record {delivery other : MessageDelivery} (same : delivery.record = other.record) :
    delivery.messageId = other.messageId := by
  have messages := congrFun same .messageId
  simpa only [MessageDelivery.record, Option.some.injEq, SqlValue.uuid.injEq] using messages

/-- A conversation opens for at most two users, or as a group. -/
theorem Addressed.openConversation (before : Addressed store) (integral : Integral store) {row : Conversation}
    {rows : List ConversationMember} (id : row.id = store.nextId)
    (own : ∀ member ∈ rows, member.conversationId = row.id) (size : row.type = .privateType → rows.length ≤ 2)
    (conversations : next.conversations = store.conversations ++ [row]) (members : next.members = store.members ++ rows)
    (deliveries : next.deliveries = store.deliveries) (messages : next.messages = store.messages) :
    Addressed next where
  pairs conversation inside type := by
    rw [conversations] at inside
    rw [members, List.filter_append, List.length_append]
    obtain old | new := List.mem_append.mp inside
    · have apart : rows.filter (fun member => member.conversationId == conversation.id) = [] := by
        refine List.filter_eq_nil_iff.mpr fun member listed same => ?_
        have below := integral.supplied.ids .conversations _ (List.mem_map_of_mem old) conversation.id rfl
        rw [← beq_iff_eq.mp same, own member listed, id] at below
        exact Nat.lt_irrefl _ below
      rw [apart]
      exact before.pairs conversation old type
    · obtain rfl := List.mem_singleton.mp new
      have fresh : store.members.filter (fun member => member.conversationId == conversation.id) = [] := by
        refine List.filter_eq_nil_iff.mpr fun member listed same => ?_
        obtain ⟨target, there, arrives⟩ := integral.constraints.foreign
          (reference .conversationMembers .conversationId .conversations .cascade) (by decide) member.record
          (List.mem_map_of_mem listed) _ rfl
        have below := integral.supplied.ids .conversations target there member.conversationId arrives
        rw [beq_iff_eq.mp same, id] at below
        exact Nat.lt_irrefl _ below
      rw [fresh, List.length_nil, Nat.zero_add]
      exact Nat.le_trans (List.length_filter_le _ _) (size type)
  single := by
    rw [deliveries]
    exact before.single
  others delivery inside message stored := by
    rw [deliveries] at inside
    rw [messages] at stored
    exact before.others delivery inside message stored

/-- Whoever joins later joins a group. -/
theorem Addressed.insertMembers (before : Addressed store) {rows : List ConversationMember}
    (group : ∀ row ∈ rows, store.GroupOrGone row.conversationId) :
    Addressed { store with members := store.members ++ rows } where
  pairs conversation inside type := by
    have apart : rows.filter (fun member => member.conversationId == conversation.id) = [] := by
      refine List.filter_eq_nil_iff.mpr fun member listed same => ?_
      have groupType := (group member listed).group conversation inside (beq_iff_eq.mp same).symm
      rw [type] at groupType
      cases groupType
    change ((store.members ++ rows).filter fun member => member.conversationId == conversation.id).length ≤ 2
    rw [List.filter_append, apart, List.append_nil]
    exact before.pairs conversation inside type
  single := before.single
  others := before.others

/-- The deliveries of a new message are the first that name it. -/
theorem Addressed.postMessage (before : Addressed store) (integral : Integral store) (now : Nat) {row : Message}
    {senderId : Uuid} {userIds : List Uuid} (id : row.id = store.nextId) (sender : row.senderId = some senderId)
    (distinct : userIds.Nodup) (others : senderId ∉ userIds) :
    Addressed (updateLastMessage now row.conversationId row.id (createDeliveries now row.id userIds
      { store with messages := store.messages ++ [row], nextId := store.nextId + 1 })) := by
  have older : ∀ delivery ∈ store.deliveries, delivery.messageId ≠ row.id := by
    intro delivery inside same
    obtain ⟨target, there, arrives⟩ := integral.constraints.foreign
      (reference .messageDeliveries .messageId .messages .cascade) (by decide) delivery.record
      (List.mem_map_of_mem inside) _ rfl
    have below := integral.supplied.ids .messages target there delivery.messageId arrives
    rw [same, id] at below
    exact Nat.lt_irrefl _ below
  constructor
  · intro conversation inside type
    obtain ⟨old, there, kind⟩ := List.mem_map.mp
      ((updateLastMessage_kinds now row.conversationId row.id) ▸ List.mem_map_of_mem inside)
    have oldId : old.id = conversation.id := congrArg Prod.fst kind
    have oldType : old.type = conversation.type := congrArg Prod.snd kind
    rw [← oldId]
    exact before.pairs old there (oldType.trans type)
  · change ((store.deliveries ++ newDeliveries now row.id (store.nextId + 1) userIds).map MessageDelivery.address).Nodup
    rw [List.map_append]
    refine before.single.append ?_ ?_
    · have users := newDeliveries_users now row.id (store.nextId + 1) userIds
      refine List.Nodup.of_map Prod.snd ?_
      rw [List.map_map]
      exact users.symm ▸ distinct
    · intro address old new
      obtain ⟨delivery, there, rfl⟩ := List.mem_map.mp old
      obtain ⟨other, listed, same⟩ := List.mem_map.mp new
      refine older delivery there ?_
      rw [← (mem_newDeliveries listed).1]
      exact (congrArg Prod.fst same).symm
  · intro delivery inside message stored same
    have rows : delivery ∈ store.deliveries ++ newDeliveries now row.id (store.nextId + 1) userIds := inside
    have posted : message ∈ store.messages ++ [row] := stored
    obtain old | new := List.mem_append.mp rows
    · obtain there | last := List.mem_append.mp posted
      · exact before.others delivery old message there same
      · exact absurd (same.symm.trans (congrArg Message.id (List.mem_singleton.mp last))) (older delivery old)
    · obtain there | last := List.mem_append.mp posted
      · have below : message.id < store.nextId :=
          integral.supplied.ids .messages message.record (List.mem_map_of_mem there) message.id rfl
        rw [same, (mem_newDeliveries new).1, id] at below
        exact absurd below (Nat.lt_irrefl _)
      · rw [List.mem_singleton.mp last, sender]
        intro equal
        rw [Option.some.injEq] at equal
        rw [equal] at others
        exact others (mem_newDeliveries new).2.2.1

theorem Write.addressed (write : Write platform store next) (integral : Integral store) (before : Addressed store) :
    Addressed next := by
  cases write with
  | openConversation row rows id empty free present keys size =>
      exact before.openConversation integral id (fun member inside => (present member inside).1) size rfl rfl rfl rfl
  | insertMembers rows present keys group => exact before.insertMembers group
  | postMessage now row senderId userIds id conversation sender user ciphered distinct others =>
      exact before.postMessage integral now id sender distinct others
  | deleteUsers doomed =>
      refine before.of_tables (.refl _) (List.filter_sublist.map _) (.refl _) ?_
      intro message inside
      obtain ⟨old, there, rfl⟩ := List.mem_map.mp inside
      refine ⟨old, there, ?_⟩
      split
      · exact ⟨rfl, .inr rfl⟩
      · exact ⟨rfl, .inl rfl⟩
  | deleteConversations doomed =>
      exact before.of_tables ((List.filter_sublist.map _).trans (sublist_of_eq (deleteMessages_kinds _)))
        (List.filter_sublist.map _) (List.filter_sublist.map _) message_kept
  | deleteMessages doomed =>
      exact before.of_tables (sublist_of_eq (deleteMessages_kinds doomed)) (.refl _) (List.filter_sublist.map _)
        message_kept
  | updateMembers matching change keeps =>
      refine before.of_tables (.refl _) (sublist_of_eq ?_) (.refl _) (message_itself _)
      exact map_updateWhere ConversationMember.key _ change
        (fun member => ConversationMember.key_of_record (keeps member)) store.members
  | updateDeliveries matching change keeps =>
      refine before.of_tables (.refl _) (.refl _) (sublist_of_eq ?_) (message_itself _)
      refine map_updateWhere MessageDelivery.address _ change (fun delivery => ?_) store.deliveries
      exact Prod.ext (MessageDelivery.message_of_record (keeps delivery).1) (keeps delivery).2
  | _ => exact before.of_tables (.refl _) (.refl _) (.refl _) (message_itself _)

end Addresses

/-- The service can read what it has ciphered. -/
theorem Ciphered.deciphers {platform : Platform} {ciphered : CipheredMessage} (sealed : Ciphered platform ciphered)
    (opens : platform.Opens) :
    ∃ content, decipherMessage platform ciphered.cipheredContent ciphered.iv ciphered.authTag =
      .ok (toWellFormed content) := by
  obtain ⟨env, content, rfl⟩ := sealed
  exact ⟨content, decipherMessage_cipherMessage opens env content⟩

section Reading
variable {platform : Platform} {store : Store}

end Reading

section Runs
variable (platform : Platform) (jsonParse : CodeUnits → Option Json) (turns : List BackendTurn) (position : Nat)

/-- Whichever order the turns are taken in, a conversation links to the message that was inserted last among
those that are stored for it, or to none. -/
theorem backend_linksNewest : LinksNewest (backendStore platform jsonParse turns position) :=
  backend_invariant (fun conversation inside => by cases inside)
    (fun _ _ write before => write.linksNewest before) turns position

theorem backend_addressed : Addressed (backendStore platform jsonParse turns position) := by
  have initial : Integral {} ∧ Addressed {} := by
    refine ⟨integral_empty, ⟨fun conversation inside => ?_, List.nodup_nil, fun delivery inside => ?_⟩⟩
    · cases inside
    · cases inside
  have kept : ∀ store next, Write platform store next → Integral store ∧ Addressed store →
      Integral next ∧ Addressed next :=
    fun _ _ write before => ⟨write.integral before.1, write.addressed before.1 before.2⟩
  exact (backend_invariant initial kept turns position).2

/-- A private conversation never has a third member, however its calls overlap with those that add members. -/
theorem backend_pairs : ∀ conversation ∈ (backendStore platform jsonParse turns position).conversations,
    conversation.type = .privateType →
      ((backendStore platform jsonParse turns position).members.filter fun member =>
        member.conversationId == conversation.id).length ≤ 2 :=
  (backend_addressed platform jsonParse turns position).pairs

/-- A message has at most one delivery for each user, and none for its sender. -/
theorem backend_deliveries :
    ((backendStore platform jsonParse turns position).deliveries.map MessageDelivery.address).Nodup ∧
      ∀ delivery ∈ (backendStore platform jsonParse turns position).deliveries,
        ∀ message ∈ (backendStore platform jsonParse turns position).messages, message.id = delivery.messageId →
          message.senderId ≠ some delivery.userId :=
  ⟨(backend_addressed platform jsonParse turns position).single,
    (backend_addressed platform jsonParse turns position).others⟩

end Runs

/-- The calls of three strangers, each in one turn. -/
def strangersTurns : List BackendTurn :=
  strangersRun.map fun action => .service (.call (action.1, .action action.2))

/-- The users 0 and 1 are the members of their conversation. -/
theorem strangersTurns_pair :
    ((backendStore plainPlatform (fun _ => none) strangersTurns 5).members.filter fun member =>
      member.conversationId == 4).length ≤ 2 := by
  obtain ⟨conversation, inside, id, type⟩ :
      ∃ conversation ∈ (backendStore plainPlatform (fun _ => none) strangersTurns 5).conversations,
        conversation.id = 4 ∧ conversation.type = .privateType := by decide
  rw [← id]
  exact backend_pairs plainPlatform _ strangersTurns 5 conversation inside type

end Messinger
