import Messinger.Proof.Admissions
import Messinger.Proof.GroupFanOut
import Messinger.Proof.PairRoomRuns
import Messinger.Proof.Reopenings

namespace Messinger
open Library ConversationMemberRepository ConversationRepository ConversationService MessageService StorageService

/-- The message is saved once and delivered once, to the receiver, and its conversation has these two users as its
members, both of them active. -/
structure Arrives (senderId receiverId : Uuid) (message : Message) (store next : Store) : Prop where
  receiver : receiverId ≠ senderId ∧ next.hasUser receiverId = true
  sender : message.senderId = some senderId
  messages : next.messages = store.messages ++ [message]
  fresh : ∀ old ∈ store.messages, old.id ≠ message.id
  delivery : ∃ delivery, next.deliveries = store.deliveries ++ [delivery] ∧ delivery.messageId = message.id ∧
    delivery.userId = receiverId ∧ delivery.status = .sent
  counter : counterOf next message.conversationId receiverId = counterOf store message.conversationId receiverId + 1
  members : ∀ userId, userId ∈ memberIds next message.conversationId ↔ userId = senderId ∨ userId = receiverId
  active : ∀ userId, userId = senderId ∨ userId = receiverId → existsMember next message.conversationId userId = true

/-- The answer to the sender carries the identifier of the message, and the other frames announce new messages. -/
def Confirms (server : WebSocketServer) (connectionId messageId : Uuid) (frames : List Frame) : Prop :=
  ∃ others data, frames = others ++ server.sendMessage connectionId (.messageSent data) ∧
    data.messageId = some messageId ∧ ∀ frame ∈ others, ∃ news, frame.message = .newMessage news

/-- The message arrives, and the handler confirms it to the sender. -/
structure ArrivesConfirmed (platform : Platform) (server : WebSocketServer) (env : Env) (connectionId senderId : Uuid)
    (dto : PrivateMessageDto) (store : Store) (saved : SavedMessage) : Prop where
  arrives : ∃ message, message.id = saved.id ∧ Arrives senderId (parseUuid dto.receiverId) message store
    (createPrivateMessage platform env senderId dto store).2
  confirms : ∃ frames, (privateMessageHandler platform env server connectionId senderId dto store).1 = .ok frames ∧
    Confirms server connectionId saved.id frames

section Rows
variable {store : Store} {conversationId : Uuid}

theorem mem_recipients {senderId userId : Uuid} (present : store.hasConversation conversationId = true) :
    userId ∈ recipients (getConversationMembers store conversationId) senderId ↔
      userId ∈ memberIds store conversationId ∧ userId ≠ senderId := by
  unfold recipients
  rw [mem_memberIds]
  simp only [List.mem_map, List.mem_filter, bne_iff_ne]
  constructor
  · rintro ⟨member, ⟨listed, other⟩, rfl⟩
    rcases (mem_getConversationMembers present).mp listed with ⟨inside, place⟩
    exact ⟨⟨member, inside, congrArg (·, member.userId) place⟩, other⟩
  · rintro ⟨⟨member, inside, key⟩, other⟩
    have place : member.conversationId = conversationId := congrArg Prod.fst key
    obtain rfl : member.userId = userId := congrArg Prod.snd key
    exact ⟨member, ⟨(mem_getConversationMembers present).mpr ⟨inside, place⟩, other⟩, rfl⟩

/-- A message between the two members of a conversation has one recipient. -/
theorem recipients_pair (keys : (store.members.map ConversationMember.key).Nodup)
    (present : store.hasConversation conversationId = true) {senderId receiverId : Uuid}
    (different : receiverId ≠ senderId)
    (members : ∀ userId, userId ∈ memberIds store conversationId ↔ userId = senderId ∨ userId = receiverId) :
    recipients (getConversationMembers store conversationId) senderId = [receiverId] := by
  apply List.perm_singleton.mp
  rw [List.perm_ext_iff_of_nodup (getConversationMembers_nodup keys conversationId senderId) (List.nodup_singleton _)]
  intro userId
  rw [mem_recipients present, members, List.mem_singleton]
  constructor
  · rintro ⟨rfl | rfl, other⟩
    · exact absurd rfl other
    · rfl
  · rintro rfl
    exact ⟨.inr rfl, different⟩

/-- A listed user is active after the transaction, which restores the rows that were read as deleted. -/
theorem active_or_readAsDeleted (message : PrivateDraft) {userId : Uuid}
    (listed : userId ∈ memberIds store conversationId)
    (either : userId = message.senderId ∨ userId = parseUuid message.dto.receiverId) :
    existsMember store conversationId userId = true ∨ userId ∈ memberIds store conversationId ∧
      ReadAsDeleted message (findMember store conversationId message.senderId)
        (findMember store conversationId (parseUuid message.dto.receiverId)) userId := by
  cases found : findMember store conversationId userId with
  | none =>
      obtain ⟨member, inside, key⟩ := List.mem_map.mp (mem_memberIds.mp listed)
      exact absurd key.symm (findMember_none.mp found member inside)
  | some member =>
      cases deleted : member.softDeletedAt with
      | none => exact .inl (existsMember_of_found found deleted)
      | some time =>
          refine .inr ⟨listed, ?_⟩
          rcases either with rfl | rfl
          · exact .inl ⟨rfl, by simp [found, deleted]⟩
          · exact .inr ⟨rfl, by simp [found, deleted]⟩

end Rows

section Opening
variable {platform : Platform} {env : Env} {senderId : Uuid} {dto : PrivateMessageDto} {store between : Store}
  {conversation : Conversation}

/-- The conversation of a message has the key of the message, and finding or opening it keeps the users. -/
theorem getOrCreate_ok (opening : getOrCreatePrivateConversation platform env (privateMessageParams senderId dto) store =
      (.ok conversation, between)) :
    between.users = store.users ∧ conversation ∈ between.conversations ∧
      conversation.privateKey = some (keyOf platform senderId dto.receiverId) := by
  rcases getOrCreatePrivateConversation_cases platform env (privateMessageParams senderId dto) rfl store with
    ⟨exception, failed⟩ | ⟨privateKey, found, next, key, equal, ⟨same, listed⟩ | ⟨-, new, final, -⟩⟩
  · rw [opening] at failed
    cases failed
  · rw [opening] at equal
    cases equal
    rw [same]
    rcases lookup_mem Conversation.privateKey listed with ⟨stored, its⟩
    exact ⟨rfl, stored, its.trans (congrArg some key)⟩
  · rw [opening] at equal
    cases equal
    subst final
    rw [new]
    exact ⟨rfl, List.mem_append_right _ (List.mem_singleton_self _), congrArg some key⟩

/-- A message is saved for a sender who exists. -/
theorem createPrivateMessage_sender {result : List ConversationMember × SavedMessage}
    (done : (createPrivateMessage platform env senderId dto store).1 = .ok result) : store.hasUser senderId = true := by
  unfold createPrivateMessage at done
  have params : privateMessageParams senderId dto =
      { type := .privateType, creatorId := uuidText senderId, members := [dto.receiverId] } := rfl
  rw [← params] at done
  cases opening : getOrCreatePrivateConversation platform env (privateMessageParams senderId dto) store with
  | mk outcome between =>
      rw [opening] at done
      cases outcome with
      | error exception => cases done
      | ok conversation =>
          simp only at done
          rcases transaction_outcome rfl with ⟨exception, failed⟩ | ⟨value, next, body, -⟩
          · rw [failed] at done
            cases done
          · rcases ok_of_bind body with ⟨⟨saved, written⟩, saves, -⟩
            have present := persistMessage_sender saves
            obtain ⟨rows, shape⟩ := restored_eq env.now senderId (parseUuid dto.receiverId) conversation.id between
            unfold restored at shape
            rw [shape] at present
            rw [Store.hasUser, ← (getOrCreate_ok opening).1]
            exact present

variable (injective : Function.Injective platform.sha256) (accepted : isUuid dto.receiverId = true)
include injective accepted

/-- The conversation of an accepted message holds its sender and its receiver. -/
theorem PairRooms.holdsUsers (pairs : PairRooms platform between)
    (opening : getOrCreatePrivateConversation platform env (privateMessageParams senderId dto) store =
      (.ok conversation, between)) :
    HoldsPair between senderId (parseUuid dto.receiverId) conversation := by
  obtain ⟨-, inside, key⟩ := getOrCreate_ok opening
  obtain ⟨otherId, text, made, holds⟩ := pairs.pairs conversation inside _ key
  have users := users_of_keyOf injective (colon_not_mem_of_isUuid accepted) made.symm
  constructor
  · exact holds.type
  · have spent (userId : Uuid) (either : userId = senderId ∨ userId = parseUuid dto.receiverId) :
        userId < between.nextId := by
      rcases (users userId).mpr either with rfl | rfl
      · exact holds.spent.1
      · exact holds.spent.2
    exact ⟨spent _ (.inl rfl), spent _ (.inr rfl)⟩
  · exact fun userId listed => (users userId).mp (holds.only userId listed)
  · exact fun userId either present => holds.present userId ((users userId).mpr either) present

end Opening

/-- A message between the two members of its conversation arrives. -/
theorem persisted_arrives {store between : Store} {conversationId senderId : Uuid} {dto : PrivateMessageDto}
    (known : MessagesKnown store) (counts : SameCounts store between) (users : between.users = store.users)
    (keys : (between.members.map ConversationMember.key).Nodup)
    (present : between.hasConversation conversationId = true) (different : parseUuid dto.receiverId ≠ senderId)
    (receiver : store.hasUser (parseUuid dto.receiverId) = true)
    (members : ∀ userId, userId ∈ memberIds between conversationId ↔ userId = senderId ∨ userId = parseUuid dto.receiverId)
    (now : Nat) (ciphered : CipheredMessage) (uploads : List PendingUpload) :
    Arrives senderId (parseUuid dto.receiverId) (newMessage now senderId conversationId ciphered between.nextId) store
      (persisted now senderId conversationId (getConversationMembers between conversationId) ciphered uploads
        (restored now senderId (parseUuid dto.receiverId) conversationId between)) := by
  have single := recipients_pair keys present different members
  have rooms := (SameRooms.restored now senderId (parseUuid dto.receiverId) conversationId between).trans
    (.persisted now senderId conversationId (getConversationMembers between conversationId) ciphered uploads _)
  have listed (userId : Uuid) : userId ∈ memberIds (persisted now senderId conversationId
      (getConversationMembers between conversationId) ciphered uploads
        (restored now senderId (parseUuid dto.receiverId) conversationId between)) conversationId ↔
      userId = senderId ∨ userId = parseUuid dto.receiverId := by
    rw [← members, mem_memberIds, mem_memberIds, rooms.members]
  have kept : SameCounts between (restored now senderId (parseUuid dto.receiverId) conversationId between) :=
    .restored now senderId (parseUuid dto.receiverId) conversationId
  have active (userId : Uuid) (either : userId = senderId ∨ userId = parseUuid dto.receiverId) :=
    (exists_active_saved now ⟨senderId, dto, ciphered⟩ _ _ (getConversationMembers between conversationId) uploads
      conversationId).mpr (active_or_readAsDeleted ⟨senderId, dto, ciphered⟩ ((members userId).mpr either) either)
  have found : (findMember (restored now senderId (parseUuid dto.receiverId) conversationId between) conversationId
      (parseUuid dto.receiverId)).isSome = true := by
    cases lookup : findMember (restored now senderId (parseUuid dto.receiverId) conversationId between) conversationId
        (parseUuid dto.receiverId) with
    | some member => rfl
    | none =>
        have inside := mem_memberIds.mp ((members _).mpr (.inr rfl))
        rw [← (SameRooms.restored now senderId (parseUuid dto.receiverId) conversationId between).members] at inside
        obtain ⟨member, row, key⟩ := List.mem_map.mp inside
        exact absurd key.symm (findMember_none.mp lookup member row)
  have later := counterOf_persisted now senderId conversationId (getConversationMembers between conversationId) ciphered
    uploads (getConversationMembers_nodup keys conversationId senderId) found
  rw [single, if_pos ⟨rfl, List.mem_singleton_self _⟩, kept.counters, counts.counters] at later
  obtain ⟨rows, shape⟩ := restored_eq now senderId (parseUuid dto.receiverId) conversationId between
  rw [shape] at listed later ⊢
  constructor
  · refine ⟨different, ?_⟩
    rw [Store.hasUser, ← users] at receiver
    exact receiver
  · rfl
  · rw [persisted_messages]
    exact congrArg (· ++ _) counts.messages
  · intro old inside
    exact Nat.ne_of_lt (Nat.lt_of_lt_of_le (known.spent old inside) counts.later)
  · rw [persisted_deliveries, single]
    exact ⟨_, congrArg (· ++ _) counts.deliveries, rfl, rfl, rfl⟩
  · exact later
  · exact listed
  · rw [← shape]
    exact active

section Answer
variable {platform : Platform} {env : Env} {senderId : Uuid} {dto : PrivateMessageDto} {store next : Store}
  {members : List ConversationMember} {saved : SavedMessage}
  (done : createPrivateMessage platform env senderId dto store = (.ok (members, saved), next))
  (server : WebSocketServer) (connectionId : Uuid)
include done

theorem privateMessageHandler_confirms (received : recipients members senderId ≠ []) :
    ∃ frames, (privateMessageHandler platform env server connectionId senderId dto store).1 = .ok frames ∧
      Confirms server connectionId saved.id frames := by
  have some : ¬ (members.filter fun member => member.userId != senderId) = [] := by
    intro none
    exact received (by rw [recipients, none, List.map_nil])
  unfold privateMessageHandler answered
  rw [done]
  refine ⟨_, rfl, ?_⟩
  simp only [if_neg some]
  refine ⟨_, _, rfl, rfl, ?_⟩
  intro frame inside
  obtain ⟨member, -, sent⟩ := List.mem_flatMap.mp inside
  obtain ⟨receiver, -, written⟩ := List.mem_flatMap.mp sent
  unfold WebSocketServer.sendMessage at written
  split at written
  · rw [List.mem_singleton.mp written]
    exact ⟨_, rfl⟩
  · exact absurd written List.not_mem_nil

/-- The answer is empty when nobody receives the message. -/
theorem privateMessageHandler_silent (unreceived : recipients members senderId = []) :
    (privateMessageHandler platform env server connectionId senderId dto store).1 =
      .ok (server.sendMessage connectionId (.messageSent .empty)) := by
  have none : (members.filter fun member => member.userId != senderId) = [] := List.map_eq_nil_iff.mp unreceived
  unfold privateMessageHandler answered
  rw [done]
  simp [none, Except.map]

end Answer

/-- In every reachable state, a private message that succeeds arrives, with its identifier in the answer to the sender,
exactly when its receiver is another user who still exists. Otherwise nobody gets it, and the answer is empty. -/
theorem private_message_arrives_iff (platform : Platform) (injective : Function.Injective platform.sha256)
    (store : Store) (reachable : Reachable platform store) (server : WebSocketServer) (env : Env)
    (connectionId senderId : Uuid) (dto : PrivateMessageDto) (accepted : isUuid dto.receiverId = true)
    (members : List ConversationMember) (saved : SavedMessage)
    (done : (createPrivateMessage platform env senderId dto store).1 = .ok (members, saved)) :
    (ArrivesConfirmed platform server env connectionId senderId dto store saved ↔
      parseUuid dto.receiverId ≠ senderId ∧ store.hasUser (parseUuid dto.receiverId) = true) ∧
    (¬ (parseUuid dto.receiverId ≠ senderId ∧ store.hasUser (parseUuid dto.receiverId) = true) →
      (createPrivateMessage platform env senderId dto store).2.deliveries = store.deliveries ∧
        (privateMessageHandler platform env server connectionId senderId dto store).1 =
          .ok (server.sendMessage connectionId (.messageSent .empty))) := by
  have consistent := reachable.consistent
  have sender := createPrivateMessage_sender done
  rcases createPrivateMessage_cases platform env senderId dto store with ⟨exception, failed⟩ |
    ⟨conversation, between, opening, ⟨exception, failed⟩ | ⟨written, final, equal, id, present, uploads, -, shape⟩⟩
  · rw [failed] at done
    cases done
  · rw [failed] at done
    cases done
  · obtain ⟨rfl, rfl⟩ : members = getConversationMembers between conversation.id ∧ saved = written := by
      rw [equal] at done
      cases done
      exact ⟨rfl, rfl⟩
    have next := congrArg Prod.snd equal
    rw [shape] at next
    obtain ⟨users, -, -⟩ := getOrCreate_ok opening
    have governed := consistent.governed.getOrCreate platform env (privateMessageParams senderId dto) rfl
    rw [opening] at governed
    have pairs := reachable.pairRooms.getOrCreate env consistent.governed opening
    have holds := pairs.holdsUsers injective accepted opening
    have stored (userId : Uuid) : between.hasUser userId = store.hasUser userId := by
      rw [Store.hasUser, users]
      rfl
    refine ⟨⟨?_, ?_⟩, ?_⟩
    · rintro ⟨⟨message, -, arrives⟩, -⟩
      rw [next] at arrives
      refine ⟨arrives.receiver.1, ?_⟩
      have receiver := arrives.receiver.2
      obtain ⟨rows, restores⟩ := restored_eq env.now senderId (parseUuid dto.receiverId) conversation.id between
      rw [restores] at receiver
      exact (stored _).symm.trans receiver
    · rintro ⟨different, receiver⟩
      have both (userId : Uuid) : userId ∈ memberIds between conversation.id ↔
          userId = senderId ∨ userId = parseUuid dto.receiverId := by
        refine ⟨holds.only userId, fun either => holds.present userId either ?_⟩
        rw [stored]
        rcases either with rfl | rfl
        · exact sender
        · exact receiver
      constructor
      · rw [next]
        exact ⟨_, id.symm, persisted_arrives consistent.messages (.getOrCreate rfl opening) users governed.memberKeys
          present different receiver both env.now _ uploads⟩
      · apply privateMessageHandler_confirms equal server connectionId
        rw [recipients_pair governed.memberKeys present different both]
        exact List.cons_ne_nil _ _
    · intro fails
      have nobody : recipients (getConversationMembers between conversation.id) senderId = [] := by
        apply List.eq_nil_iff_forall_not_mem.mpr
        intro userId inside
        rcases (mem_recipients present).mp inside with ⟨listed, other⟩
        rcases holds.only userId listed with same | rfl
        · exact other same
        · exact fails ⟨other, (stored _).symm.trans (pairs.members _ (mem_memberIds.mp listed))⟩
      refine ⟨?_, privateMessageHandler_silent equal server connectionId nobody⟩
      have kept := (SameCounts.getOrCreate rfl opening).trans
        (.restored env.now senderId (parseUuid dto.receiverId) conversation.id)
      rw [next, persisted_deliveries, nobody]
      exact (List.append_nil _).trans kept.deliveries

/-- The message says "h". -/
def greeting (receiverId : Uuid) : PrivateMessageDto := { receiverId := uuidText receiverId, content := [104], attachments := [] }

/-- User 1 gets a second message of user 0, who is told its identifier. -/
theorem greeting_arrives :
    ∃ members saved, (createPrivateMessage plainPlatform (clock 9 0) 0 (greeting 1) strangersStore).1 =
        .ok (members, saved) ∧
      ArrivesConfirmed plainPlatform strangersServer (clock 9 0) 0 0 (greeting 1) strangersStore saved := by
  have written : ∃ members saved, (createPrivateMessage plainPlatform (clock 9 0) 0 (greeting 1) strangersStore).1 =
      .ok (members, saved) := ⟨_, _, rfl⟩
  rcases written with ⟨members, saved, succeeds⟩
  have arrives := private_message_arrives_iff plainPlatform Function.injective_id strangersStore ⟨_, rfl⟩
    strangersServer (clock 9 0) 0 0 (greeting 1) (by decide) members saved succeeds
  exact ⟨members, saved, succeeds, arrives.1.mpr ⟨by decide, by decide⟩⟩

/-- An admin signs in and deletes user 1. -/
def desertedRun : List (Env × Action) :=
  strangersRun ++
    [(clock 6 0, .adminSeed),
     requestAt 7 0 { route := .adminSignIn (some plainPlatform.adminName) (some plainPlatform.adminPassword) },
     requestAt 8 0 {
       cookies := {
         accessToken := some (.text (SessionRepository.signTokens plainPlatform 7000000
           { sub := 7, roles := [.superAdmin], sid := 8 }).accessToken)
         refreshToken := none }
       route := .deleteUser (some { userId := 1 }) }]

def desertedStore : Store := desertedRun.foldl (act plainPlatform) {}

/-- The message succeeds, nobody gets it, and the answer to the sender is empty. -/
def Vanishes (store : Store) (receiverId : Uuid) : Prop :=
  Reachable plainPlatform store ∧
    ∃ members saved, (createPrivateMessage plainPlatform (clock 9 0) 0 (greeting receiverId) store).1 =
        .ok (members, saved) ∧
      (privateMessageHandler plainPlatform (clock 9 0) strangersServer 0 0 (greeting receiverId) store).1 =
        .ok [⟨0, .messageSent .empty⟩] ∧
      ¬ ArrivesConfirmed plainPlatform strangersServer (clock 9 0) 0 0 (greeting receiverId) store saved

theorem vanishes_of_deliveries {store : Store} {receiverId : Uuid} (reachable : Reachable plainPlatform store)
    (succeeds : ∃ members saved, (createPrivateMessage plainPlatform (clock 9 0) 0 (greeting receiverId) store).1 =
      .ok (members, saved))
    (answer : (privateMessageHandler plainPlatform (clock 9 0) strangersServer 0 0 (greeting receiverId) store).1 =
      .ok [⟨0, .messageSent .empty⟩])
    (none : (createPrivateMessage plainPlatform (clock 9 0) 0 (greeting receiverId) store).2.deliveries =
      store.deliveries) : Vanishes store receiverId := by
  rcases succeeds with ⟨members, saved, done⟩
  refine ⟨reachable, members, saved, done, answer, ?_⟩
  rintro ⟨⟨message, -, arrives⟩, -⟩
  obtain ⟨delivery, added, -⟩ := arrives.delivery
  rw [none] at added
  exact List.cons_ne_nil _ _ (List.append_right_eq_self.mp added.symm)

/-- User 0 writes to itself, and to user 1, whose account is deleted. -/
theorem greetings_vanish : Vanishes strangersStore 0 ∧ Vanishes desertedStore 1 :=
  ⟨vanishes_of_deliveries ⟨_, rfl⟩ ⟨_, _, rfl⟩ rfl rfl, vanishes_of_deliveries ⟨_, rfl⟩ ⟨_, _, rfl⟩ rfl rfl⟩

end Messinger
