import Messinger.Proof.AttachmentOrigins
import Messinger.Proof.GroupAudiences

namespace Messinger
open Library ConversationMemberRepository ConversationRepository ConversationService MessageService
  StorageService

/-- This is an active row of the conversation, and its user is not the sender. -/
def addresses (senderId conversationId : Uuid) (member : ConversationMember) : Bool :=
  member.conversationId == conversationId && member.softDeletedAt.isNone && member.userId != senderId

/-- The tables that a message does not concern are the same. -/
structure OthersSame (store next : Store) : Prop where
  users : next.users = store.users
  sessions : next.sessions = store.sessions
  events : next.events = store.events
  invitations : next.invitations = store.invitations
  pushSubscriptions : next.pushSubscriptions = store.pushSubscriptions
  bucket : next.bucket = store.bucket

/-- The message is saved once and delivered once to each row that it addresses, and what else changes is the row of
the group, the attachments of the message, and the pending uploads of the sender. -/
structure FansOut (now : Nat) (senderId conversationId : Uuid) (saved : SavedMessage) (store next : Store) : Prop where
  message : ∃ message, next.messages = store.messages ++ [message] ∧ message.id = saved.id ∧
    message.conversationId = conversationId ∧ message.senderId = some senderId
  fresh : ∀ message ∈ store.messages, message.id ≠ saved.id
  deliveries : ∃ rows, next.deliveries = store.deliveries ++ rows ∧
    rows.map (fun row => (row.messageId, row.userId, row.status)) =
      (store.members.filter (addresses senderId conversationId)).map fun member =>
        (saved.id, member.userId, MessageStatus.sent)
  members : next.members = store.members.map fun member =>
    if addresses senderId conversationId member then { member with unreadCount := member.unreadCount + 1 } else member
  conversations : next.conversations = store.conversations.map fun conversation =>
    if conversation.id = conversationId then { conversation with lastMessageId := some saved.id, updatedAt := now }
    else conversation
  attachments : ∃ rows, next.attachments = store.attachments ++ rows ∧ ∀ row ∈ rows, row.messageId = saved.id
  uploads : ∃ keep : PendingUpload → Bool, next.pendingUploads = store.pendingUploads.filter keep ∧
    ∀ upload ∈ store.pendingUploads, upload.userId ≠ senderId → keep upload = true
  others : OthersSame store next

section Persisted
variable {store : Store} (now : Nat) (senderId conversationId : Uuid) (ciphered : CipheredMessage)
  (uploads : List PendingUpload)

/-- The recipients are the users of the rows that the message addresses. -/
theorem recipients_getMembers :
    recipients (getMembers store conversationId) senderId =
      (store.members.filter (addresses senderId conversationId)).map ConversationMember.userId := by
  rw [recipients, getMembers, List.filter_filter]
  congr 2
  funext member
  rw [addresses, Bool.and_comm]

theorem mem_recipients_iff (keys : (store.members.map ConversationMember.key).Nodup) {member : ConversationMember}
    (inside : member ∈ store.members) :
    member.conversationId = conversationId ∧ member.userId ∈ recipients (getMembers store conversationId) senderId ↔
      addresses senderId conversationId member = true := by
  rw [recipients_getMembers, List.mem_map]
  constructor
  · rintro ⟨place, other, listed, user⟩
    rcases List.mem_filter.mp listed with ⟨present, addressed⟩
    have located : other.conversationId = conversationId := by
      simp only [addresses, Bool.and_eq_true, beq_iff_eq] at addressed
      exact addressed.1.1
    have same : other = member :=
      List.inj_on_of_nodup_map keys present inside (Prod.ext (located.trans place.symm) user)
    exact same ▸ addressed
  · intro addressed
    refine ⟨?_, member, List.mem_filter.mpr ⟨inside, addressed⟩, rfl⟩
    simp only [addresses, Bool.and_eq_true, beq_iff_eq] at addressed
    exact addressed.1.1

/-- The counters of the addressed rows grow by one. -/
theorem persisted_members (keys : (store.members.map ConversationMember.key).Nodup) :
    (persisted now senderId conversationId (getMembers store conversationId) ciphered uploads store).members =
      store.members.map fun member =>
        if addresses senderId conversationId member then { member with unreadCount := member.unreadCount + 1 }
        else member := by
  show store.members.map (countUnread conversationId (recipients (getMembers store conversationId) senderId)) = _
  apply List.map_congr_left
  intro member inside
  rw [countUnread, countP_key (getMembers_nodup keys conversationId senderId) conversationId
    (show member.key = (member.conversationId, member.userId) from rfl)]
  simp only [mem_recipients_iff senderId conversationId keys inside]
  split <;> rfl

theorem newDeliveries_sent (messageId first : Uuid) (userIds : List Uuid) :
    (newDeliveries now messageId first userIds).map (fun row => (row.messageId, row.userId, row.status)) =
      userIds.map fun userId => (messageId, userId, MessageStatus.sent) := by
  rw [← newDeliveries_users now messageId first userIds, List.map_map, newDeliveries_users]
  apply List.map_congr_left
  intro row inside
  rcases mem_newDeliveries inside with ⟨message, sent, -⟩
  simp [message, sent]

/-- Only uploads of the sender leave the pending uploads. -/
theorem persisted_uploads (apart : UploadsApart store) {attachments : List MessageAttachmentDto}
    (found : findUploads now senderId store attachments = .ok uploads) {upload : PendingUpload}
    (inside : upload ∈ store.pendingUploads) (foreign : upload.userId ≠ senderId) :
    (uploads.all fun taken => upload.id != taken.id) = true := by
  rw [List.all_eq_true]
  intro taken listed
  rw [bne_iff_ne]
  intro same
  have usable := findUploads_usable found taken listed
  have equal : upload = taken := apart upload inside taken usable.pending same
  exact foreign (equal ▸ usable.owner)

theorem persisted_fansOut (consistent : Consistent store) (apart : UploadsApart store) {saved : SavedMessage}
    (id : saved.id = store.nextId) {attachments : List MessageAttachmentDto}
    (found : findUploads now senderId store attachments = .ok uploads) :
    FansOut now senderId conversationId saved store
      (persisted now senderId conversationId (getMembers store conversationId) ciphered uploads store) where
  message := ⟨newMessage now senderId conversationId ciphered store.nextId, rfl, id.symm, rfl, rfl⟩
  fresh message inside := by
    rw [id]
    exact Nat.ne_of_lt (consistent.messages.spent message inside)
  deliveries := by
    refine ⟨_, persisted_deliveries now senderId conversationId _ ciphered uploads, ?_⟩
    rw [newDeliveries_sent, recipients_getMembers, List.map_map, id]
    rfl
  members := persisted_members now senderId conversationId ciphered uploads consistent.governed.memberKeys
  conversations := by
    rw [id]
    show updateWhere _ _ store.conversations = _
    unfold updateWhere
    simp only [beq_iff_eq]
  attachments := by
    refine ⟨_, rfl, ?_⟩
    intro row inside
    rcases List.mem_map.mp inside with ⟨⟨upload, index⟩, -, rfl⟩
    exact id.symm
  uploads := ⟨_, rfl, fun _ inside foreign => persisted_uploads now senderId uploads apart found inside foreign⟩
  others := ⟨rfl, rfl, rfl, rfl, rfl, rfl⟩

end Persisted

/-- In every reachable state, a group message that succeeds fans out to the active members but its sender and to
their open connections, and one that fails changes nothing. -/
theorem group_message_fans_out (platform : Platform) (store : Store) (reachable : Reachable platform store)
    (server : WebSocketServer) (once : OneUserEach server.manager) (env : Env) (connectionId senderId : Uuid)
    (dto : GroupMessageDto) :
    let outcome := createGroupMessage platform env senderId dto store
    let handled := groupMessageHandler platform env server connectionId senderId dto store
    (∀ exception, outcome.1 = .error exception → outcome.2 = store ∧ handled = (.error exception, store)) ∧
      ∀ saved members, outcome.1 = .ok (saved, members) →
        IsGroup store dto.conversationId ∧ FansOut env.now senderId dto.conversationId saved store outcome.2 ∧
          handled.2 = outcome.2 ∧ ∃ frames answer, handled.1 = .ok (frames ++ answer) ∧
            Reaches frames (.newMessage (.groupMessage saved)) (fun receiver => server.isOpen receiver = true ∧
              ∃ member ∈ store.members, addresses senderId dto.conversationId member = true ∧
                receiver ∈ server.manager.connectionIds member.userId) ∧
            Reaches answer (.messageSent (.groupMessage saved)) fun receiver =>
              server.isOpen receiver = true ∧ receiver = connectionId := by
  intro outcome handled
  have consistent := reachable.consistent
  rcases createGroupMessage_cases platform env senderId dto store with ⟨exception, failed⟩ |
    ⟨conversation, member, saved, uploads, found, group, -, -, id, usable, done⟩
  · have result : handled = (.error exception, store) := by
      show answered (createGroupMessage platform env senderId dto store) _ = _
      rw [failed]
      rfl
    constructor
    · intro other same
      rw [show outcome = (.error exception, store) from failed] at same ⊢
      cases same
      exact ⟨rfl, result⟩
    · intro saved members same
      rw [show outcome = (.error exception, store) from failed] at same
      cases same
  · constructor
    · intro exception same
      rw [show outcome = _ from done] at same
      cases same
    · intro other members same
      rw [show outcome = _ from done] at same ⊢
      cases same
      rcases lookup_mem Conversation.id found with ⟨inside, place⟩
      refine ⟨⟨conversation, inside, place, group⟩,
        persisted_fansOut env.now senderId dto.conversationId _ uploads consistent reachable.uploadsApart id usable, ?_⟩
      have result : handled = (.ok ((((getMembers store dto.conversationId).filter fun member =>
            member.userId != senderId).flatMap fun member =>
              server.sendToUser member.userId (.newMessage (.groupMessage saved))) ++
            server.sendMessage connectionId (.messageSent (.groupMessage saved))),
          persisted env.now senderId dto.conversationId (getMembers store dto.conversationId)
            (cipherMessage platform env dto.content) uploads store) := by
        show groupMessageHandler platform env server connectionId senderId dto store = _
        unfold groupMessageHandler answered
        rw [done]
        rfl
      rw [result]
      refine ⟨rfl, _, _, rfl, ?_, ?_⟩
      · have distinct := getMembers_nodup consistent.governed.memberKeys dto.conversationId senderId
        have sent := Reaches.users once distinct (.newMessage (.groupMessage saved))
        rw [show ((getMembers store dto.conversationId).filter fun member => member.userId != senderId).flatMap
            (fun member => server.sendToUser member.userId (.newMessage (.groupMessage saved))) =
              (recipients (getMembers store dto.conversationId) senderId).flatMap fun userId =>
                server.sendToUser userId (.newMessage (.groupMessage saved)) by rw [recipients, List.flatMap_map]]
        refine sent.congr fun receiver => and_congr_right fun _ => ?_
        rw [recipients_getMembers]
        simp only [List.mem_map, List.mem_filter]
        constructor
        · rintro ⟨userId, ⟨member, ⟨inside, addressed⟩, rfl⟩, reported⟩
          exact ⟨member, inside, addressed, reported⟩
        · rintro ⟨member, inside, addressed, reported⟩
          exact ⟨member.userId, ⟨member, ⟨inside, addressed⟩, rfl⟩, reported⟩
      · exact Reaches.sendMessage connectionId (.messageSent (.groupMessage saved))

/-- User 2 writes to its group, where only user 0 gets the message. -/
theorem joinedStore_fansOut :
    ∃ saved members, (createGroupMessage plainPlatform (clock 10 0) 2
        { conversationId := 7, content := [104], attachments := [] } joinedStore).1 = .ok (saved, members) ∧
      FansOut 10000000 2 7 saved joinedStore (createGroupMessage plainPlatform (clock 10 0) 2
        { conversationId := 7, content := [104], attachments := [] } joinedStore).2 := by
  have written : ∃ saved members, (createGroupMessage plainPlatform (clock 10 0) 2
      { conversationId := 7, content := [104], attachments := [] } joinedStore).1 = .ok (saved, members) := ⟨_, _, rfl⟩
  rcases written with ⟨saved, members, succeeded⟩
  have fans := group_message_fans_out plainPlatform joinedStore ⟨_, rfl⟩ strangersServer strangersServer_oneUserEach
    (clock 10 0) 1 2 { conversationId := 7, content := [104], attachments := [] }
  exact ⟨saved, members, succeeded, (fans.2 saved members succeeded).2.1⟩

end Messinger
