import Messinger.Proof.CountedCalls
import Messinger.Proof.InvitationCalls
import Messinger.Proof.PrivateCalls
import Messinger.Proof.Writes

namespace Messinger
open Library SessionRepository UserRepository ConversationMemberRepository ConversationRepository
  ConversationEventRepository GroupInvitationRepository MessageRepository MessageDeliveryRepository
  ConversationService MessageService StorageService AuthService

section Bodies
variable {platform : Platform} {store next : Store}

/-- The writes of a transaction that commits are the writes of its body. -/
theorem transaction_writes {A : Type} {commits : Bool} {body : Store → Except Exception (A × Store)}
    (writes : ∀ value next, body store = .ok (value, next) → Committed platform store next) :
    Committed platform store (transaction commits store body).2 := transaction_keeps .refl writes

/-- A call with checks makes the writes of its body when they pass. -/
theorem guarded_writes {A B : Type} {checks : Except Exception A} {body : A → Outcome B}
    (writes : ∀ value, checks = .ok value → Committed platform store (body value).2) :
    Committed platform store (guarded store checks body).2 := by
  obtain ⟨exception, failed⟩ | ⟨value, passed, equal⟩ := guarded_cases store checks body
  · rw [failed]
  · rw [equal]
    exact writes value passed

theorem createConversation_writes {now : Nat} {params : CreateConversationParams} {privateKey : Option Text}
    {uniqueMembers : List Text} {conversation : Conversation}
    (size : params.type = .privateType → uniqueMembers.length ≤ 2)
    (done : createConversation now params privateKey uniqueMembers store = .ok (conversation, next)) :
    Committed platform store next := by
  obtain ⟨⟨savedConversation, saved⟩, inserted, rest⟩ := ok_of_bind done
  obtain ⟨final, created, last⟩ := ok_of_bind rest
  cases last
  refine .single (openConversation_write inserted ?_ ?_ created)
  · intro member listed
    obtain ⟨userId, -, rfl⟩ := List.mem_map.mp listed
    rfl
  · rw [List.length_map]
    exact size

theorem createGroupBody_writes {now : Nat} {ownerId : Uuid} {dto : CreateGroupDto} {conversation : Conversation}
    (done : createGroupBody now ownerId dto store = .ok (conversation, next)) : Committed platform store next := by
  obtain ⟨⟨savedConversation, saved⟩, inserted, rest⟩ := ok_of_bind done
  obtain ⟨joined, created, rest⟩ := ok_of_bind rest
  obtain ⟨final, logged, last⟩ := ok_of_bind rest
  cases last
  have opened : Write platform store joined := by
    refine openConversation_write inserted ?_ nofun created
    intro member listed
    rw [List.mem_singleton.mp listed]
  exact .tail (.single opened) (createEvent_write logged)

theorem removeMemberFromGroup_writes {now : Nat} {conversationId actorId targetUserId : Uuid}
    {eventType : ConversationEventType} {value : Unit}
    (done : removeMemberFromGroup now conversationId actorId targetUserId eventType store = .ok (value, next)) :
    Committed platform store next := by
  obtain ⟨final, logged, last⟩ := ok_of_bind done
  cases last
  exact .tail (.single (markConversationAsDeleted_write now conversationId targetUserId)) (createEvent_write logged)

theorem acceptGroupInvitationBody_writes {now : Nat} {member : Option ConversationMember}
    {conversationId userId : Uuid} {value : Unit} (group : store.GroupOrGone conversationId)
    (done : acceptGroupInvitationBody now member conversationId userId store = .ok (value, next)) :
    Committed platform store next := by
  unfold acceptGroupInvitationBody at done
  split at done
  · cases done
    exact .single (restoreConversation_write now conversationId userId)
  · obtain ⟨logged, created, rest⟩ := ok_of_bind done
    obtain ⟨final, joined, last⟩ := ok_of_bind rest
    cases last
    have accepts := @setStatus_write platform store .accepted conversationId userId
    have logs : Write platform _ logged := createEvent_write created
    refine .tail (.tail (.single accepts) logs) (bulkCreate_write ?_ joined)
    intro member listed
    rw [List.mem_singleton.mp listed]
    exact logs.groupOrGone (accepts.groupOrGone group)

theorem transferGroupOwnershipBody_writes {now : Nat} {prevOwner : Uuid} {dto : TransferOwnershipDto} {value : Unit}
    (done : transferGroupOwnershipBody now prevOwner dto store = .ok (value, next)) :
    Committed platform store next := by
  obtain ⟨final, logged, last⟩ := ok_of_bind done
  cases last
  exact .tail (.tail (.single (updateRole_write dto.conversationId prevOwner .member))
    (updateRole_write dto.conversationId (parseUuid dto.newOwnerId) .owner)) (createEvent_write logged)

theorem cipherMessage_ciphered (env : Env) (content : CodeUnits) :
    Ciphered platform (cipherMessage platform env content) := ⟨env, content, rfl⟩

theorem not_mem_recipients (members : List ConversationMember) (senderId : Uuid) :
    senderId ∉ recipients members senderId := by
  intro inside
  obtain ⟨member, listed, same⟩ := List.mem_map.mp inside
  exact bne_iff_ne.mp (List.mem_filter.mp listed).2 same

/-- A saved message gets its deliveries and becomes the last one of its conversation. -/
theorem saveMessage_write {now : Nat} {conversationId senderId : Uuid} {ciphered : CipheredMessage}
    {message : Message} (sealed : Ciphered platform ciphered) {userIds : List Uuid} (distinct : userIds.Nodup)
    (others : senderId ∉ userIds)
    (done : saveMessage now conversationId senderId ciphered.cipheredContent ciphered.iv ciphered.authTag store =
      .ok (message, next)) :
    Write platform store
        (updateLastMessage now conversationId message.id (createDeliveries now message.id userIds next)) ∧
      ∃ stored ∈ next.messages, stored.id = message.id := by
  unfold saveMessage at done
  split at done
  · next present =>
      cases done
      rw [Bool.and_eq_true_iff] at present
      refine ⟨.postMessage now (newMessage now senderId conversationId ciphered store.nextId) senderId userIds rfl
        present.1 rfl present.2 sealed distinct others, _, List.mem_append_right _ (List.mem_singleton_self _), rfl⟩
  · cases done

theorem persistMessage_writes {now : Nat} {senderId conversationId : Uuid} {members : List ConversationMember}
    {ciphered : CipheredMessage} {content : CodeUnits} {attachments : List MessageAttachmentDto}
    {saved : SavedMessage} (sealed : Ciphered platform ciphered)
    (distinct : (recipients members senderId).Nodup)
    (done : persistMessage now senderId conversationId members ciphered content attachments store =
      .ok (saved, next)) : Committed platform store next := by
  obtain ⟨⟨savedMessage, written⟩, inserted, rest⟩ := ok_of_bind done
  obtain ⟨processed, attaching, last⟩ := ok_of_bind rest
  cases last
  obtain ⟨posted, stored⟩ := saveMessage_write sealed distinct (not_mem_recipients members senderId) inserted
  obtain ⟨uploads, -, equal⟩ := processMessageAttachments_ok attaching
  subst equal
  refine .head posted (.trans ?_ (incrementUnreadCount_writes conversationId (recipients members senderId)))
  exact .tail (.single (.insertAttachments now savedMessage.id uploads stored)) (.deleteUploads _)

theorem restoreIfDeleted_writes (now : Nat) (member : Option ConversationMember) (conversationId userId : Uuid) :
    Committed platform store (restoreIfDeleted now member conversationId userId store) := by
  unfold restoreIfDeleted
  split
  · exact .single (restoreConversation_write now conversationId userId)
  · exact .refl

theorem createPrivateMessageBody_writes {now : Nat} {senderId : Uuid} {dto : PrivateMessageDto}
    {ciphered : CipheredMessage} {conversation : Conversation} {sender receiver : Option ConversationMember}
    {members : List ConversationMember} {saved : SavedMessage} (sealed : Ciphered platform ciphered)
    (distinct : (recipients members senderId).Nodup)
    (done : createPrivateMessageBody now senderId dto ciphered conversation sender receiver members store =
      .ok (saved, next)) : Committed platform store next :=
  ((restoreIfDeleted_writes now sender conversation.id senderId).trans
    (restoreIfDeleted_writes now receiver conversation.id (parseUuid dto.receiverId))).trans
      (persistMessage_writes sealed distinct done)

end Bodies

section Calls
variable (platform : Platform) (env : Env) {store : Store}

theorem getOrCreatePrivateConversation_committed (params : CreateConversationParams) :
    Committed platform store (getOrCreatePrivateConversation platform env params store).2 := by
  unfold getOrCreatePrivateConversation
  simp only
  split
  · split
    · exact .refl
    · next two =>
        split
        · exact .refl
        · exact transaction_writes fun _ _ done => createConversation_writes (fun _ => Nat.not_lt.mp two) done
  · next type =>
      refine transaction_writes fun _ _ done => createConversation_writes ?_ done
      rw [type]
      nofun

theorem createPrivateMessage_committed (rooted : Rooted store) (senderId : Uuid) (dto : PrivateMessageDto) :
    Committed platform store (createPrivateMessage platform env senderId dto store).2 := by
  have opens := @getOrCreatePrivateConversation_committed platform env store
    { type := .privateType, creatorId := uuidText senderId, members := [dto.receiverId] }
  unfold createPrivateMessage
  split
  · next failed =>
      rw [failed] at opens
      exact opens
  · next conversation opened found =>
      rw [found] at opens
      refine opens.trans (transaction_writes fun _ _ done => ?_)
      obtain ⟨⟨saved, written⟩, posted, last⟩ := ok_of_bind done
      cases last
      refine createPrivateMessageBody_writes (cipherMessage_ciphered env dto.content) ?_ posted
      exact getConversationMembers_nodup (opens.keeps rooted fun _ _ => Write.rooted).keyed conversation.id senderId

theorem createGroupMessage_committed (rooted : Rooted store) (senderId : Uuid) (dto : GroupMessageDto) :
    Committed platform store (createGroupMessage platform env senderId dto store).2 := by
  refine guarded_writes fun members passed => transaction_writes fun _ _ done => ?_
  obtain ⟨⟨saved, written⟩, posted, last⟩ := ok_of_bind done
  cases last
  refine persistMessage_writes (cipherMessage_ciphered env dto.content) ?_ posted
  rw [(createGroupMessageChecks_ok passed).1]
  exact getMembers_nodup rooted.keyed dto.conversationId senderId

variable {platform}

/-- Each delivery keeps its message and its user when its status changes. -/
theorem updateDeliveryStatus_write (id : Uuid) (status : MessageStatus) :
    Write platform store (updateDeliveryStatus id (confirmed env.now status) store) := by
  refine .updateDeliveries _ _ fun delivery => ?_
  unfold confirmed
  split <;> exact ⟨rfl, rfl⟩

theorem confirmDelivery_committed (userId : Uuid) (dto : MessageDeliveryDto) :
    Committed platform store (confirmDelivery env userId dto store).2 := by
  unfold confirmDelivery
  split
  · exact .refl
  · next delivery found =>
      split
      · exact .refl
      · have counted : Committed platform store
            (if dto.status = .read then resetUnreadCount dto.conversationId userId store else store) := by
          split
          · exact .single (resetUnreadCount_write dto.conversationId userId)
          · exact .refl
        simp only
        split
        · exact counted.tail (updateDeliveryStatus_write env delivery.id dto.status)
        · exact counted

theorem markDelivered_write (userId : Uuid) (messageIds : List Uuid) :
    Write platform store (markDelivered userId messageIds store) :=
  .updateDeliveries _ _ fun _ => ⟨rfl, rfl⟩

theorem syncPendingMessages_committed (connected : Bool) (userId : Uuid) :
    Committed platform store (syncPendingMessages platform env connected userId store).2 := by
  refine guarded_keeps .refl fun _ => ?_
  split
  · exact .refl
  · refine transaction_writes fun _ _ done => ?_
    cases done
    exact .single (markDelivered_write userId _)

theorem resetUnreadMessagesCount_committed (userId conversationId : Uuid) :
    Committed platform store (resetUnreadMessagesCount env userId conversationId store).2 := by
  refine transaction_writes fun _ _ done => ?_
  cases done
  exact .single (resetUnreadCount_write conversationId userId)

/-- An invitation that passes its checks is one to a group. -/
theorem Rooted.invites (rooted : Rooted store) {actorId : Uuid} {dto : InviteGroupMemberDto}
    {conversation : Conversation} (passed : validateGroupInvitationChecks store actorId dto = .ok conversation) :
    store.GroupOrGone dto.conversationId := by
  obtain ⟨found, group, -⟩ := validateGroupInvitationChecks_ok passed
  obtain ⟨stored, id⟩ := findById_some found
  rw [← id]
  exact rooted.groupOrGone stored group

/-- Whoever accepts an invitation joins a group. -/
theorem Rooted.accepts (rooted : Rooted store) {scan : Nat} {conversationId userId : Uuid} {rows : AcceptRows}
    (passed : acceptGroupInvitationChecks scan store conversationId userId = .ok rows) :
    store.GroupOrGone conversationId := by
  obtain ⟨-, -, found⟩ := acceptGroupInvitationChecks_ok passed
  obtain ⟨stored, pair⟩ := findOne_some found
  have invited := rooted.invited _ stored
  rwa [beq_iff_eq.mp (Bool.and_eq_true_iff.mp pair).1] at invited

theorem groupCall_committed (rooted : Rooted store) (call : GroupCall) :
    Committed platform store (runGroupCall store (env, call)) := by
  cases call with
  | createGroup ownerId dto => exact transaction_writes fun _ _ done => createGroupBody_writes done
  | validateGroupInvitation actorId dto =>
      refine guarded_writes fun conversation passed => transaction_writes fun _ _ done => ?_
      obtain ⟨final, created, last⟩ := ok_of_bind done
      cases last
      exact .single (createInvitation_write (rooted.invites passed) created)
  | acceptGroupInvitation conversationId userId =>
      refine guarded_writes fun rows passed => ?_
      split
      · unfold expireInvitation
        split
        · exact .single (setStatus_write .accepted conversationId userId)
        · exact .refl
      · refine transaction_writes fun _ _ done => ?_
        obtain ⟨⟨value, final⟩, accepted, last⟩ := ok_of_bind done
        cases last
        exact acceptGroupInvitationBody_writes (rooted.accepts passed) accepted
  | rejectGroupInvitation conversationId userId =>
      change Committed platform store (rejectGroupInvitation env conversationId userId store).2
      unfold rejectGroupInvitation
      split
      · exact .refl
      · split
        · unfold expireInvitation
          split
          · exact .single (setStatus_write .accepted conversationId userId)
          · exact .refl
        · refine transaction_writes fun _ _ done => ?_
          cases done
          exact .single (setStatus_write .rejected conversationId userId)
  | leaveGroup userId conversationId =>
      refine guarded_keeps .refl fun members => transaction_writes fun _ _ done => ?_
      obtain ⟨⟨value, final⟩, removed, last⟩ := ok_of_bind done
      cases last
      exact removeMemberFromGroup_writes removed
  | removeGroupMember userId dto =>
      refine guarded_keeps .refl fun members => transaction_writes fun _ _ done => ?_
      obtain ⟨⟨value, final⟩, removed, last⟩ := ok_of_bind done
      cases last
      exact removeMemberFromGroup_writes removed
  | transferGroupOwnership prevOwner dto =>
      refine guarded_keeps .refl fun members => transaction_writes fun _ _ done => ?_
      obtain ⟨⟨value, final⟩, transferred, last⟩ := ok_of_bind done
      cases last
      exact transferGroupOwnershipBody_writes transferred

theorem deleteConversation_write (conversationId : Uuid) :
    Write platform store (deleteConversation conversationId store) := .deleteConversations _

theorem deleteGroup_committed (userId conversationId : Uuid) :
    Committed platform store (deleteGroup env userId conversationId store).2 := by
  refine guarded_keeps .refl fun members => transaction_writes fun _ _ done => ?_
  cases done
  exact .single (deleteConversation_write conversationId)

theorem finishDeletion_committed (now : Nat) (userId conversationId : Uuid) (remaining : Nat) :
    Committed platform store (finishDeletion now userId conversationId remaining store) := by
  have marked := @markConversationAsDeleted_write platform store now conversationId userId
  unfold finishDeletion
  simp only
  split
  · exact .tail (.single marked) (deleteConversation_write conversationId)
  · exact .single marked

theorem deletePrivateConversation_committed (userId conversationId : Uuid) :
    Committed platform store (deletePrivateConversation env userId conversationId store).2 := by
  refine guarded_keeps .refl fun members => transaction_writes fun _ _ done => ?_
  cases done
  exact finishDeletion_committed env.now userId conversationId _

theorem deleteMessages_committed (dto : DeleteMessagesDto) :
    Committed platform store (MessageService.deleteMessages env dto store).2 := by
  refine transaction_writes fun _ _ done => ?_
  unfold MessageRepository.deleteMessages at done
  split at done
  · cases done
    exact .refl
  · cases done
    exact .single (.deleteMessages _)

theorem deleteMessagesRequest_committed (dto : DeleteMessagesDto) :
    Committed platform store (Controllers.deleteMessages env dto store).2 := by
  have deleted := @deleteMessages_committed platform env store dto
  unfold Controllers.deleteMessages
  split
  · next failed =>
      rw [failed] at deleted
      exact deleted
  · next none =>
      rw [none] at deleted
      exact deleted
  · next done =>
      rw [done] at deleted
      exact answer_keeps (deleted.trans (deleteFiles_writes _ _))

theorem deleteUser_committed (dto : UserDto) :
    Committed platform store (AdminService.deleteUser env dto store).2 := by
  have emptied := @deleteFiles_writes platform store env
    (AdminService.storageKeysOf store (store.messages.filter fun message =>
      (AdminService.conversationsToDelete store dto.userId).contains message.conversationId))
  unfold AdminService.deleteUser
  simp only
  split
  · next failed =>
      rw [failed] at emptied
      exact emptied
  · next done =>
      rw [done] at emptied
      refine emptied.trans (transaction_writes fun _ _ done => ?_)
      cases done
      exact .tail (.single (.deleteConversations _)) (.deleteUsers _)

theorem deleteAdmin_committed (dto : UserDto) :
    Committed platform store (AdminService.deleteAdmin env dto store).2 := by
  refine transaction_writes fun _ _ done => ?_
  cases done
  exact .single (.deleteUsers _)

theorem deleteMessagesJob_committed : Committed platform store (deleteMessagesJob env store) := by
  unfold deleteMessagesJob
  simp only
  split
  · exact .refl
  · have emptied := @deleteFiles_writes platform store env
      (AdminService.storageKeysOf store
        (MessageRepository.findMessagesToCleanup (jsDate env.now - maxMessageAge) store))
    split
    · next failed =>
        rw [failed] at emptied
        exact emptied
    · next done =>
        rw [done] at emptied
        split
        · exact emptied.tail (.deleteMessages _)
        · exact emptied

theorem prepareUploads_committed (userId : Uuid) (files : List FileDto) :
    Committed platform store (prepareUploads env userId files store).2 := by
  have created := @createUploads_writes platform store env userId
    (addHours (jsDate env.now) 24) 0 files
  unfold prepareUploads
  split
  · next failed =>
      rw [failed] at created
      exact created
  · next done =>
      rw [done] at created
      split <;> exact created

end Calls

end Messinger
