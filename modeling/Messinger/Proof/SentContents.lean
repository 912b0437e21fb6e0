import Messinger.Model.Handlers
import Messinger.Proof.CounterWrites
import Messinger.Proof.HistoryPages
import Messinger.Proof.MessageContents
import Messinger.Proof.TextEncoding

namespace Messinger
open Library ConversationService MessageService

/-- These calls send a message. -/
inductive SendCall where
  | createPrivateMessage (senderId : Uuid) (dto : PrivateMessageDto)
  | createGroupMessage (senderId : Uuid) (dto : GroupMessageDto)

def SendCall.content : SendCall → CodeUnits
  | .createPrivateMessage _ dto => dto.content
  | .createGroupMessage _ dto => dto.content

def SendCall.command : SendCall → Command
  | .createPrivateMessage senderId dto => .sendPrivateMessage senderId dto
  | .createGroupMessage senderId dto => .sendGroupMessage senderId dto

def SendCall.run (platform : Platform) (env : Env) (store : Store) : SendCall → Outcome SavedMessage
  | .createPrivateMessage senderId dto =>
      let outcome := MessageService.createPrivateMessage platform env senderId dto store
      (outcome.1.map Prod.snd, outcome.2)
  | .createGroupMessage senderId dto =>
      let outcome := MessageService.createGroupMessage platform env senderId dto store
      (outcome.1.map Prod.fst, outcome.2)

def MessageData.content : MessageData → Option CodeUnits
  | .privateMessage saved _ => some saved.content
  | .groupMessage saved => some saved.content
  | .synced _ _ _ _ content => some content
  | .empty => none

def MessageService.HistoryItem.content : HistoryItem → Option CodeUnits
  | .message _ _ _ _ _ content => some content
  | .event _ _ _ _ _ _ => none

/-- Every page with the row shows the content, and so does every frame of a synchronization that finds the row. -/
structure ShowsContent (platform : Platform) (row : Message) (content : CodeUnits) : Prop where
  history : ∀ store userId dto answer, row ∈ store.messages → (store.messages.map Message.id).Nodup →
    getConversationMessages platform store userId dto = .ok answer →
    ∀ item ∈ answer.page, item.isMessage = true → item.id = row.id → item.content = some content
  synced : ∀ server userId store messageIds, lookup Message.id row.id store.messages = some row →
    ∀ frame ∈ syncedFrames platform server userId store messageIds, ∀ data, frame.message = .newMessage data →
      data.messageId = some row.id → data.content = some content

/-- The call adds one row, which is shown with the content that the live frames carry. -/
structure ShowsSent (platform : Platform) (env : Env) (store : Store) (call : SendCall) (saved : SavedMessage)
    (next : Store) (row : Message) : Prop where
  added : next.messages = store.messages ++ [row]
  named : row.id = saved.id
  live : ∀ server connectionId frames,
    (runCommand platform env server connectionId store call.command).1 = .ok frames →
      ∀ frame ∈ frames, ∀ data, frame.message = .newMessage data → data.content = some saved.content
  shows : ShowsContent platform row saved.content

theorem message_of_sendMessage {server : WebSocketServer} {connectionId : Uuid} {message : WsServerMessage}
    {frame : Frame} (sent : frame ∈ server.sendMessage connectionId message) : frame.message = message := by
  unfold WebSocketServer.sendMessage at sent
  split at sent
  · rw [List.mem_singleton.mp sent]
  · cases sent

section Rows
variable {platform : Platform} {env : Env} {store next : Store} {row : Message}

theorem message_of_sendToUser {server : WebSocketServer} {userId : Uuid} {message : WsServerMessage} {frame : Frame}
    (sent : frame ∈ server.sendToUser userId message) : frame.message = message := by
  obtain ⟨receiver, -, written⟩ := List.mem_flatMap.mp sent
  exact message_of_sendMessage written

/-- A new message reaches its receivers with one content, and the sender gets a confirmation of another type. -/
theorem data_of_fanOut {server : WebSocketServer} {connectionId : Uuid} {receivers : List ConversationMember}
    {data confirmed other : MessageData} {frame : Frame}
    (written : frame ∈ (receivers.flatMap fun member => server.sendToUser member.userId (.newMessage data)) ++
      server.sendMessage connectionId (.messageSent confirmed))
    (carried : frame.message = .newMessage other) : other = data := by
  obtain toReceivers | toSender := List.mem_append.mp written
  · obtain ⟨member, -, toMember⟩ := List.mem_flatMap.mp toReceivers
    cases (message_of_sendToUser toMember).symm.trans carried
    rfl
  · cases (message_of_sendMessage toSender).symm.trans carried

/-- Deciphering gives the content back with U+FFFD for each lone surrogate. -/
theorem decipherMessage_cipherMessage (opens : platform.Opens) (env : Env) (content : CodeUnits) :
    decipherMessage platform (cipherMessage platform env content).cipheredContent
      (cipherMessage platform env content).iv (cipherMessage platform env content).authTag =
        .ok (toWellFormed content) := by
  unfold decipherMessage cipherMessage
  simp only [opens.base64, opens.aes, utf8Decode_utf8Encode]

/-- The first page of a conversation with one message holds its item. -/
theorem getConversationMessages_single
    (readable : (decipherMessage platform row.cipheredContent row.iv row.authTag).isOk = true) :
    getConversationMessages platform { messages := [row] } 0 { conversationId := row.conversationId, limit := 1 } =
      .ok { page := [readItem platform { messages := [row] } row], nextCursor := none } := by
  have found : MessageRepository.findByConversation { messages := [row] } row.conversationId 1 none none = [row] := by
    have kept : [row].filter (fun message => message.conversationId == row.conversationId && true && true) = [row] := by
      simp
    change (([row].filter fun message => message.conversationId == row.conversationId && true && true).insertionSort
      fun first second => second.createdAt ≤ first.createdAt).take 2 = [row]
    rw [kept]
    rfl
  change (do
    let items ← (MessageRepository.findByConversation { messages := [row] } row.conversationId 1 none none).mapM
      (messageItem platform { messages := [row] })
    return paginateHistory 1 (items ++ [])) = _
  rw [found, mapM_eq_map _ (readItem platform { messages := [row] }) _ fun message inside => ?_]
  · rfl
  · cases List.mem_singleton.mp inside
    exact messageItem_of_readable readable

/-- Each frame of a synchronization is that of a stored message, with the content that the message deciphers to. -/
theorem message_of_syncedFrames {server : WebSocketServer} {userId : Uuid} {messageIds : List Uuid} {frame : Frame}
    (sent : frame ∈ syncedFrames platform server userId store messageIds) :
    ∃ message content, lookup Message.id message.id store.messages = some message ∧
      decipherMessage platform message.cipheredContent message.iv message.authTag = .ok content ∧
      frame.message =
        .newMessage (.synced message.id message.conversationId message.senderId message.createdAt content) := by
  obtain ⟨messageId, -, written⟩ := List.mem_flatMap.mp sent
  cases located : lookup Message.id messageId store.messages with
  | none =>
      rw [located] at written
      cases written
  | some message =>
      rw [located] at written
      cases read : decipherMessage platform message.cipheredContent message.iv message.authTag with
      | error exception =>
          simp only [read] at written
          cases written
      | ok content =>
          simp only [read] at written
          refine ⟨message, content, ?_, read, message_of_sendToUser written⟩
          rw [(lookup_mem Message.id located).2]
          exact located

/-- A row shows what it deciphers to. -/
theorem showsContent_iff {content shown : CodeUnits}
    (deciphered : decipherMessage platform row.cipheredContent row.iv row.authTag = .ok shown) :
    ShowsContent platform row content ↔ shown = content := by
  have item (store : Store) : (readItem platform store row).content = some shown := by
    rw [readItem, deciphered]
    rfl
  have readable : (decipherMessage platform row.cipheredContent row.iv row.authTag).isOk = true := by
    rw [deciphered]
    rfl
  constructor
  · intro shows
    have page := getConversationMessages_single readable
    have same := shows.history { messages := [row] } _ _ _ (List.mem_singleton.mpr rfl) (List.nodup_singleton _) page _
      (List.mem_singleton.mpr rfl) rfl rfl
    rw [item] at same
    exact Option.some.inj same
  · rintro rfl
    refine { history := ?_, synced := ?_ }
    · intro store userId dto answer inside distinct answered entry listed isMessage named
      obtain ⟨message, present, -, -, rfl⟩ := message_of_page answered listed isMessage
      cases List.inj_on_of_nodup_map distinct present inside named
      exact item store
    · intro server userId store messageIds found frame sent data carried named
      obtain ⟨message, content, located, read, same⟩ := message_of_syncedFrames sent
      cases same.symm.trans carried
      have same : message.id = row.id := Option.some.inj named
      rw [same, found] at located
      cases located
      cases deciphered.symm.trans read
      rfl

end Rows

section Calls
variable {platform : Platform} {env : Env} {store next : Store} {saved : SavedMessage} {call : SendCall}

theorem run_privateMessage {senderId : Uuid} {dto : PrivateMessageDto}
    (sent : (SendCall.createPrivateMessage senderId dto).run platform env store = (.ok saved, next)) :
    ∃ members, createPrivateMessage platform env senderId dto store = (.ok (members, saved), next) := by
  change ((createPrivateMessage platform env senderId dto store).1.map Prod.snd,
    (createPrivateMessage platform env senderId dto store).2) = _ at sent
  generalize createPrivateMessage platform env senderId dto store = outcome at sent ⊢
  obtain ⟨exception | ⟨members, other⟩, last⟩ := outcome
  · cases sent
  · cases sent
    exact ⟨members, rfl⟩

theorem run_groupMessage {senderId : Uuid} {dto : GroupMessageDto}
    (sent : (SendCall.createGroupMessage senderId dto).run platform env store = (.ok saved, next)) :
    ∃ members, createGroupMessage platform env senderId dto store = (.ok (saved, members), next) := by
  change ((createGroupMessage platform env senderId dto store).1.map Prod.fst,
    (createGroupMessage platform env senderId dto store).2) = _ at sent
  generalize createGroupMessage platform env senderId dto store = outcome at sent ⊢
  obtain ⟨exception | ⟨other, members⟩, last⟩ := outcome
  · cases sent
  · cases sent
    exact ⟨members, rfl⟩

/-- The frames of the handler carry the content of the answer. -/
theorem live_of_run (sent : call.run platform env store = (.ok saved, next)) (server : WebSocketServer)
    (connectionId : Uuid) {frames : List Frame}
    (ran : (runCommand platform env server connectionId store call.command).1 = .ok frames) {frame : Frame}
    (written : frame ∈ frames) {data : MessageData} (carried : frame.message = .newMessage data) :
    data.content = some saved.content := by
  cases call with
  | createPrivateMessage senderId dto =>
      obtain ⟨members, done⟩ := run_privateMessage sent
      change (privateMessageHandler platform env server connectionId senderId dto store).1 = _ at ran
      rw [privateMessageHandler, done] at ran
      cases ran
      rw [data_of_fanOut written carried]
      rfl
  | createGroupMessage senderId dto =>
      obtain ⟨members, done⟩ := run_groupMessage sent
      change (groupMessageHandler platform env server connectionId senderId dto store).1 = _ at ran
      rw [groupMessageHandler, done] at ran
      cases ran
      rw [data_of_fanOut written carried]
      rfl

theorem persistMessage_content {now : Nat} {senderId conversationId : Uuid} {members : List ConversationMember}
    {ciphered : CipheredMessage} {content : CodeUnits} {attachments : List MessageAttachmentDto}
    (done : persistMessage now senderId conversationId members ciphered content attachments store = .ok (saved, next)) :
    saved.content = content := by
  obtain ⟨written, -, rest⟩ := ok_of_bind done
  obtain ⟨processed, -, last⟩ := ok_of_bind rest
  cases last
  rfl

/-- The answer to a message has its content. -/
theorem content_of_run (sent : call.run platform env store = (.ok saved, next)) : saved.content = call.content := by
  cases call with
  | createPrivateMessage senderId dto =>
      obtain ⟨members, done⟩ := run_privateMessage sent
      unfold createPrivateMessage at done
      split at done
      · cases done
      · obtain ⟨exception, failed⟩ | ⟨value, last, body, answered⟩ := transaction_outcome done
        · cases failed
        · cases answered
          obtain ⟨⟨other, written⟩, persisted, rest⟩ := ok_of_bind body
          have same : other.content = dto.content := persistMessage_content persisted
          cases rest
          exact same
  | createGroupMessage senderId dto =>
      obtain ⟨members, done⟩ := run_groupMessage sent
      obtain ⟨exception, failed⟩ | ⟨found, result, last, -, body, answered⟩ := guarded_transaction_cases done
      · cases failed
      · cases answered
        obtain ⟨⟨other, written⟩, persisted, rest⟩ := ok_of_bind body
        cases rest
        exact persistMessage_content persisted

/-- A message that succeeds adds the row of its ciphered content. -/
theorem added_of_run (sent : call.run platform env store = (.ok saved, next)) :
    ∃ now senderId conversationId, next.messages = store.messages ++
      [newMessage now senderId conversationId (cipherMessage platform env call.content) saved.id] := by
  cases call with
  | createPrivateMessage senderId dto =>
      obtain ⟨members, done⟩ := run_privateMessage sent
      obtain ⟨exception, failed⟩ | ⟨conversation, between, opening, ⟨exception, failed⟩ |
        ⟨other, last, answered, id, -, uploads, -, final⟩⟩ :=
          createPrivateMessage_cases platform env senderId dto store
      · cases failed.symm.trans done
      · cases failed.symm.trans done
      · cases answered.symm.trans done
        have same := (getOrCreate_sameFiles platform env (privateMessageParams senderId dto) rfl store).messages
        rw [opening] at same
        obtain ⟨rows, shape⟩ := restored_eq env.now senderId (parseUuid dto.receiverId) conversation.id between
        refine ⟨env.now, senderId, conversation.id, ?_⟩
        rw [final, persisted_messages, shape, id]
        exact congrArg (· ++ _) same
  | createGroupMessage senderId dto =>
      obtain ⟨members, done⟩ := run_groupMessage sent
      obtain ⟨exception, failed⟩ | ⟨-, -, other, uploads, -, -, -, -, id, -, answered⟩ :=
        createGroupMessage_cases platform env senderId dto store
      · cases failed.symm.trans done
      · cases answered.symm.trans done
        refine ⟨env.now, senderId, dto.conversationId, ?_⟩
        rw [persisted_messages, id]
        rfl

end Calls

/-- The history and the synchronization show a message as it was sent exactly when its content is well formed. -/
theorem history_shows_sent_iff {platform : Platform} (opens : platform.Opens) {env : Env} {store next : Store}
    {call : SendCall} {saved : SavedMessage} (sent : call.run platform env store = (.ok saved, next)) :
    (∃ row, ShowsSent platform env store call saved next row) ↔ isWellFormed call.content = true := by
  have same := content_of_run sent
  obtain ⟨now, senderId, conversationId, added⟩ := added_of_run sent
  obtain ⟨row, written⟩ : ∃ row,
      row = newMessage now senderId conversationId (cipherMessage platform env call.content) saved.id := ⟨_, rfl⟩
  have deciphered : decipherMessage platform row.cipheredContent row.iv row.authTag =
      .ok (toWellFormed call.content) := by
    rw [written]
    exact decipherMessage_cipherMessage opens env call.content
  rw [← written] at added
  rw [← toWellFormed_eq_iff, ← showsContent_iff deciphered, ← same]
  constructor
  · rintro ⟨other, shows⟩
    have equal := List.append_cancel_left (shows.added.symm.trans added)
    rw [← List.singleton_inj.mp equal]
    exact shows.shows
  · intro shows
    refine ⟨row, { added, named := ?_, live := ?_, shows }⟩
    · rw [written]
      rfl
    · exact fun server connectionId _ ran _ sends _ carried => live_of_run sent server connectionId ran sends carried

/-- Users 1 and 2 share a group. -/
def readersStore : Store :=
  { users := [{ id := 1, role := .user, createdAt := 0 }, { id := 2, role := .user, createdAt := 0 }]
    conversations := [{ id := 3, type := .groupType, createdAt := 0, updatedAt := 0 }]
    members := [{ conversationId := 3, userId := 1, role := .owner, createdAt := 0 },
      { conversationId := 3, userId := 2, role := .member, createdAt := 0 }]
    nextId := 4 }

def groupText (content : CodeUnits) : SendCall := .createGroupMessage 1 { conversationId := 3, content, attachments := [] }

/-- An emoji is a pair of surrogates. -/
theorem emoji_shown : ∃ saved next, (groupText [0xD83D, 0xDE00]).run plainPlatform { now := 1 } readersStore =
    (.ok saved, next) ∧ ∃ row, ShowsSent plainPlatform { now := 1 } readersStore (groupText [0xD83D, 0xDE00]) saved next row :=
  ⟨_, _, rfl, (history_shows_sent_iff plainPlatform_opens rfl).mpr (by decide)⟩

/-- The live frame carries the lone surrogate, and the history shows U+FFFD. -/
theorem lone_surrogate_not_shown : ∃ saved next, (groupText [0xD800]).run plainPlatform { now := 1 } readersStore =
    (.ok saved, next) ∧ ¬ ∃ row, ShowsSent plainPlatform { now := 1 } readersStore (groupText [0xD800]) saved next row := by
  refine ⟨_, _, rfl, ?_⟩
  rintro ⟨row, shows⟩
  have added := shows.added
  cases added
  have deciphered := decipherMessage_cipherMessage plainPlatform_opens { now := 1 } [0xD800]
  have same := (showsContent_iff deciphered).mp shows.shows
  revert same
  decide

end Messinger
