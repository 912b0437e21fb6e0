import Messinger.Proof.CommittedRequests

namespace Messinger
open Library SessionRepository UserRepository ConversationMemberRepository ConversationRepository
  MessageRepository MessageDeliveryRepository ConversationService MessageService StorageService AuthService

/-- A message waits with its content ciphered, for recipients that are listed once each. -/
structure SealedDraft (platform : Platform) (ciphered : CipheredMessage) (recipients : List Uuid) : Prop where
  ciphered : Ciphered platform ciphered
  distinct : recipients.Nodup

def UploadTask.Sound (platform : Platform) : UploadTask → Prop
  | .message draft => SealedDraft platform draft.ciphered (recipients draft.members draft.senderId)
  | .createUploads _ _ _ => True

def PrivateTask.Sound (platform : Platform) : PrivateTask → Prop
  | .createConversation message => Ciphered platform message.ciphered
  | .findMembers message _ => Ciphered platform message.ciphered
  | .saveMessage message _ _ _ members =>
      SealedDraft platform message.ciphered (recipients members message.senderId)
  | _ => True

/-- Who invites or joins has checked that the conversation is a group. -/
def CheckedTask.Sound (store : Store) : CheckedTask → Prop
  | .createInvitation _ dto => store.GroupOrGone dto.conversationId
  | .acceptInvitation conversationId _ _ => store.GroupOrGone conversationId
  | _ => True

def ServiceTask.Sound (platform : Platform) (store : Store) : ServiceTask → Prop
  | .sending task => task.Sound platform
  | .occupancy task => task.Sound platform
  | .checked task => task.Sound store
  | _ => True

/-- One part of a call makes its writes and leaves a sound task, if it leaves one. -/
structure CommittedPart {Task : Type} (platform : Platform) (sound : Store → Task → Prop) (store : Store)
    (outcome : Store × Option Task) : Prop where
  writes : Committed platform store outcome.1
  sound : ∀ task, outcome.2 = some task → sound outcome.1 task

namespace CommittedPart
variable {Task : Type} {platform : Platform} {sound : Store → Task → Prop} {store next : Store}

theorem ends (writes : Committed platform store next) : CommittedPart platform sound store (next, none) where
  writes := writes
  sound task same := by cases same

theorem waits (writes : Committed platform store next) {task : Task} (waiting : sound next task) :
    CommittedPart platform sound store (next, some task) where
  writes := writes
  sound other same := by
    cases same
    exact waiting

theorem unsound (outcome : Store × Option Task) (writes : Committed platform store outcome.1) :
    CommittedPart platform (fun _ (_ : Task) => True) store outcome where
  writes := writes
  sound _ _ := trivial

/-- A part keeps its writes when its task becomes a task of the service. -/
theorem map {outcome : Store × Option Task} (part : CommittedPart platform sound store outcome)
    (wrap : Task → ServiceTask) (keeps : ∀ current task, sound current task → (wrap task).Sound platform current) :
    CommittedPart platform (ServiceTask.Sound platform) store (outcome.map id (Option.map wrap)) where
  writes := part.writes
  sound other same := by
    obtain ⟨task, found, rfl⟩ := Option.map_eq_some_iff.mp same
    exact keeps _ task (part.sound task found)

end CommittedPart

theorem Store.GroupOrGone.keeps {platform : Platform} {store next : Store} {conversationId : Uuid}
    (before : store.GroupOrGone conversationId) (writes : Committed platform store next) :
    next.GroupOrGone conversationId :=
  @Committed.keeps _ _ _ writes (fun current => current.GroupOrGone conversationId) before
    fun _ _ write => write.groupOrGone

/-- What other calls write leaves a waiting task sound. -/
theorem ServiceTask.Sound.keeps {platform : Platform} {store next : Store} {task : ServiceTask}
    (sound : task.Sound platform store) (writes : Committed platform store next) : task.Sound platform next := by
  cases task with
  | checked task =>
      cases task with
      | createInvitation actorId dto => exact Store.GroupOrGone.keeps sound writes
      | acceptInvitation conversationId userId member => exact Store.GroupOrGone.keeps sound writes
      | _ => trivial
  | _ => exact sound

section Parts
variable (platform : Platform) (env : Env) (store : Store)

theorem UploadTask.start_committed (rooted : Rooted store) (call : UploadCall) :
    CommittedPart platform (fun _ => UploadTask.Sound platform) store (UploadTask.start platform store (env, call)) := by
  cases call with
  | prepareUploads userId files => exact .waits .refl trivial
  | putObject key => exact .ends (.single (.writeBucket _))
  | createPrivateMessage senderId dto =>
      have opens := @getOrCreatePrivateConversation_committed platform env store
        { type := .privateType, creatorId := uuidText senderId, members := [dto.receiverId] }
      unfold UploadTask.start
      simp only
      split
      · next failed =>
          rw [failed] at opens
          exact .ends opens
      · next found =>
          rw [found] at opens
          have reopened : Rooted _ := opens.keeps rooted fun _ _ => Write.rooted
          exact .waits opens ⟨cipherMessage_ciphered env dto.content, getConversationMembers_nodup reopened.keyed _ senderId⟩
  | createGroupMessage senderId dto =>
      unfold UploadTask.start
      simp only
      split
      · exact .ends .refl
      · next members passed =>
          refine .waits .refl ⟨cipherMessage_ciphered env dto.content, ?_⟩
          rw [(createGroupMessageChecks_ok passed).1]
          exact getMembers_nodup rooted.keyed dto.conversationId senderId

theorem MessageDraft.saved_writes (draft : MessageDraft) (now : Nat) :
    Committed platform store (draft.saved now store) := by
  unfold MessageDraft.saved
  generalize draft.restored = rows
  induction rows generalizing store with
  | nil => exact .refl
  | cons row rest ih => exact (restoreIfDeleted_writes now row.2 draft.conversationId row.1).trans (ih _)

variable {platform store} in
theorem MessageDraft.write_writes {draft : MessageDraft} {now : Nat} {next : Store} {value : Unit}
    (sealed : SealedDraft platform draft.ciphered (recipients draft.members draft.senderId)) (done : draft.write now store = .ok (value, next)) :
    Committed platform store next := by
  obtain ⟨⟨savedMessage, written⟩, inserted, last⟩ := ok_of_bind done
  cases last
  obtain ⟨posted, stored⟩ := saveMessage_write sealed.ciphered sealed.distinct
    (not_mem_recipients draft.members draft.senderId) inserted
  refine (MessageDraft.saved_writes platform store draft now).trans (.head posted (.trans
    (attachUploads_writes now savedMessage.id draft.found ?_)
    (incrementUnreadCount_writes draft.conversationId (recipients draft.members draft.senderId))))
  exact stored

theorem UploadTask.resume_committed (task : UploadTask) (sound : task.Sound platform) :
    CommittedPart platform (fun _ => UploadTask.Sound platform) store (UploadTask.resume store task env) := by
  cases task with
  | createUploads userId expiresAt files =>
      cases files with
      | nil => exact .ends .refl
      | cons file rest => exact .waits (createUploads_writes env userId expiresAt 0 [file]) trivial
  | message draft =>
      unfold UploadTask.resume
      simp only
      split
      · split
        · exact .ends .refl
        · exact .waits .refl sound
      · exact .ends (transaction_writes fun _ _ done => MessageDraft.write_writes sound done)

theorem DeliveryTask.start_committed (call : DeliveryCall) :
    Committed platform store (OfflineSyncService.start store (env, call)).1 := by
  cases call <;> exact .refl

theorem DeliveryTask.resume_committed (task : DeliveryTask) (answer : DeliveryAnswer) :
    Committed platform store (OfflineSyncService.resume platform store task answer).1 := by
  cases task with
  | resetUnreadCount userId dto deliveryId =>
      unfold OfflineSyncService.resume
      simp only
      split
      · exact .single (resetUnreadCount_write dto.conversationId userId)
      · exact .refl
  | updateDeliveryStatus dto deliveryId =>
      unfold OfflineSyncService.resume
      simp only
      split
      · exact .single (updateDeliveryStatus_write answer.env deliveryId dto.status)
      · exact .refl
  | findMessages userId messageIds =>
      unfold OfflineSyncService.resume
      simp only
      split
      · exact .refl
      · split <;> exact .refl
  | markDelivered userId messageIds =>
      unfold OfflineSyncService.resume
      simp only
      split
      · exact .single (markDelivered_write userId messageIds)
      · exact .refl

theorem PrivateTask.start_committed (call : OccupancyCall) :
    CommittedPart platform (fun _ => PrivateTask.Sound platform) store (PrivateTask.start platform store (env, call)) := by
  cases call with
  | createPrivateMessage senderId dto =>
      unfold PrivateTask.start
      simp only
      split
      · exact .ends .refl
      · exact .waits .refl (cipherMessage_ciphered env dto.content)
      · exact .waits .refl (cipherMessage_ciphered env dto.content)
  | deletePrivateConversation userId conversationId =>
      unfold PrivateTask.start
      simp only
      split
      · exact .ends .refl
      · exact .waits .refl trivial
  | leaveGroup userId conversationId =>
      unfold PrivateTask.start
      simp only
      split
      · exact .ends .refl
      · exact .waits .refl trivial
  | deleteUser dto => exact .waits .refl trivial

/-- A message names at most two users. -/
theorem PrivateDraft.members_le (message : PrivateDraft) :
    (normalizeMembers message.params.creatorId message.params.members).length ≤ 2 := by
  unfold normalizeMembers
  rw [List.length_map]
  refine Nat.le_trans (List.length_filter_le _ _) ?_
  rw [List.length_zipIdx]
  exact Nat.le_refl 2

theorem createPrivateConversation_committed (message : PrivateDraft) :
    Committed platform store (createPrivateConversation platform env message.params store).2 :=
  transaction_writes fun _ _ done => createConversation_writes (fun _ => message.members_le) done

theorem PrivateTask.resume_committed (rooted : Rooted store) (task : PrivateTask) (sound : task.Sound platform) :
    CommittedPart platform (fun _ => PrivateTask.Sound platform) store (PrivateTask.resume platform store task env) := by
  cases task with
  | createConversation message =>
      have opens := createPrivateConversation_committed platform env store message
      unfold PrivateTask.resume
      simp only
      split
      · next failed =>
          rw [failed] at opens
          exact .ends opens
      · next done =>
          rw [done] at opens
          exact .waits opens sound
  | findMembers message conversation =>
      exact .waits .refl ⟨sound, getConversationMembers_nodup rooted.keyed conversation.id message.senderId⟩
  | saveMessage message conversation sender receiver members =>
      exact .ends (transaction_writes fun _ _ done => createPrivateMessageBody_writes sound.ciphered sound.distinct done)
  | countRemaining userId conversationId => exact .waits .refl trivial
  | commitDeletion userId conversationId now remaining =>
      refine .ends (transaction_writes fun _ _ done => ?_)
      cases done
      exact finishDeletion_committed now userId conversationId remaining
  | commitLeave userId conversationId =>
      exact .ends (transaction_writes fun _ _ done => removeMemberFromGroup_writes done)
  | deleteFiles dto doomed =>
      have emptied := @deleteFiles_writes platform store
        env (AdminService.storageKeysOf store
          (store.messages.filter fun message => doomed.contains message.conversationId))
      unfold PrivateTask.resume
      simp only
      split
      · next failed =>
          rw [failed] at emptied
          exact .ends emptied
      · next done =>
          rw [done] at emptied
          exact .waits emptied trivial
  | commitUser dto doomed =>
      refine .ends (transaction_writes fun _ _ done => ?_)
      cases done
      exact .tail (.single (.deleteConversations _)) (.deleteUsers _)

theorem AuthTask.start_committed (call : AuthCall) :
    Committed platform store (AuthTask.start platform store (env, call)).1 := by
  cases call <;> exact .refl

theorem AuthTask.resume_committed (task : AuthTask) :
    Committed platform store (AuthTask.resume platform store task env).1 := by
  cases task with
  | rotateSession session payload refreshToken =>
      have rotates := @rotateSession_writes platform store (env.succeeds 3) env.now session.id
        payload.roles refreshToken
      unfold AuthTask.resume
      simp only
      split
      · next failed =>
          rw [failed] at rotates
          exact rotates
      · next done =>
          rw [done] at rotates
          exact rotates
  | revokeAllSessions session payload =>
      unfold AuthTask.resume
      simp only
      split
      · exact .single (revokeAllSessions_write payload.sub)
      · exact .refl
  | expireSession session =>
      unfold AuthTask.resume
      simp only
      split
      · exact .single (revokeSession_write session.id .expired)
      · exact .refl
  | caught sessionId reason =>
      unfold AuthTask.resume
      simp only
      split
      · exact .single (revokeSession_write sessionId reason)
      · exact .refl
  | revokeSession sessionId =>
      unfold AuthTask.resume
      simp only
      split
      · exact .single (revokeSession_write sessionId .logout)
      · exact .refl

theorem AdminDraft.start_committed (call : AdminCall) :
    Committed platform store (AdminDraft.start platform store (env, call)).1 := by
  unfold AdminDraft.start
  split <;> exact .refl

/-- A call that waits after its checks is sound when they make it so. -/
theorem CheckedTask.after_committed {A : Type} {checks : Except Exception A} {task : A → CheckedTask}
    (passes : ∀ value, checks = .ok value → (task value).Sound store) :
    CommittedPart platform CheckedTask.Sound store (store, CheckedTask.after checks task) := by
  cases checks with
  | error exception => exact .ends .refl
  | ok value => exact .waits .refl (passes value rfl)

theorem CheckedTask.start_committed (rooted : Rooted store) (call : CheckedCall) :
    CommittedPart platform CheckedTask.Sound store (CheckedTask.start platform store (env, call)) := by
  cases call with
  | group call =>
      cases call with
      | createGroup ownerId dto => exact .ends (groupCall_committed env rooted (.createGroup ownerId dto))
      | validateGroupInvitation actorId dto =>
          exact CheckedTask.after_committed platform store fun _ passed => rooted.invites passed
      | acceptGroupInvitation conversationId userId =>
          refine CheckedTask.after_committed platform store fun rows passed => ?_
          simp only
          split
          · trivial
          · exact rooted.accepts passed
      | rejectGroupInvitation conversationId userId =>
          unfold CheckedTask.start CheckedTask.ofGroup
          simp only
          cases GroupInvitationRepository.findOne env.scan store conversationId userId with
          | none => exact .ends .refl
          | some invitation =>
              refine .waits .refl ?_
              simp only
              split <;> trivial
      | leaveGroup userId conversationId => exact CheckedTask.after_committed platform store fun _ _ => trivial
      | removeGroupMember userId dto => exact CheckedTask.after_committed platform store fun _ _ => trivial
      | transferGroupOwnership prevOwner dto => exact CheckedTask.after_committed platform store fun _ _ => trivial
  | deleteGroup userId conversationId => exact CheckedTask.after_committed platform store fun _ _ => trivial
  | signin client dto => exact CheckedTask.after_committed platform store fun _ _ => trivial
  | adminSignIn client dto => exact CheckedTask.after_committed platform store fun _ _ => trivial

theorem CheckedTask.resume_committed (task : CheckedTask) (sound : task.Sound store) :
    Committed platform store (CheckedTask.resume platform store task env) := by
  cases task with
  | createInvitation actorId dto =>
      refine transaction_writes fun _ _ done => ?_
      obtain ⟨final, created, last⟩ := ok_of_bind done
      cases last
      exact .single (createInvitation_write sound created)
  | acceptInvitation conversationId userId member =>
      exact transaction_writes fun _ _ done => acceptGroupInvitationBody_writes sound done
  | rejectInvitation conversationId userId =>
      refine transaction_writes fun _ _ done => ?_
      cases done
      exact .single (setStatus_write .rejected conversationId userId)
  | expireInvitation conversationId userId =>
      unfold CheckedTask.resume ConversationService.expireInvitation
      simp only
      split
      · exact .single (setStatus_write .accepted conversationId userId)
      · exact .refl
  | removeMember conversationId actorId targetUserId eventType =>
      exact transaction_writes fun _ _ done => removeMemberFromGroup_writes done
  | transferOwnership prevOwner dto =>
      exact transaction_writes fun _ _ done => transferGroupOwnershipBody_writes done
  | deleteConversation conversationId =>
      refine transaction_writes fun _ _ done => ?_
      cases done
      exact .single (deleteConversation_write conversationId)
  | openSession client user => exact openSession_committed platform env client user

theorem CleanupTask.start_committed (call : CleanupCall) :
    Committed platform store (CleanupTask.start store (env, call)).1 := by
  cases call with
  | deleteMessages dto =>
      have deleted := @deleteMessages_committed platform env store dto
      unfold CleanupTask.start
      simp only
      split
      · next done =>
          rw [done] at deleted
          exact deleted
      · next done =>
          rw [done] at deleted
          exact deleted
  | deleteMessagesJob => exact .refl

theorem CleanupTask.resume_committed (task : CleanupTask) :
    Committed platform store (CleanupTask.resume store task env).1 := by
  cases task with
  | deleteFiles storageKeys => exact deleteFiles_writes _ storageKeys
  | emptyBucket cutoff storageKeys =>
      have emptied := @deleteFiles_writes platform store
        env storageKeys
      unfold CleanupTask.resume
      simp only
      split
      · next failed =>
          rw [failed] at emptied
          exact emptied
      · next done =>
          rw [done] at emptied
          exact emptied
  | deleteMessagesOlderThan cutoff =>
      unfold CleanupTask.resume
      simp only
      split
      · exact .single (.deleteMessages _)
      · exact .refl

/-- The first part of every call makes its writes. -/
theorem ServiceTask.start_committed (rooted : Rooted store) (call : ServiceCall) :
    CommittedPart platform (ServiceTask.Sound platform) store (ServiceTask.start platform store (env, call)) := by
  cases call with
  | sending call =>
      exact (UploadTask.start_committed platform env store rooted call).map .sending fun _ _ sound => sound
  | receiving call =>
      exact (CommittedPart.unsound _ (DeliveryTask.start_committed platform env store call)).map .receiving
        fun _ _ _ => trivial
  | occupancy call =>
      exact (PrivateTask.start_committed platform env store call).map .occupancy fun _ _ sound => sound
  | session call =>
      exact (CommittedPart.unsound _ (AuthTask.start_committed platform env store call)).map .session
        fun _ _ _ => trivial
  | admin call =>
      exact (CommittedPart.unsound _ (AdminDraft.start_committed platform env store call)).map .admin
        fun _ _ _ => trivial
  | checked call =>
      exact (CheckedTask.start_committed platform env store rooted call).map .checked fun _ _ sound => sound
  | cleanup call =>
      exact (CommittedPart.unsound _ (CleanupTask.start_committed platform env store call)).map .cleanup
        fun _ _ _ => trivial
  | action action => exact .ends (act_committed platform rooted (env, action))

/-- Each later part of a call makes its writes, whatever has happened since the part before. -/
theorem ServiceTask.resume_committed (rooted : Rooted store) (task : ServiceTask) (answer : DeliveryAnswer)
    (sound : task.Sound platform store) :
    CommittedPart platform (ServiceTask.Sound platform) store (ServiceTask.resume platform store task answer) := by
  cases task with
  | sending task =>
      exact (UploadTask.resume_committed platform answer.env store task sound).map .sending fun _ _ sound => sound
  | receiving task =>
      exact (CommittedPart.unsound _ (DeliveryTask.resume_committed platform store task answer)).map .receiving
        fun _ _ _ => trivial
  | occupancy task =>
      exact (PrivateTask.resume_committed platform answer.env store rooted task sound).map .occupancy
        fun _ _ sound => sound
  | session task =>
      exact (CommittedPart.unsound _ (AuthTask.resume_committed platform answer.env store task)).map .session
        fun _ _ _ => trivial
  | admin draft =>
      exact (CommittedPart.unsound (AdminDraft.resume store draft answer.env)
        (saveUser_writes answer.env (draft.user store.nextId answer.env.now) rfl)).map .admin fun _ _ _ => trivial
  | checked task => exact .ends (CheckedTask.resume_committed platform answer.env store task sound)
  | cleanup task =>
      exact (CommittedPart.unsound _ (CleanupTask.resume_committed platform answer.env store task)).map .cleanup
        fun _ _ _ => trivial

end Parts

/-- The tables are rooted, and every waiting task is sound for them. -/
structure SoundProgress (platform : Platform) (holds : Store → Prop) (progress : Library.Progress Store ServiceTask) :
    Prop where
  rooted : Rooted progress.state
  holds : holds progress.state
  sound : ∀ task ∈ progress.pending, task.Sound platform progress.state

/-- One part of a call keeps progress sound. -/
theorem CommittedPart.progress {platform : Platform} {holds : Store → Prop} {store : Store} {pending : List ServiceTask}
    {outcome : Store × Option ServiceTask} (part : CommittedPart platform (ServiceTask.Sound platform) store outcome)
    (before : SoundProgress platform holds ⟨store, pending⟩)
    (kept : ∀ store next, Write platform store next → holds store → holds next) :
    SoundProgress platform holds (waiting pending outcome) where
  rooted := part.writes.keeps before.rooted fun _ _ => Write.rooted
  holds := part.writes.keeps before.holds kept
  sound task inside := by
    obtain old | new := mem_waiting.mp inside
    · exact (before.sound task old).keeps part.writes
    · exact part.sound task new

section Progress
variable {platform : Platform} {holds : Store → Prop}

/-- What others write in the meantime keeps progress sound. -/
theorem SoundProgress.meanwhile {store next : Store} {pending : List ServiceTask}
    (before : SoundProgress platform holds ⟨store, pending⟩) (writes : Committed platform store next)
    (kept : ∀ store next, Write platform store next → holds store → holds next) :
    SoundProgress platform holds ⟨next, pending⟩ where
  rooted := writes.keeps before.rooted fun _ _ => Write.rooted
  holds := writes.keeps before.holds kept
  sound task inside := (before.sound task inside).keeps writes

/-- Every turn of the service keeps progress sound. -/
theorem SoundProgress.advance {progress : Library.Progress Store ServiceTask}
    (before : SoundProgress platform holds progress)
    (kept : ∀ store next, Write platform store next → holds store → holds next)
    (turn : Turn (Env × ServiceCall) DeliveryAnswer) :
    SoundProgress platform holds ((serviceSystem platform).advance progress turn) := by
  refine (serviceSystem platform).advance_keeps (SoundProgress platform holds) before ?_ ?_
  · rintro ⟨env, call⟩ -
    exact (ServiceTask.start_committed platform env _ before.rooted call).progress before kept
  · intro place answer task _ present
    have sound := before.sound task (List.mem_of_getElem? present)
    refine (ServiceTask.resume_committed platform _ before.rooted task answer sound).progress ?_ kept
    exact ⟨before.rooted, before.holds, fun other inside => before.sound other (List.mem_of_mem_eraseIdx inside)⟩

end Progress

end Messinger
