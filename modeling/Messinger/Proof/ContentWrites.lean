import Messinger.Proof.MemberWrites

namespace Messinger
open Library ConversationMemberRepository ConversationRepository ConversationService MessageService
  StorageService

section Rows
variable {store next : Store}

/-- A write outside messages, attachments and uploads keeps the tables consistent when it keeps the office. -/
theorem Consistent.of_rows (before : Consistent store) (messages : next.messages = store.messages)
    (attachments : next.attachments = store.attachments)
    (uploads : next.pendingUploads = store.pendingUploads) (later : store.nextId ≤ next.nextId)
    (governed : Governed (fun roster => HoldersActive roster) next) : Consistent next where
  messages := before.messages.of_same messages later
  files := before.files.shrink (fun _ inside => attachments ▸ inside) (fun _ inside => uploads ▸ inside) later
  governed := governed

/-- Deleting messages touches no member, and of a conversation no more than its last message. -/
theorem Governed.deleteMessages {rule : Roster Uuid → Prop} (governed : Governed rule store)
    (doomed : Message → Bool) : Governed rule (store.deleteMessages doomed) := by
  have rosters : RosterSteps store (store.deleteMessages doomed) := .of_eq (rosterOf_congr rfl)
  apply governed.steps_of_keys rosters rfl _ (Nat.le_refl _)
  intro conversation inside
  obtain ⟨old, present, equal⟩ := List.mem_map.mp inside
  refine ⟨old, present, ?_⟩
  rw [← equal]
  split <;> exact ⟨rfl, rfl⟩

theorem Consistent.deleteMessages (before : Consistent store) (doomed : Message → Bool) :
    Consistent (store.deleteMessages doomed) where
  messages := before.messages.filter rfl (Nat.le_refl _)
  files := before.files.shrink (fun _ inside => (List.mem_filter.mp inside).1) (fun _ inside => inside)
    (Nat.le_refl _)
  governed := before.governed.deleteMessages doomed

theorem Consistent.deleteConversations (before : Consistent store) (doomed : Uuid → Bool) :
    Consistent (store.deleteConversations doomed) where
  messages := before.messages.filter rfl (Nat.le_refl _)
  files := before.files.shrink (fun _ inside => (List.mem_filter.mp inside).1) (fun _ inside => inside)
    (Nat.le_refl _)
  governed := before.governed.deleteConversations doomed

/-- Deleting users strikes them off the rosters. -/
theorem Consistent.deleteUsers (before : Consistent store) (doomed : User → Bool) :
    Consistent (store.deleteUsers doomed) where
  messages := by
    have ids : (store.deleteUsers doomed).messages.map Message.id = store.messages.map Message.id := by
      change (store.messages.map _).map Message.id = _
      rw [List.map_map]
      apply List.map_congr_left
      intro message _
      rw [Function.comp_apply]
      split <;> rfl
    constructor
    · rw [ids]
      exact before.messages.distinct
    · intro message inside
      have listed : message.id ∈ store.messages.map Message.id := by
        rw [← ids]
        exact List.mem_map_of_mem inside
      obtain ⟨old, present, same⟩ := List.mem_map.mp listed
      rw [← same]
      exact before.messages.spent old present
  files := before.files.shrink (fun _ inside => inside) (fun _ inside => (List.mem_filter.mp inside).1)
    (Nat.le_refl _)
  governed := by
    have sub : ∀ conversationId person entry,
        rosterOf (store.deleteUsers doomed) conversationId person = some entry →
          rosterOf store conversationId person = some entry := by
      intro conversationId person entry listed
      unfold rosterOf at listed
      obtain ⟨member, found, same⟩ := Option.map_eq_some_iff.mp listed
      obtain ⟨inside, place, user⟩ := findMember_some found
      have stored := findMember_of_mem before.governed.memberKeys (List.mem_filter.mp inside).1
      rw [place, user] at stored
      rw [← same]
      exact rosterOf_eq_some stored
    constructor
    · exact before.governed.office
    · exact before.governed.memberKeys.sublist (List.filter_sublist.map _)
    · exact fun member inside => before.governed.membersKnown member (List.mem_filter.mp inside).1
    · exact before.governed.conversationsKnown
    · exact fun conversation inside type =>
        (before.governed.groups conversation inside type).of_sub (sub conversation.id)
    · exact fun conversation inside type =>
        (before.governed.privates conversation inside type).of_sub (sub conversation.id)

theorem Consistent.withBucket (before : Consistent store) (bucket : List StorageKey) :
    Consistent { store with bucket } :=
  before.of_rows rfl rfl rfl (Nat.le_refl _) (before.governed.of_frame rfl rfl (Nat.le_refl _))

theorem Consistent.deleteFiles (before : Consistent store) (env : Env)
    (storageKeys : List StorageKey) : Consistent (deleteFiles env storageKeys store).2 := by
  obtain ⟨kept, shape, -⟩ := deleteFiles_shape env storageKeys store
  rw [shape]
  exact before.withBucket _

/-- A saved message takes the next identifier and the objects of its uploads. -/
theorem Consistent.persisted (before : Consistent store) (now : Nat) (senderId conversationId : Uuid)
    (members : List ConversationMember) (ciphered : CipheredMessage) {uploads : List PendingUpload}
    (pending : ∀ upload ∈ uploads, upload ∈ store.pendingUploads) :
    Consistent (persisted now senderId conversationId members ciphered uploads store) where
  messages := by
    refine before.messages.append rfl rfl ?_
    change store.nextId < store.nextId + 1 + (recipients members senderId).length + uploads.length
    exact Nat.lt_of_lt_of_le (Nat.lt_succ_self _)
      (Nat.le_trans (Nat.le_add_right _ _) (Nat.le_add_right _ _))
  files := by
    let linked := updateLastMessage now conversationId store.nextId
      (MessageDeliveryRepository.createDeliveries now store.nextId (recipients members senderId)
        { store with
          messages := store.messages ++ [newMessage now senderId conversationId ciphered store.nextId]
          nextId := store.nextId + 1 })
    have later : store.nextId < linked.nextId :=
      Nat.lt_of_lt_of_le (Nat.lt_succ_self _) (Nat.le_add_right _ _)
    have apart : FilesApart linked :=
      before.files.shrink (fun _ inside => inside) (fun _ inside => inside) (Nat.le_of_lt later)
    have final : FilesApart (attached now store.nextId uploads linked) := apart.attached pending later
    exact final.shrink (fun _ inside => inside) (fun _ inside => inside) (Nat.le_refl _)
  governed := before.governed.persisted now senderId conversationId members ciphered uploads

end Rows

end Messinger
