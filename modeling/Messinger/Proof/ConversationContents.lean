import Messinger.Proof.SystemRuns

namespace Messinger
open Library ConversationMemberRepository ConversationRepository ConversationService MessageService
  StorageService

/-- These are the messages of a conversation with everything that belongs to them. -/
structure ConversationContent where
  messages : List Message
  attachments : List MessageAttachment
  deliveries : List MessageDelivery
  files : List StorageKey
  deriving DecidableEq

/-- The identifier is that of a message in the conversation. -/
def Store.owns (store : Store) (conversationId messageId : Uuid) : Bool :=
  store.messages.any fun message => message.conversationId == conversationId && message.id == messageId

def attachmentsIn (store : Store) (conversationId : Uuid) : List MessageAttachment :=
  store.attachments.filter fun attachment => store.owns conversationId attachment.messageId

def contentOf (store : Store) (conversationId : Uuid) : ConversationContent where
  messages := store.messages.filter fun message => message.conversationId == conversationId
  attachments := attachmentsIn store conversationId
  deliveries := store.deliveries.filter fun delivery => store.owns conversationId delivery.messageId
  files := store.bucket.filter fun storageKey =>
    (attachmentsIn store conversationId).any fun attachment => attachment.storageKey == storageKey

section Contents
variable {store next : Store} {conversationId : Uuid}

theorem SameContent.contentOf (same : SameContent store next) (conversationId : Uuid) :
    contentOf next conversationId = contentOf store conversationId := by
  unfold Messinger.contentOf attachmentsIn Store.owns
  rw [same.messages, same.attachments, same.deliveries, same.bucket]

theorem owns_iff {messageId : Uuid} : store.owns conversationId messageId = true ↔
    ∃ message ∈ store.messages, message.conversationId = conversationId ∧ message.id = messageId := by
  unfold Store.owns
  rw [List.any_eq_true]
  simp only [Bool.and_eq_true, beq_iff_eq]

/-- Deleting messages of other conversations leaves the content of this one. -/
theorem contentOf_deleteMessages (distinct : (store.messages.map Message.id).Nodup) (doomed : Message → Bool)
    (apart : ∀ message ∈ store.messages, doomed message = true → message.conversationId ≠ conversationId) :
    contentOf (store.deleteMessages doomed) conversationId = contentOf store conversationId := by
  have owns : (store.deleteMessages doomed).owns conversationId = store.owns conversationId := by
    funext messageId
    rw [Bool.eq_iff_iff, owns_iff, owns_iff]
    constructor
    · rintro ⟨message, inside, rest⟩
      exact ⟨message, (List.mem_filter.mp inside).1, rest⟩
    · rintro ⟨message, inside, place, id⟩
      refine ⟨message, List.mem_filter.mpr ⟨inside, ?_⟩, place, id⟩
      rw [Bool.not_eq_true', Bool.eq_false_iff]
      exact fun selected => apart message inside selected place
  have stays : ∀ messageId, store.owns conversationId messageId = true →
      (!(store.messages.any fun message => message.id == messageId && doomed message)) = true := by
    intro messageId owned
    obtain ⟨message, inside, place, id⟩ := owns_iff.mp owned
    rw [Bool.not_eq_true', List.any_eq_false]
    intro other present selected
    simp only [Bool.and_eq_true, beq_iff_eq] at selected
    have same := List.inj_on_of_nodup_map distinct present inside (selected.1.trans id.symm)
    exact apart other present selected.2 (same ▸ place)
  have attachments : attachmentsIn (store.deleteMessages doomed) conversationId =
      attachmentsIn store conversationId := by
    unfold attachmentsIn
    rw [owns]
    exact filter_filter_kept _ _ (fun attachment => stays attachment.messageId) store.attachments
  unfold contentOf
  rw [attachments, owns]
  congr 1
  · change (store.messages.filter fun message => !doomed message).filter _ = _
    rw [List.filter_filter]
    apply List.filter_congr
    intro message inside
    cases place : message.conversationId == conversationId with
    | false => rfl
    | true =>
        have spared : doomed message = false :=
          Bool.eq_false_iff.mpr fun selected => apart message inside selected (beq_iff_eq.mp place)
        rw [spared]
        rfl
  · exact filter_filter_kept _ _ (fun delivery => stays delivery.messageId) store.deliveries

/-- Deleting files that belong to no message of the conversation leaves its content. -/
theorem contentOf_withBucket (kept : StorageKey → Bool)
    (spared : ∀ attachment ∈ attachmentsIn store conversationId, kept attachment.storageKey = true) :
    contentOf { store with bucket := store.bucket.filter kept } conversationId =
      contentOf store conversationId := by
  have files : (store.bucket.filter kept).filter (fun storageKey =>
      (attachmentsIn store conversationId).any fun attachment => attachment.storageKey == storageKey) =
        store.bucket.filter fun storageKey =>
          (attachmentsIn store conversationId).any fun attachment => attachment.storageKey == storageKey := by
    apply filter_filter_kept
    intro storageKey listed
    obtain ⟨attachment, inside, same⟩ := List.any_eq_true.mp listed
    rw [← beq_iff_eq.mp same]
    exact spared attachment inside
  unfold contentOf
  change ConversationContent.mk _ (attachmentsIn store conversationId) _ _ = _
  congr 1

end Contents

end Messinger
