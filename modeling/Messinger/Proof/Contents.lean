import Messinger.Proof.MessageCalls
import Messinger.Proof.UploadCalls

namespace Messinger
open Library ConversationRepository MessageService StorageService MessageAttachmentRepository

/-- Message identifiers are distinct and already spent. -/
structure MessagesKnown (store : Store) : Prop where
  distinct : (store.messages.map Message.id).Nodup
  spent : ∀ message ∈ store.messages, message.id < store.nextId

/-- An object belongs to one message or to one pending upload, whose row names it. -/
structure FilesApart (store : Store) : Prop where
  attachments : ∀ attachment ∈ store.attachments,
    attachment.messageId < store.nextId ∧ attachment.storageKey.object < store.nextId
  shared : ∀ first ∈ store.attachments, ∀ second ∈ store.attachments,
    first.storageKey = second.storageKey → first.messageId = second.messageId
  uploads : ∀ upload ∈ store.pendingUploads,
    upload.storageKey.object = upload.id + 1 ∧ upload.id + 2 ≤ store.nextId
  apart : ∀ upload ∈ store.pendingUploads, ∀ attachment ∈ store.attachments,
    attachment.storageKey ≠ upload.storageKey

section Tables
variable {store next : Store}

theorem MessagesKnown.of_same (known : MessagesKnown store)
    (messages : next.messages = store.messages) (later : store.nextId ≤ next.nextId) :
    MessagesKnown next := by
  constructor
  · rw [messages]
    exact known.distinct
  · intro message inside
    rw [messages] at inside
    exact Nat.lt_of_lt_of_le (known.spent message inside) later

/-- A new message takes the next identifier. -/
theorem MessagesKnown.append (known : MessagesKnown store) {message : Message}
    (messages : next.messages = store.messages ++ [message]) (id : message.id = store.nextId)
    (later : store.nextId < next.nextId) : MessagesKnown next := by
  constructor
  · rw [messages, List.map_append, List.nodup_append]
    refine ⟨known.distinct, List.nodup_singleton _, ?_⟩
    intro left inside right new same
    rw [List.map_singleton, List.mem_singleton] at new
    obtain ⟨old, present, equal⟩ := List.mem_map.mp inside
    have spent := known.spent old present
    rw [equal, same, new, id] at spent
    exact Nat.lt_irrefl _ spent
  · intro other inside
    rw [messages, List.mem_append, List.mem_singleton] at inside
    obtain old | rfl := inside
    · exact Nat.lt_trans (known.spent other old) later
    · rw [id]
      exact later

theorem MessagesKnown.filter (known : MessagesKnown store) {keep : Message → Bool}
    (messages : next.messages = store.messages.filter keep) (later : store.nextId ≤ next.nextId) :
    MessagesKnown next := by
  constructor
  · rw [messages]
    exact known.distinct.sublist (List.filter_sublist.map _)
  · intro message inside
    rw [messages] at inside
    exact Nat.lt_of_lt_of_le (known.spent message (List.mem_filter.mp inside).1) later

/-- Rows that leave the tables take no object from another message. -/
theorem FilesApart.shrink (apart : FilesApart store)
    (attachments : ∀ attachment ∈ next.attachments, attachment ∈ store.attachments)
    (uploads : ∀ upload ∈ next.pendingUploads, upload ∈ store.pendingUploads)
    (later : store.nextId ≤ next.nextId) : FilesApart next where
  attachments attachment inside := by
    obtain ⟨message, object⟩ := apart.attachments attachment (attachments attachment inside)
    exact ⟨Nat.lt_of_lt_of_le message later, Nat.lt_of_lt_of_le object later⟩
  shared first left second right :=
    apart.shared first (attachments first left) second (attachments second right)
  uploads upload inside := by
    obtain ⟨object, known⟩ := apart.uploads upload (uploads upload inside)
    exact ⟨object, Nat.le_trans known later⟩
  apart upload inside attachment present :=
    apart.apart upload (uploads upload inside) attachment (attachments attachment present)

/-- New uploads take fresh objects. -/
theorem FilesApart.uploaded (apart : FilesApart store) {rows : List PendingUpload} {userId supply : Uuid}
    (later : store.nextId ≤ supply) (fresh : ∀ row ∈ rows, FreshUpload userId store.nextId supply row) :
    FilesApart { store with pendingUploads := store.pendingUploads ++ rows, nextId := supply } where
  attachments attachment inside := by
    obtain ⟨message, object⟩ := apart.attachments attachment inside
    exact ⟨Nat.lt_of_lt_of_le message later, Nat.lt_of_lt_of_le object later⟩
  shared := apart.shared
  uploads upload inside := by
    obtain old | new := List.mem_append.mp inside
    · obtain ⟨object, known⟩ := apart.uploads upload old
      exact ⟨object, Nat.le_trans known later⟩
    · exact ⟨by rw [(fresh upload new).storageKey], (fresh upload new).known⟩
  apart upload inside attachment present := by
    obtain old | new := List.mem_append.mp inside
    · exact apart.apart upload old attachment present
    · intro same
      have object := (apart.attachments attachment present).2
      rw [same, (fresh upload new).storageKey] at object
      have bound := (fresh upload new).fresh
      exact absurd (Nat.lt_of_succ_lt object) (Nat.not_lt_of_le bound)

/-- A message takes the pending uploads of its sender that have not expired and have an object. -/
structure UsableUpload (now : Nat) (userId : Uuid) (store : Store) (upload : PendingUpload) : Prop where
  pending : upload ∈ store.pendingUploads
  owner : upload.userId = userId
  current : getTime now ≤ getTime upload.expiresAt
  stored : upload.storageKey ∈ store.bucket

theorem findUploads_usable {now : Nat} {userId : Uuid} {attachments : List MessageAttachmentDto}
    {uploads : List PendingUpload} (found : findUploads now userId store attachments = .ok uploads) :
    ∀ upload ∈ uploads, UsableUpload now userId store upload := by
  induction attachments generalizing uploads with
  | nil =>
      cases found
      exact fun upload inside => absurd inside List.not_mem_nil
  | cons attachment rest ih =>
      obtain ⟨first, others, located, current, stored, tail, rfl⟩ := findUploads_cons_ok_iff.mp found
      intro upload inside
      obtain rfl | later := List.mem_cons.mp inside
      · have matching := List.find?_some located
        rw [Bool.and_eq_true, beq_iff_eq, beq_iff_eq] at matching
        exact
          { pending := List.mem_of_find?_eq_some located
            owner := matching.2
            current := current
            stored := stored }
      · exact ih tail upload later

/-- The uploads of a message are pending before it is saved. -/
theorem findUploads_mem {now : Nat} {userId : Uuid} {attachments : List MessageAttachmentDto}
    {uploads : List PendingUpload} (found : findUploads now userId store attachments = .ok uploads) :
    ∀ upload ∈ uploads, upload ∈ store.pendingUploads :=
  fun upload inside => (findUploads_usable found upload inside).pending

/-- Attaching pending uploads to a new message gives their objects to it. -/
theorem FilesApart.attached (apart : FilesApart store) {messageId : Uuid} {now : Nat}
    {uploads : List PendingUpload} (pending : ∀ upload ∈ uploads, upload ∈ store.pendingUploads)
    (known : messageId < store.nextId) : FilesApart (attached now messageId uploads store) := by
  have origin : ∀ attachment ∈ (StorageService.attached now messageId uploads store).attachments,
      attachment ∈ store.attachments ∨
        attachment.messageId = messageId ∧ ∃ upload ∈ uploads, attachment.storageKey = upload.storageKey := by
    intro attachment inside
    obtain old | new := List.mem_append.mp inside
    · exact .inl old
    · obtain ⟨⟨upload, index⟩, listed, same⟩ := List.mem_map.mp new
      rw [← same]
      exact .inr ⟨rfl, upload, List.fst_mem_of_mem_zipIdx listed, rfl⟩
  have later : store.nextId ≤ (StorageService.attached now messageId uploads store).nextId :=
    Nat.le_add_right _ _
  constructor
  · intro attachment inside
    obtain old | ⟨same, upload, listed, key⟩ := origin attachment inside
    · obtain ⟨message, object⟩ := apart.attachments attachment old
      exact ⟨Nat.lt_of_lt_of_le message later, Nat.lt_of_lt_of_le object later⟩
    · obtain ⟨object, bound⟩ := apart.uploads upload (pending upload listed)
      rw [same, key, object]
      exact ⟨Nat.lt_of_lt_of_le known later, Nat.lt_of_lt_of_le (Nat.lt_of_succ_le bound) later⟩
  · intro first left second right same
    obtain old | ⟨firstId, upload, listed, key⟩ := origin first left
    · obtain other | ⟨secondId, upload, listed, key⟩ := origin second right
      · exact apart.shared first old second other same
      · exact absurd (same.trans key) (apart.apart upload (pending upload listed) first old)
    · obtain other | ⟨secondId, -⟩ := origin second right
      · exact absurd (same.symm.trans key) (apart.apart upload (pending upload listed) second other)
      · rw [firstId, secondId]
  · intro upload inside
    obtain ⟨object, bound⟩ := apart.uploads upload (List.mem_filter.mp inside).1
    exact ⟨object, Nat.le_trans bound later⟩
  · intro upload inside attachment present
    obtain ⟨remaining, unused⟩ := List.mem_filter.mp inside
    obtain old | ⟨-, used, listed, key⟩ := origin attachment present
    · exact apart.apart upload remaining attachment old
    · intro same
      have object := congrArg StorageKey.object (key.symm.trans same)
      rw [(apart.uploads used (pending used listed)).1, (apart.uploads upload remaining).1] at object
      have different := List.all_eq_true.mp unused used listed
      rw [Nat.succ.inj object] at different
      simp at different

end Tables

end Messinger
