import Messinger.Model.System
import Messinger.Proof.ActiveOwner
import Messinger.Proof.Contents
import Messinger.Proof.Middlewares

namespace Messinger
open Library SessionRepository ConversationMemberRepository ConversationRepository ConversationService
  MessageService StorageService

/-- The tables fit together: identifiers and objects are not shared, and owners are active. -/
structure Consistent (store : Store) : Prop where
  messages : MessagesKnown store
  files : FilesApart store
  governed : Governed (fun roster => HoldersActive roster) store

/-- The stores have the same messages, attachments, deliveries and files. -/
structure SameContent (store next : Store) : Prop where
  messages : next.messages = store.messages
  attachments : next.attachments = store.attachments
  deliveries : next.deliveries = store.deliveries
  bucket : next.bucket = store.bucket

/-- The write leaves the content of the conversations and keeps the tables consistent. -/
structure LeavesContent (store next : Store) : Prop where
  same : SameContent store next
  consistent : Consistent store → Consistent next

namespace LeavesContent
variable {store next : Store}

theorem refl (store : Store) : LeavesContent store store := ⟨⟨rfl, rfl, rfl, rfl⟩, id⟩

/-- A write to the members and conversations leaves the content when it keeps the office. -/
theorem of_governed (same : SameContent store next) (uploads : next.pendingUploads = store.pendingUploads)
    (later : store.nextId ≤ next.nextId)
    (governed : Governed (fun roster => HoldersActive roster) store →
      Governed (fun roster => HoldersActive roster) next) : LeavesContent store next where
  same := same
  consistent before :=
    { messages := before.messages.of_same same.messages later
      files := before.files.shrink (fun _ inside => same.attachments ▸ inside)
        (fun _ inside => uploads ▸ inside) later
      governed := governed before.governed }

end LeavesContent

/-- The write leaves the pending uploads too. -/
structure LeavesFiles (store next : Store) : Prop extends LeavesContent store next where
  uploads : next.pendingUploads = store.pendingUploads

namespace LeavesFiles
variable {store next : Store}

theorem refl (store : Store) : LeavesFiles store store := ⟨.refl store, rfl⟩

theorem of_governed (same : SameContent store next) (uploads : next.pendingUploads = store.pendingUploads)
    (later : store.nextId ≤ next.nextId)
    (governed : Governed (fun roster => HoldersActive roster) store →
      Governed (fun roster => HoldersActive roster) next) : LeavesFiles store next :=
  ⟨.of_governed same uploads later governed, uploads⟩

/-- A write outside the conversations leaves their content. -/
theorem of_tables (same : SameContent store next) (uploads : next.pendingUploads = store.pendingUploads)
    (members : next.members = store.members) (conversations : next.conversations = store.conversations)
    (later : store.nextId ≤ next.nextId) : LeavesFiles store next :=
  of_governed same uploads later fun governed => governed.of_frame members conversations later

end LeavesFiles

section Accounts
variable (platform : Platform) (env : Env) (store : Store)

theorem addUser_leavesFiles (row : User) : LeavesFiles store (store.addUser row) :=
  .of_tables ⟨rfl, rfl, rfl, rfl⟩ rfl rfl rfl (Nat.le_succ _)

theorem signup_leavesFiles (dto : SignUpDto) :
    LeavesFiles store (AuthService.signup platform env dto store).2 := by
  obtain same | ⟨row, -, -, added⟩ := signup_store platform env dto store
  · rw [same]
    exact .refl store
  · rw [added]
    exact addUser_leavesFiles store row

theorem createAdmin_leavesFiles (dto : AdminDto) :
    LeavesFiles store (AuthService.createAdmin platform env dto store).2 := by
  obtain same | ⟨row, -, -, added⟩ := createAdmin_store platform env dto store
  · rw [same]
    exact .refl store
  · rw [added]
    exact addUser_leavesFiles store row

variable {store} in
theorem AccountStep.leavesFiles {next : Store} (step : AccountStep store next) : LeavesFiles store next := by
  cases step with
  | reads => exact .refl store
  | updateUser userId change keeps => exact .of_tables ⟨rfl, rfl, rfl, rfl⟩ rfl rfl rfl (Nat.le_refl _)
  | createSession platform env params =>
      rcases createSession_cases platform env params store with failed | created
      · rw [failed]
        exact .refl store
      · rw [created]
        exact .of_tables ⟨rfl, rfl, rfl, rfl⟩ rfl rfl rfl (Nat.le_succ _)
  | updateSessions matching change keeps => exact .of_tables ⟨rfl, rfl, rfl, rfl⟩ rfl rfl rfl (Nat.le_refl _)
  | subscriptions pushSubscriptions nextId later => exact .of_tables ⟨rfl, rfl, rfl, rfl⟩ rfl rfl rfl later

theorem adminSeed_leavesFiles : LeavesFiles store (adminSeed platform env store).2 := by
  unfold adminSeed
  split
  · exact .refl store
  · split
    · next failed =>
        rw [saveUser_error failed]
        exact .refl store
    · next done =>
        rw [saveUser_ok done]
        exact addUser_leavesFiles store _

end Accounts

end Messinger
