import Messinger.Proof.Consistency

namespace Messinger
open Library ConversationMemberRepository ConversationService StorageService

/-- The counter of unread messages is not part of the roster. -/
theorem Governed.resetUnread {rule : Roster Uuid → Prop} {store : Store} (governed : Governed rule store)
    (conversationId userId : Uuid) : Governed rule (resetUnreadCount conversationId userId store) := by
  have rosters : RosterSteps store (resetUnreadCount conversationId userId store) := by
    refine RosterSteps.update store conversationId userId _ ?_ ?_
    · exact fun _ => rfl
    · intro member found
      have same : Function.update (rosterOf store conversationId) userId
          (some ({ member with unreadCount := 0 } : ConversationMember).entry) =
            rosterOf store conversationId := by
        rw [Function.update_eq_self_iff]
        exact (rosterOf_eq_some found).symm
      rw [same]
      exact .keep
  apply governed.steps_of_keys rosters _ _ (Nat.le_refl _)
  · exact memberKeys_updateMember store conversationId userId _ fun _ => rfl
  · exact fun conversation inside => ⟨conversation, inside, rfl, rfl⟩

section Groups
variable (env : Env) (store : Store)

variable {env store} in
/-- Every step of a group leaves the content and the files. -/
theorem GroupStep.leavesFiles {next : Store} {call : GroupCall} (step : GroupStep env store call next) :
    LeavesFiles store next := by
  have governed : Governed (fun roster => HoldersActive roster) store →
      Governed (fun roster => HoldersActive roster) next := step.governed
  cases step with
  | refused call => exact .refl store
  | creates => exact .of_governed ⟨rfl, rfl, rfl, rfl⟩ rfl (Nat.le_add_right _ 2) governed
  | invites | joins | leaves | removes | transfers =>
      exact .of_governed ⟨rfl, rfl, rfl, rfl⟩ rfl (Nat.le_succ _) governed
  | acceptsLate | restores | rejectsLate | rejects =>
      exact .of_governed ⟨rfl, rfl, rfl, rfl⟩ rfl (Nat.le_refl _) governed

theorem resetUnreadMessagesCount_leavesFiles (userId conversationId : Uuid) :
    LeavesFiles store (resetUnreadMessagesCount env userId conversationId store).2 := by
  refine transaction_keeps (.refl store) ?_
  intro value next done
  cases done
  exact .of_governed ⟨rfl, rfl, rfl, rfl⟩ rfl (Nat.le_refl _) fun governed =>
    governed.resetUnread conversationId userId

theorem prepareUploads_leavesContent (userId : Uuid) (files : List FileDto) :
    LeavesContent store (prepareUploads env userId files store).2 := by
  obtain ⟨rows, supply, shape, later, fresh, -⟩ :=
    createUploads_shape env userId (addHours (jsDate env.now) 24) 0 files store
  rw [prepareUploads_store, shape]
  refine ⟨⟨rfl, rfl, rfl, rfl⟩, fun before => ?_⟩
  exact
    { messages := before.messages.of_same rfl later
      files := before.files.uploaded later fresh
      governed := before.governed.of_frame rfl rfl later }

end Groups

end Messinger
