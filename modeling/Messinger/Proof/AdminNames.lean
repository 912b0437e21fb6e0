import Mathlib.Data.List.Perm.Basic
import Messinger.Model.AdminTasks

namespace Messinger
open Library UserRepository AuthService

/-- No two rows have the same name. -/
def UniqueNames (store : Store) : Prop :=
  ∀ name, (store.users.filter fun user => user.adminName == some name).length ≤ 1

/-- The names stay unique, whichever of the pending rows are saved, and in whichever order. -/
def StaysUnique (platform : Platform) (progress : Library.Progress Store AdminDraft) : Prop :=
  ∀ saves : List (Nat × Env), UniqueNames
    ((saves.map fun save => Turn.resume save.1 save.2).foldl (adminSystem platform).advance progress).state

def adminNames (store : Store) : List Text := store.users.filterMap User.adminName

/-- These are the names in the table and of the pending rows. -/
def claimedNames (progress : Library.Progress Store AdminDraft) : List Text :=
  adminNames progress.state ++ progress.pending.map AdminDraft.adminName

/-- A lookup that finds nothing runs while no row, of any role, and no pending row has the name. -/
def FindsNameFree (platform : Platform) (progress : Library.Progress Store AdminDraft) : Turn (Env × AdminCall) Env → Prop
  | .call call => call.1.succeeds 1 = true → call.2.findsExisting platform call.1.scan progress.state = false →
      call.2.adminName platform ∉ claimedNames progress
  | .resume _ _ => True

section Saves
variable {env : Env} {draft : AdminDraft} {id : Uuid} {now : Nat} {store : Store}

/-- An admin has no login key and no code, so only the database refuses its row. -/
theorem saveUser_draft (env : Env) (draft : AdminDraft) (id : Uuid) (now : Nat) (store : Store) :
    saveUser env (draft.user id now) store =
      if env.succeeds 0 then
        (.ok (draft.user id now),
          { store with users := store.users ++ [draft.user id now], nextId := store.nextId + 1 })
      else (.error .failedCall, store) := by
  have free : (store.users.any fun user =>
      ((draft.user id now).loginKeyLookup.isSome && user.loginKeyLookup == (draft.user id now).loginKeyLookup) ||
        ((draft.user id now).userCode.isSome && user.userCode == (draft.user id now).userCode)) = false := by
    rw [List.any_eq_false]
    intro user _
    exact Bool.false_ne_true
  rw [saveUser, free, Bool.not_false, Bool.and_true]

/-- A save adds the name of its row, or fails without a trace. -/
theorem adminNames_saveUser :
    adminNames (saveUser env (draft.user id now) store).2 =
      adminNames store ++ if env.succeeds 0 then [draft.adminName] else [] := by
  rw [saveUser_draft]
  by_cases committed : env.succeeds 0 = true
  · rw [if_pos committed, if_pos committed, adminNames, List.filterMap_append]
    rfl
  · rw [if_neg committed, if_neg committed, List.append_nil]

theorem uniqueNames_iff_nodup : UniqueNames store ↔ (adminNames store).Nodup := by
  rw [List.nodup_iff_count_le_one]
  refine forall_congr' fun name => ?_
  rw [adminNames, List.count_filterMap, List.countP_eq_length_filter]

end Saves

section Alone
variable {platform : Platform} {env : Env} {store : Store}

/-- Without an admin of the name, the store after the seed is the store after the save of its draft. -/
theorem adminSeed_snd
    (absent : (store.users.any fun user => user.role == .admin && user.adminName == some platform.adminName) = false) :
    (adminSeed platform env store).2 =
      (saveUser env ((AdminCall.adminSeed.draft platform env).user store.nextId env.now) store).2 := by
  rw [adminSeed, absent, if_neg Bool.false_ne_true]
  split
  · next saved => exact (congrArg Prod.snd saved).symm
  · next saved => exact (congrArg Prod.snd saved).symm

/-- A seed that runs alone does what `adminSeed` does. -/
theorem adminSeed_alone (answered : env.succeeds 1 = true) :
    [Turn.call (env, .adminSeed), .resume 0 env].foldl (adminSystem platform).advance ⟨store, []⟩ =
      ⟨(adminSeed platform env store).2, []⟩ := by
  rw [List.foldl_cons, List.foldl_cons, List.foldl_nil, Cooperative.advance_call_alone]
  change Cooperative.advance _ (waiting [] (AdminDraft.start platform store (env, .adminSeed))) _ = _
  rw [AdminDraft.start, answered, Bool.true_and, AdminCall.findsExisting]
  cases existing : store.users.any fun user => user.role == .admin && user.adminName == some platform.adminName with
  | true =>
      rw [adminSeed, existing]
      rfl
  | false =>
      rw [adminSeed_snd existing]
      rfl

theorem createAdmin_alone (dto : AdminDto) (answered : env.succeeds 1 = true) :
    [Turn.call (env, .createAdmin dto), .resume 0 env].foldl (adminSystem platform).advance ⟨store, []⟩ =
      ⟨(createAdmin platform env dto store).2, []⟩ := by
  rw [List.foldl_cons, List.foldl_cons, List.foldl_nil, Cooperative.advance_call_alone]
  change Cooperative.advance _ (waiting [] (AdminDraft.start platform store (env, .createAdmin dto))) _ = _
  rw [AdminDraft.start, answered, Bool.true_and, AdminCall.findsExisting, createAdmin]
  cases found : findByAdminName env.scan store dto.adminName with
  | some _ => rfl
  | none => rfl

end Alone

section Names
variable {platform : Platform} {progress : Library.Progress Store AdminDraft}

/-- A call that finds nothing claims its name. -/
theorem claimedNames_call (call : Env × AdminCall) :
    claimedNames ((adminSystem platform).advance progress (.call call)) =
      claimedNames progress ++
        if call.1.succeeds 1 && !call.2.findsExisting platform call.1.scan progress.state then
          [call.2.adminName platform] else [] := by
  have named : (call.2.draft platform call.1).adminName = call.2.adminName platform := by
    cases call.2 with
    | adminSeed => rfl
    | createAdmin dto => rfl
  rw [Cooperative.advance_call]
  change claimedNames (waiting progress.pending (AdminDraft.start platform progress.state call)) = _
  rw [AdminDraft.start]
  split
  · rw [waiting, claimedNames, claimedNames, Option.toList_some, List.map_append, List.append_assoc,
      List.map_singleton, named]
  · rw [waiting, claimedNames, claimedNames, Option.toList_none, List.append_nil, List.append_nil]

/-- A save keeps the claimed names up to their order, and loses at most its own. -/
theorem claimedNames_resume (position : Nat) (env : Env) :
    (claimedNames ((adminSystem platform).advance progress (.resume position env))).Subperm
      (claimedNames progress) := by
  cases present : progress.pending[position]? with
  | none =>
      rw [Cooperative.advance_resume_absent _ present]
  | some draft =>
      rw [Cooperative.advance_resume _ present]
      change (claimedNames (waiting _ (AdminDraft.resume progress.state draft env))).Subperm _
      rw [AdminDraft.resume, waiting, claimedNames, adminNames_saveUser, claimedNames, Option.toList_none,
        List.append_nil, List.append_assoc, List.subperm_append_left]
      have moved : ([draft.adminName] ++ (progress.pending.eraseIdx position).map AdminDraft.adminName).Perm
          (progress.pending.map AdminDraft.adminName) := by
        obtain ⟨inside, rfl⟩ := List.getElem?_eq_some_iff.mp present
        exact (List.getElem_cons_eraseIdx_perm inside).map AdminDraft.adminName
      split
      · exact moved.subperm
      · exact (List.sublist_append_right _ _).subperm.trans moved.subperm

theorem nodup_claimedNames_resume (position : Nat) (env : Env) (distinct : (claimedNames progress).Nodup) :
    (claimedNames ((adminSystem platform).advance progress (.resume position env))).Nodup := by
  have shrunk : (claimedNames ((adminSystem platform).advance progress (.resume position env))).Subperm
      (claimedNames progress) := claimedNames_resume position env
  obtain ⟨kept, same, inside⟩ := shrunk
  exact same.nodup_iff.mp (distinct.sublist inside)

/-- The pending rows can all be saved. -/
theorem adminNames_saveAll :
    adminNames ((List.replicate progress.pending.length (Turn.resume 0 { now := 0 })).foldl
      (adminSystem platform).advance progress).state = claimedNames progress := by
  obtain ⟨store, pending⟩ := progress
  induction pending generalizing store with
  | nil => rw [List.length_nil, List.replicate_zero, List.foldl_nil, claimedNames, List.map_nil, List.append_nil]
  | cons draft rest ih =>
      rw [List.length_cons, List.replicate_succ, List.foldl_cons]
      change adminNames (((List.replicate rest.length _).foldl (adminSystem platform).advance
        (waiting rest (AdminDraft.resume store draft { now := 0 }))).state) = _
      rw [AdminDraft.resume, waiting, Option.toList_none, List.append_nil, ih, claimedNames, adminNames_saveUser,
        claimedNames, List.map_cons, List.append_assoc]
      rfl

theorem staysUnique_iff : StaysUnique platform progress ↔ (claimedNames progress).Nodup := by
  constructor
  · intro stays
    have saved := uniqueNames_iff_nodup.mp (stays (List.replicate progress.pending.length (0, { now := 0 })))
    rw [List.map_replicate, adminNames_saveAll] at saved
    exact saved
  · intro distinct saves
    rw [uniqueNames_iff_nodup, List.foldl_map]
    have kept := run_invariant (fun progress (save : Nat × Env) =>
        (adminSystem platform).advance progress (.resume save.1 save.2))
      (fun progress => (claimedNames progress).Nodup)
      (fun _ save => nodup_claimedNames_resume save.1 save.2) saves progress distinct
    exact kept.of_append_left

/-- A call keeps the claimed names distinct exactly when it finds its name free. -/
theorem nodup_claimedNames_call (call : Env × AdminCall) :
    (claimedNames ((adminSystem platform).advance progress (.call call))).Nodup ↔
      (claimedNames progress).Nodup ∧ FindsNameFree platform progress (.call call) := by
  rw [claimedNames_call, FindsNameFree]
  cases call.1.succeeds 1 with
  | false => simp
  | true =>
      cases call.2.findsExisting platform call.1.scan progress.state with
      | true => simp
      | false =>
          rw [Bool.not_false, Bool.and_true, if_pos rfl, List.nodup_append_comm, List.singleton_append, List.nodup_cons,
            and_comm]
          simp

end Names

/-- In a run from the empty users table the names are and stay unique exactly when every lookup that finds nothing
runs while no row and no pending row has the name. -/
theorem admin_names_unique_iff (platform : Platform) (store : Store) (turns : List (Turn (Env × AdminCall) Env)) :
    (∀ position, StaysUnique platform
        (stateAt (adminSystem platform).advance ⟨{ store with users := [] }, []⟩ turns position)) ↔
      Meets (adminSystem platform).advance (FindsNameFree platform) ⟨{ store with users := [] }, []⟩ turns := by
  refine always_iff_meets _ (fun progress => (claimedNames progress).Nodup) (StaysUnique platform) List.nodup_nil
    (fun progress => staysUnique_iff.mpr) ?_ ?_
  · intro progress turn distinct met
    cases turn with
    | call call => exact (nodup_claimedNames_call call).mpr ⟨distinct, met⟩
    | resume position env => exact nodup_claimedNames_resume position env distinct
  · intro progress turn distinct stays
    cases turn with
    | call call => exact ((nodup_claimedNames_call call).mp (staysUnique_iff.mp stays)).2
    | resume position env => exact trivial

/-- The second seed finds no ADMIN of the name, and saves a second SUPER_ADMIN. -/
theorem seeded_twice :
    ¬ ∀ position, UniqueNames (stateAt (adminSystem plainPlatform).advance ⟨{ users := [] }, []⟩
      [.call ({ now := 0 }, .adminSeed), .resume 0 { now := 0 }, .call ({ now := 1 }, .adminSeed),
        .resume 0 { now := 1 }] position).state := by
  intro unique
  have rows := unique 4 plainPlatform.adminName
  revert rows
  decide

end Messinger
