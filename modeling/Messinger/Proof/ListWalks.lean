import Messinger.Library.Keyset
import Messinger.Model.AdminService
import Messinger.Model.ConversationCalls

namespace Messinger
open Library

/-- The client asks again with the id of the last row of the page while more rows are reported. -/
def nextId {Row : Type} (key : Row → Uuid) (answer : Page Row) : Option Uuid := answer.nextCursor.map key

/-- The walk ends after it has shown each of the rows once, in the order of the list. -/
def VisitsAll {Row : Type} (ask : Option Uuid → Page Row) (key : Row → Uuid) (order : Row → Row → Prop)
    (rows : List Row) : Prop :=
  ∃ count, (∃ answer ∈ walk ask (nextId key) count none, nextId key answer = none) ∧
    ((walk ask (nextId key) count none).flatMap Page.page).Perm rows ∧
    ((walk ask (nextId key) count none).flatMap Page.page).Pairwise order

section Lists
variable {Row : Type} (order : Row → Row → Prop) [DecidableRel order] (chosen : Row → Bool)
  (follows : Row → Row → Bool) (key : Row → Uuid) (table : List Row) (limit : Nat)

/-- The query takes the first chosen rows behind the one that the cursor names, and one row more. -/
def listRows (cursor : Option Uuid) : List Row :=
  ((table.filter fun row => chosen row &&
    (cursor.bind fun id => lookup key id table).all fun last => follows last row).insertionSort order).take
      (limit + 1)

variable {order chosen follows key table limit}

/-- The cursor names a row of the table. -/
def Names (key : Row → Uuid) (table : List Row) (cursor : Option Uuid) (anchor : Option Row) : Prop :=
  cursor = anchor.map key ∧ ∀ last ∈ anchor, last ∈ table

theorem listRows_eq (total : ∀ first second, order first second ∨ order second first)
    (transitive : ∀ first second third, order first second → order second third → order first third)
    (ids : (table.map key).Nodup) {cursor : Option Uuid} {anchor : Option Row}
    (names : Names key table cursor anchor) :
    listRows order chosen follows key table limit cursor =
      (beyond follows ((table.filter chosen).insertionSort order) anchor).take (limit + 1) := by
  obtain ⟨rfl, stored⟩ := names
  unfold listRows
  cases anchor with
  | none =>
      simp only [Option.map_none, Option.bind_none, Option.all_none, Bool.and_true]
      rfl
  | some last =>
      have found := lookup_of_mem key ids (stored last rfl)
      simp only [Option.map_some, Option.bind_some, found, Option.all_some]
      rw [beyond, ← filter_insertionSort order _ total transitive, List.filter_filter]
      simp only [Bool.and_comm]

theorem page_paginate (rows : List Row) : (paginate (rows.take (limit + 1)) limit).page = rows.take limit := by
  change (rows.take (limit + 1)).take limit = _
  rw [List.take_take, Nat.min_eq_left (Nat.le_succ limit)]

theorem nextCursor_paginate (positive : 0 < limit) (rows : List Row) :
    (paginate (rows.take (limit + 1)) limit).nextCursor =
      if limit < rows.length then rows[limit - 1]? else none := by
  unfold paginate
  simp only [List.length_take, List.take_take, Nat.min_eq_left (Nat.le_succ limit)]
  by_cases long : limit < rows.length
  · have cut : limit < min (limit + 1) rows.length := by omega
    rw [if_pos cut, if_pos long, List.getLast?_eq_getElem?, List.length_take,
      Nat.min_eq_left (Nat.le_of_lt long), List.getElem?_take_of_lt (by omega)]
  · have short : ¬ limit < min (limit + 1) rows.length := by omega
    rw [if_neg short, if_neg long]

variable {ask : Option Uuid → Page Row}

theorem paginates_list (total : ∀ first second, order first second ∨ order second first)
    (transitive : ∀ first second third, order first second → order second third → order first third)
    (ids : (table.map key).Nodup) (positive : 0 < limit)
    (asks : ∀ cursor, ask cursor = paginate (listRows order chosen follows key table limit cursor) limit) :
    Paginates ask (nextId key) Page.page id follows limit ((table.filter chosen).insertionSort order) Eq
      (Names key table) where
  starts := ⟨rfl, fun _ none => by cases none⟩
  shows := by
    intro cursor anchor names
    rw [asks, listRows_eq total transitive ids names, page_paginate, List.map_id]
  goes := by
    intro cursor anchor names
    rw [nextId, asks, listRows_eq total transitive ids names, nextCursor_paginate positive]
    by_cases long : limit < (beyond follows ((table.filter chosen).insertionSort order) anchor).length
    · refine .inr ?_
      have ends := List.getElem?_eq_getElem (Nat.lt_of_le_of_lt (Nat.sub_le limit 1) long)
      refine ⟨_, _, ?_, ends, rfl, ?_⟩
      · rw [if_pos long, ends, Option.map_some]
      · intro last same
        have inside := List.mem_of_getElem? (ends.trans same)
        have sorted : last ∈ (table.filter chosen).insertionSort order := by
          cases anchor with
          | none => exact inside
          | some previous => exact List.mem_of_mem_filter inside
        exact List.mem_of_mem_filter ((List.mem_insertionSort order).mp sorted)
    · refine .inl ⟨?_, Nat.le_of_not_lt long⟩
      rw [if_neg long, Option.map_none]

/-- The walk over a list visits all rows exactly when each page boundary lets the next row through. -/
theorem visitsAll_iff (total : ∀ first second, order first second ∨ order second first)
    (transitive : ∀ first second third, order first second → order second third → order first third)
    (ids : (table.map key).Nodup) (positive : 0 < limit)
    (onward : Onward follows ((table.filter chosen).insertionSort order))
    (asks : ∀ cursor, ask cursor = paginate (listRows order chosen follows key table limit cursor) limit) :
    VisitsAll ask key order (table.filter chosen) ↔
      Joined follows limit ((table.filter chosen).insertionSort order) := by
  have paginates := paginates_list total transitive ids positive asks
  have sorted := List.perm_insertionSort order (table.filter chosen)
  have : Std.Total order := ⟨total⟩
  have : IsTrans Row order := ⟨transitive⟩
  constructor
  · rintro ⟨count, ends, all, -⟩
    have loose : Paginates ask (nextId key) Page.page id follows limit
        ((table.filter chosen).insertionSort order) List.Perm (Names key table) :=
      { starts := paginates.starts
        shows := fun cursor anchor names => .of_eq (paginates.shows cursor anchor names)
        goes := paginates.goes }
    refine (loose.shows_all_iff (comparison_perm Row) positive onward).mp ⟨count, ends, ?_⟩
    rw [List.map_id]
    exact all.trans sorted.symm
  · intro joined
    obtain ⟨count, ends, all⟩ :=
      (paginates.shows_all_iff (comparison_eq Row) positive onward).mpr joined
    rw [List.map_id] at all
    refine ⟨count, ends, ?_, ?_⟩
    · rw [all]
      exact sorted
    · rw [all]
      exact List.pairwise_insertionSort order _

end Lists

section Users

/-- This is one call of `getAllUsers` together with `paginate`. -/
def requestUsers (store : Store) (role : UserRole) (limit : Nat) (cursor : Option Uuid) : Page User :=
  paginate (UserRepository.getAllUsers store role { cursor, limit }) limit

abbrev NewestUsers (first second : User) : Prop := second.createdAt ≤ first.createdAt

/-- The user was created before the millisecond of the last one began. -/
def createdBefore (last user : User) : Bool := decide (user.createdAt < jsDate last.createdAt)

def usersOf (store : Store) (role : UserRole) : List User := store.users.filter fun user => user.role == role

theorem newest_total (first second : User) : NewestUsers first second ∨ NewestUsers second first :=
  Nat.le_total second.createdAt first.createdAt

theorem newest_transitive (first second third : User) (one : NewestUsers first second)
    (two : NewestUsers second third) : NewestUsers first third := Nat.le_trans two one

theorem onward_users (store : Store) (role : UserRole) :
    Onward createdBefore ((usersOf store role).insertionSort NewestUsers) := by
  have : Std.Total NewestUsers := ⟨newest_total⟩
  have : IsTrans User NewestUsers := ⟨newest_transitive⟩
  have sorted := List.pairwise_insertionSort NewestUsers (usersOf store role)
  exact .of_keys User.createdAt (fun user => jsDate user.createdAt) (fun user => jsDate_le user.createdAt) sorted

/-- The walk over the users visits all of them exactly when each page ends in a later millisecond than the
one in which the next user was created. -/
theorem users_visited_iff {store : Store} {role : UserRole} {limit : Nat} (positive : 0 < limit)
    (ids : (store.users.map User.id).Nodup) :
    VisitsAll (requestUsers store role limit) User.id NewestUsers (usersOf store role) ↔
      Joined createdBefore limit ((usersOf store role).insertionSort NewestUsers) :=
  visitsAll_iff newest_total newest_transitive ids positive (onward_users store role) fun _ => rfl

end Users

/-- Three users register in two different milliseconds. -/
def threeUsers : Store :=
  emptyStore [{ id := 1, role := .user, createdAt := 1000 }, { id := 2, role := .user, createdAt := 5200 },
    { id := 3, role := .user, createdAt := 5900 }] [] [] 10

theorem threeUsers_visited :
    VisitsAll (requestUsers threeUsers .user 2) User.id NewestUsers (usersOf threeUsers .user) :=
  (users_visited_iff (by decide) (by decide)).mpr (by decide)

/-- Two users carry the same time. -/
def tiedUsers : Store :=
  emptyStore [{ id := 1, role := .user, createdAt := 1000 }, { id := 2, role := .user, createdAt := 1000 }] []
    [] 10

/-- With one user per page the second of the two is never shown. -/
theorem tied_user_missed :
    ¬ VisitsAll (requestUsers tiedUsers .user 1) User.id NewestUsers (usersOf tiedUsers .user) := by
  intro visits
  have joined := (visitsAll_iff newest_total newest_transitive (by decide) Nat.one_pos
    (onward_users tiedUsers .user) fun _ => rfl).mp visits
  exact absurd (joined 0 _ _ rfl rfl) (by decide)

section Conversations

/-- This is one call of `getConversationList` together with `paginate`. -/
def requestConversations (store : Store) (userId : Uuid) (limit : Nat) (cursor : Option Uuid) :
    Page Conversation :=
  paginate (ConversationRepository.getConversationList store userId { cursor, limit }) limit

/-- The conversations come in descending order of their update and id. -/
abbrev LatestConversations (first second : Conversation) : Prop :=
  second.updatedAt < first.updatedAt ∨ (first.updatedAt = second.updatedAt ∧ second.id ≤ first.id)

/-- The conversation stands behind the last one, whose update is cut to its millisecond. -/
def updatedBefore (last conversation : Conversation) : Bool :=
  decide (conversation.updatedAt < jsDate last.updatedAt) ||
    (conversation.updatedAt == jsDate last.updatedAt && decide (conversation.id < last.id))

/-- These are the conversations in which the user is an active member. -/
def conversationsWith (store : Store) (userId : Uuid) : List Conversation :=
  store.conversations.filter fun conversation => ConversationMemberRepository.existsMember store conversation.id userId

theorem latest_total (first second : Conversation) :
    LatestConversations first second ∨ LatestConversations second first := by
  rcases Nat.lt_trichotomy first.updatedAt second.updatedAt with earlier | same | later
  · exact .inr (.inl earlier)
  · rcases Nat.le_total second.id first.id with smaller | larger
    · exact .inl (.inr ⟨same, smaller⟩)
    · exact .inr (.inr ⟨same.symm, larger⟩)
  · exact .inl (.inl later)

theorem latest_transitive (first second third : Conversation) (one : LatestConversations first second)
    (two : LatestConversations second third) : LatestConversations first third := by
  rcases one with earlier | ⟨same, smaller⟩ <;> rcases two with before | ⟨tie, less⟩
  · exact .inl (Nat.lt_trans before earlier)
  · exact .inl (tie ▸ earlier)
  · exact .inl (same ▸ before)
  · exact .inr ⟨same.trans tie, Nat.le_trans less smaller⟩

theorem updatedBefore_iff (last conversation : Conversation) :
    updatedBefore last conversation = true ↔ conversation.updatedAt < jsDate last.updatedAt ∨
      (conversation.updatedAt = jsDate last.updatedAt ∧ conversation.id < last.id) := by
  unfold updatedBefore
  rw [Bool.or_eq_true, Bool.and_eq_true, decide_eq_true_eq, beq_iff_eq, decide_eq_true_eq]

theorem onward_conversations (store : Store) (userId : Uuid) :
    Onward updatedBefore ((conversationsWith store userId).insertionSort LatestConversations) where
  irreflexive := by
    intro conversation
    rw [Bool.eq_false_iff, Ne, updatedBefore_iff]
    rintro (before | ⟨-, smaller⟩)
    · exact Nat.not_lt_of_le (jsDate_le conversation.updatedAt) before
    · exact Nat.lt_irrefl conversation.id smaller
  transitive := by
    intro first second third one two
    rw [updatedBefore_iff] at one two ⊢
    have least := jsDate_le second.updatedAt
    rcases one with before | ⟨same, smaller⟩ <;> rcases two with earlier | ⟨tie, less⟩
    · exact .inl (by omega)
    · exact .inl (by omega)
    · exact .inl (by omega)
    · rcases Nat.lt_or_ge third.updatedAt (jsDate first.updatedAt) with below | above
      · exact .inl below
      · exact .inr ⟨by omega, Nat.lt_trans less smaller⟩
  onward := by
    have : Std.Total LatestConversations := ⟨latest_total⟩
    have : IsTrans Conversation LatestConversations := ⟨latest_transitive⟩
    refine (List.pairwise_insertionSort LatestConversations _).imp ?_
    intro first second later last before
    rw [updatedBefore_iff] at before ⊢
    rcases later with earlier | ⟨same, smaller⟩ <;> rcases before with below | ⟨tie, less⟩
    · exact .inl (Nat.lt_trans earlier below)
    · exact .inl (tie ▸ earlier)
    · exact .inl (same ▸ below)
    · exact .inr ⟨same.symm.trans tie, Nat.lt_of_le_of_lt smaller less⟩

/-- The walk over the conversations visits all of them exactly when each page boundary lets the next one
through. -/
theorem conversations_visited_iff {store : Store} {userId : Uuid} {limit : Nat} (positive : 0 < limit)
    (ids : (store.conversations.map Conversation.id).Nodup) :
    VisitsAll (requestConversations store userId limit) Conversation.id LatestConversations
        (conversationsWith store userId) ↔
      Joined updatedBefore limit
        ((conversationsWith store userId).insertionSort LatestConversations) :=
  visitsAll_iff latest_total latest_transitive ids positive (onward_conversations store userId)
    fun _ => rfl

end Conversations

/-- User 1 creates the groups 10, 11 and 12 at the given times. -/
def groupsAt (times : List Nat) : Store :=
  times.foldl (fun store now => (ConversationService.createGroup { now } 1 { name := "group" } store).2)
    (emptyStore [{ id := 1, role := .user, createdAt := 0 }] [] [] 10)

/-- Three groups of different milliseconds are shown one by one. -/
theorem spacedGroups_visited :
    VisitsAll (requestConversations (groupsAt [1000200, 2000700, 5000000]) 1 1) Conversation.id LatestConversations
      (conversationsWith (groupsAt [1000200, 2000700, 5000000]) 1) :=
  (conversations_visited_iff (by decide) (by decide)).mpr (by decide)

/-- The first two groups are created within one millisecond. -/
def threeGroups : Store := groupsAt [1000200, 1000700, 5000000]

/-- With one group per page the older group of the one millisecond is never shown. -/
theorem near_group_missed :
    ¬ VisitsAll (requestConversations threeGroups 1 1) Conversation.id LatestConversations
      (conversationsWith threeGroups 1) := by
  intro visits
  have joined := (visitsAll_iff latest_total latest_transitive (by decide) Nat.one_pos
    (onward_conversations threeGroups 1) fun _ => rfl).mp visits
  exact absurd (joined 1 _ _ rfl rfl) (by decide)

end Messinger
