import Messinger.Model.Exchanges
import Messinger.Proof.GroupCalls
import Messinger.Proof.PrivateCalls
import Messinger.Proof.UploadCalls

namespace Messinger
open Library SessionRepository UserRepository ConversationService

/-- These are the columns that a rotation writes, without the current hash. -/
def Session.rotation (session : Session) : Option Text × Option Nat × Option Text × Option Text :=
  (session.previousRefreshTokenHash, session.rotatedAt, session.rotatedRefreshToken,
    session.rotatedAccessToken)

/-- The identifiers of sessions are distinct and spent. -/
structure SessionsIdentified (store : Store) : Prop where
  distinct : (store.sessions.map Session.id).Nodup
  known : ∀ session ∈ store.sessions, session.id < store.nextId

/-- An update that keeps the identifiers keeps them distinct and spent. -/
theorem SessionsIdentified.updateWhere {store : Store} (before : SessionsIdentified store)
    (matching : Session → Bool) (change : Session → Session)
    (keeps : ∀ session, (change session).id = session.id) :
    SessionsIdentified { store with sessions := updateWhere matching change store.sessions } := by
  constructor
  · rw [map_updateWhere Session.id matching change keeps]
    exact before.distinct
  · intro session inside
    obtain ⟨old, present, equal⟩ := mem_updateWhere.mp inside
    have known := before.known old present
    split at equal
    · rw [equal, keeps]
      exact known
    · rw [equal]
      exact known

/-- These are the tokens that a new session is created with. -/
def openedTokens (platform : Platform) (env : Env) (params : CreateSessionParams) (store : Store) : Tokens :=
  signTokens platform env.now { sub := params.userId, roles := params.roles, sid := store.nextId }

/-- This is the row that a new session gets. -/
def openedSession (platform : Platform) (env : Env) (params : CreateSessionParams) (store : Store) : Session :=
  { id := store.nextId, userId := params.userId
    refreshTokenHash := platform.sha256 (openedTokens platform env params store).refreshToken
    expiresAt := jsDate env.now + parseExpiry platform.jwtRefreshExpiresIn * 1000000
    userAgent := params.userAgent, ipAddress := params.ipAddress }

theorem createSession_cases (platform : Platform) (env : Env) (params : CreateSessionParams) (store : Store) :
    createSession platform env params store = (.error .failedCall, store) ∨
      createSession platform env params store =
        (.ok (openedTokens platform env params store),
          { store with
            sessions := store.sessions ++ [openedSession platform env params store]
            nextId := store.nextId + 1 }) := by
  unfold createSession
  simp only
  split
  · exact .inr rfl
  · exact .inl rfl

/-- No user is added or changes its role, and no session is rotated. -/
structure Undisturbed (store next : Store) : Prop where
  users : ∀ user ∈ next.users, ∃ old ∈ store.users, old.id = user.id ∧ old.role = user.role
  sessions : ∀ session ∈ next.sessions, session.rotatedAt = none ∨
    ∃ old ∈ store.sessions, old.rotation = session.rotation
  identified : SessionsIdentified store → SessionsIdentified next
  supply : store.nextId ≤ next.nextId

namespace Undisturbed
variable {store next : Store}

theorem of_tables (users : next.users = store.users) (sessions : next.sessions = store.sessions)
    (supply : store.nextId ≤ next.nextId) : Undisturbed store next where
  users user inside := ⟨user, users ▸ inside, rfl, rfl⟩
  sessions session inside := .inr ⟨session, sessions ▸ inside, rfl⟩
  identified before := by
    constructor
    · rw [sessions]
      exact before.distinct
    · intro session inside
      rw [sessions] at inside
      exact Nat.lt_of_lt_of_le (before.known session inside) supply
  supply := supply

theorem refl (store : Store) : Undisturbed store store := of_tables rfl rfl (Nat.le_refl _)

theorem trans {last : Store} (first : Undisturbed store next) (second : Undisturbed next last) :
    Undisturbed store last where
  users user inside := by
    obtain ⟨middle, between, id, role⟩ := second.users user inside
    obtain ⟨old, before, oldId, oldRole⟩ := first.users middle between
    exact ⟨old, before, oldId.trans id, oldRole.trans role⟩
  sessions session inside := by
    obtain fresh | ⟨middle, between, same⟩ := second.sessions session inside
    · exact .inl fresh
    · obtain fresh | ⟨old, before, equal⟩ := first.sessions middle between
      · exact .inl ((congrArg (·.2.1) same).symm.trans fresh)
      · exact .inr ⟨old, before, equal.trans same⟩
  identified before := second.identified (first.identified before)
  supply := Nat.le_trans first.supply second.supply

theorem updateUser (userId : Uuid) (change : User → User)
    (keeps : ∀ user, (change user).id = user.id ∧ (change user).role = user.role) (store : Store) :
    Undisturbed store (updateUser userId change store) where
  users user inside := by
    obtain ⟨old, before, equal⟩ := mem_updateWhere.mp inside
    refine ⟨old, before, ?_⟩
    split at equal
    · rw [equal]
      exact ⟨(keeps old).1.symm, (keeps old).2.symm⟩
    · rw [equal]
      exact ⟨rfl, rfl⟩
  sessions session inside := .inr ⟨session, inside, rfl⟩
  identified before := ⟨before.distinct, before.known⟩
  supply := Nat.le_refl _

theorem updateSessions (matching : Session → Bool) (change : Session → Session)
    (keeps : ∀ session, (change session).id = session.id ∧ (change session).rotation = session.rotation)
    (store : Store) :
    Undisturbed store { store with sessions := updateWhere matching change store.sessions } where
  users user inside := ⟨user, inside, rfl, rfl⟩
  sessions session inside := by
    obtain ⟨old, before, equal⟩ := mem_updateWhere.mp inside
    refine .inr ⟨old, before, ?_⟩
    split at equal
    · rw [equal]
      exact (keeps old).2.symm
    · rw [equal]
  identified before := before.updateWhere matching change fun session => (keeps session).1
  supply := Nat.le_refl _

theorem deleteUsers (doomed : User → Bool) (store : Store) :
    Undisturbed store (store.deleteUsers doomed) where
  users user inside := ⟨user, (List.mem_filter.mp inside).1, rfl, rfl⟩
  sessions session inside := .inr ⟨session, (List.mem_filter.mp inside).1, rfl⟩
  identified before :=
    ⟨before.distinct.sublist (List.filter_sublist.map Session.id),
      fun session inside => before.known session (List.mem_filter.mp inside).1⟩
  supply := Nat.le_refl _

theorem createSession (platform : Platform) (env : Env) (params : CreateSessionParams) (store : Store) :
    Undisturbed store (createSession platform env params store).2 := by
  rcases createSession_cases platform env params store with failed | created
  · rw [failed]
    exact refl store
  · rw [created]
    constructor
    · intro user inside
      exact ⟨user, inside, rfl, rfl⟩
    · intro session inside
      obtain old | new := List.mem_append.mp inside
      · exact .inr ⟨session, old, rfl⟩
      · rw [List.mem_singleton.mp new]
        exact .inl rfl
    · intro before
      constructor
      · rw [List.map_append, List.nodup_append]
        refine ⟨before.distinct, List.nodup_singleton _, ?_⟩
        intro id inside other new same
        obtain ⟨session, present, equal⟩ := List.mem_map.mp inside
        have known := before.known session present
        rw [equal, same, List.mem_singleton.mp new] at known
        exact Nat.lt_irrefl _ known
      · intro session inside
        obtain old | new := List.mem_append.mp inside
        · exact Nat.lt_succ_of_lt (before.known session old)
        · rw [List.mem_singleton.mp new]
          exact Nat.lt_succ_self _
    · exact Nat.le_succ _

end Undisturbed

end Messinger
