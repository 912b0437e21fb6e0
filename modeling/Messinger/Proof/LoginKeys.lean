import Messinger.Library.History
import Messinger.Proof.KeyTexts
import Messinger.Proof.SessionTokens
import Messinger.Proof.SignIns

namespace Messinger
open Library SessionRepository UserRepository AuthService

/-- Different keys have different lookups, and a comparison accepts exactly the key that was hashed. -/
structure Platform.ChecksKeys (platform : Platform) : Prop where
  lookups : ∀ secret, Function.Injective (platform.hmacSha256 secret)
  compares : ∀ key salt other, platform.bcryptCompare other (platform.bcryptHash key salt) = true ↔ other = key

/-- A successful call answers the key. -/
def IssuesKey (platform : Platform) (store : Store) (action : Env × KeyCall) (userId : Uuid) (key : Text) : Prop :=
  match action.2 with
  | .signup dto => ∃ user, (signup platform action.1 dto store).1 = .ok (user, key) ∧ user.id = userId
  | .restoreUserLoginKey dto => dto.userId = userId ∧
      (AdminService.restoreUserLoginKey platform action.1 dto store).1 = .ok key

/-- The calls before the position have issued this key to the user last. -/
def LastIssued (platform : Platform) (start : Store) (actions : List (Env × KeyCall)) (position : Nat)
    (userId : Uuid) (key : Text) : Prop :=
  Latest (runKeyCall platform) (IssuesKey platform) start actions position userId key

/-- The reply has the row of the user, and cookies with tokens that are signed for the user. -/
def Reply.Authenticates (platform : Platform) (reply : Reply) (userId : Uuid) : Prop :=
  reply.status = 201 ∧ (∃ user, reply.body = .user user ∧ user.id = userId) ∧
    ∃ now payload, reply.cookies = .tokens (signTokens platform now payload) ∧ payload.sub = userId

/-- The row has the lookup and the hash of the key. -/
def User.HasKey (platform : Platform) (user : User) (key : Text) : Prop :=
  ∃ salt, user.loginKeyLookup = some (generateLoginKeyLookup platform key) ∧
    user.loginKeyHash = some (platform.bcryptHash key salt)

/-- A restoration writes these columns. -/
def User.withKey (platform : Platform) (key : Text) (salt : Nat) (user : User) : User :=
  { user with
    loginKeyHash := some (platform.bcryptHash key salt)
    loginKeyLookup := some (generateLoginKeyLookup platform key) }

/-- No session has the hash of a token that is signed for a session to come. -/
def HashesFree (platform : Platform) (store : Store) : Prop :=
  ∀ session ∈ store.sessions, ∀ now payload, store.nextId ≤ payload.sid →
    session.refreshTokenHash ≠ platform.sha256 (signTokens platform now payload).refreshToken

/-- The users are identified and have no login keys yet. -/
structure Keyless (platform : Platform) (store : Store) : Prop where
  distinct : (store.users.map User.id).Nodup
  spent : ∀ user ∈ store.users, user.id < store.nextId
  keyless : ∀ user ∈ store.users, user.loginKeyLookup = none
  free : HashesFree platform store

/-- Each row has the columns of the latest key of its user, and two rows have different lookups. -/
structure KeysKept (platform : Platform) (latest : Uuid → Text → Prop) (store : Store) : Prop where
  distinct : (store.users.map User.id).Nodup
  spent : ∀ user ∈ store.users, user.id < store.nextId
  apart : ∀ user ∈ store.users, ∀ other ∈ store.users, user.loginKeyLookup ≠ none →
    user.loginKeyLookup = other.loginKeyLookup → user.id = other.id
  keyed : ∀ user ∈ store.users, (user.loginKeyLookup = none ∧ ∀ key, ¬ latest user.id key) ∨
    ∃ key, latest user.id key ∧ IsLoginKey key ∧ user.HasKey platform key
  free : HashesFree platform store

/-- The write gives the user the columns of the key, which no other row has. -/
structure SetsKey (platform : Platform) (userId : Uuid) (key : Text) (store next : Store) : Prop where
  isKey : IsLoginKey key
  distinct : (next.users.map User.id).Nodup
  spent : ∀ user ∈ next.users, user.id < next.nextId
  rows : ∀ user ∈ next.users, user ∈ store.users ∧ user.id ≠ userId ∨
    user.id = userId ∧ user.HasKey platform key ∧
      ∀ other ∈ store.users, other.id ≠ userId → other.loginKeyLookup ≠ user.loginKeyLookup
  sessions : next.sessions = store.sessions
  later : store.nextId ≤ next.nextId

section Calls
variable {platform : Platform} {store next : Store} {latest known : Uuid → Text → Prop}

theorem KeysKept.sets (kept : KeysKept platform latest store) {userId : Uuid} {key : Text}
    (sets : SetsKey platform userId key store next) (given : known userId key)
    (others : ∀ other, other ≠ userId → ∀ value, known other value ↔ latest other value) :
    KeysKept platform known next where
  distinct := sets.distinct
  spent := sets.spent
  apart user inside other present some same := by
    rcases sets.rows user inside with ⟨old, apart⟩ | ⟨id, -, fresh⟩
    · rcases sets.rows other present with ⟨former, -⟩ | ⟨-, -, fresh⟩
      · exact kept.apart user old other former some same
      · exact absurd same (fresh user old apart)
    · rcases sets.rows other present with ⟨former, apart⟩ | ⟨otherId, -⟩
      · exact absurd same.symm (fresh other former apart)
      · exact id.trans otherId.symm
  keyed user inside := by
    rcases sets.rows user inside with ⟨old, apart⟩ | ⟨id, has, -⟩
    · simp only [others user.id apart]
      exact kept.keyed user old
    · rw [id]
      exact .inr ⟨key, given, sets.isKey, has⟩
  free session inside now payload coming :=
    kept.free session (sets.sessions ▸ inside) now payload (Nat.le_trans sets.later coming)

theorem KeysKept.same (kept : KeysKept platform latest store)
    (others : ∀ other value, known other value ↔ latest other value) : KeysKept platform known store where
  distinct := kept.distinct
  spent := kept.spent
  apart := kept.apart
  keyed user inside := by
    simp only [others]
    exact kept.keyed user inside
  free := kept.free

/-- A sign-up fails without a trace, or it adds a row with a key whose lookup no row has. -/
theorem signup_cases (platform : Platform) (env : Env) (dto : SignUpDto) (store : Store) :
    (∃ exception, signup platform env dto store = (.error exception, store)) ∨
      ∃ user key, signup platform env dto store = (.ok (user, key), store.addUser user) ∧
        user.id = store.nextId ∧ IsLoginKey key ∧ user.HasKey platform key ∧
        ∀ other ∈ store.users, other.loginKeyLookup ≠ user.loginKeyLookup := by
  unfold signup saveUser
  simp only
  split
  · next failed =>
      split at failed
      · cases failed
      · cases failed
        exact .inl ⟨_, rfl⟩
  · next saved =>
      split at saved
      · next accepted =>
          cases saved
          refine .inr ⟨_, _, rfl, rfl, generateRandomString_isLoginKey _, ⟨_, rfl, rfl⟩, ?_⟩
          intro other inside same
          have free := (Bool.and_eq_true_iff.mp accepted).2
          rw [Bool.not_eq_true', List.any_eq_false] at free
          apply free other inside
          rw [same]
          simp
      · cases saved

/-- A restoration fails without a trace, or it updates the row of the user with a key that no other row has. -/
theorem restoreUserLoginKey_cases (platform : Platform) (env : Env) (dto : UserDto) (store : Store) :
    (∃ exception, AdminService.restoreUserLoginKey platform env dto store = (.error exception, store)) ∨
      ∃ key salt, IsLoginKey key ∧
        AdminService.restoreUserLoginKey platform env dto store =
          (.ok key, updateUser dto.userId (User.withKey platform key salt) store) ∧
        (store.hasUser dto.userId = true → ∀ other ∈ store.users, other.id ≠ dto.userId →
          other.loginKeyLookup ≠ some (generateLoginKeyLookup platform key)) := by
  unfold AdminService.restoreUserLoginKey
  simp only
  split
  · next accepted =>
      refine .inr ⟨_, _, generateRandomString_isLoginKey env.draw, rfl, ?_⟩
      intro present other inside apart same
      have free := (Bool.and_eq_true_iff.mp accepted).2
      rw [Bool.not_eq_true', present, Bool.true_and, List.any_eq_false] at free
      apply free other inside
      rw [same, beq_self_eq_true, Bool.and_true]
      exact bne_iff_ne.mpr apart
  · exact .inl ⟨_, rfl⟩

theorem setsKey_addUser (kept : KeysKept platform latest store) {user : User} {key : Text}
    (id : user.id = store.nextId) (isKey : IsLoginKey key) (has : user.HasKey platform key)
    (free : ∀ other ∈ store.users, other.loginKeyLookup ≠ user.loginKeyLookup) :
    SetsKey platform user.id key store (store.addUser user) where
  isKey := isKey
  distinct := by
    change ((store.users ++ [user]).map User.id).Nodup
    rw [List.map_append, List.nodup_append]
    refine ⟨kept.distinct, List.nodup_singleton _, ?_⟩
    intro left inside right new same
    obtain ⟨old, present, rfl⟩ := List.mem_map.mp inside
    rw [List.map_singleton, List.mem_singleton] at new
    have bound := kept.spent old present
    rw [same, new, id] at bound
    exact Nat.lt_irrefl _ bound
  spent other inside := by
    rcases List.mem_append.mp inside with old | new
    · exact Nat.lt_succ_of_lt (kept.spent other old)
    · rw [List.mem_singleton.mp new, id]
      exact Nat.lt_succ_self store.nextId
  rows other inside := by
    rcases List.mem_append.mp inside with old | new
    · have bound := kept.spent other old
      rw [← id] at bound
      exact .inl ⟨old, Nat.ne_of_lt bound⟩
    · rw [List.mem_singleton.mp new]
      exact .inr ⟨rfl, has, fun other present _ => free other present⟩
  sessions := rfl
  later := Nat.le_succ store.nextId

theorem setsKey_updateUser (kept : KeysKept platform latest store) {userId : Uuid} {key : Text} {salt : Nat}
    (isKey : IsLoginKey key)
    (free : store.hasUser userId = true → ∀ other ∈ store.users, other.id ≠ userId →
      other.loginKeyLookup ≠ some (generateLoginKeyLookup platform key)) :
    SetsKey platform userId key store (updateUser userId (User.withKey platform key salt) store) where
  isKey := isKey
  distinct := by
    change ((updateWhere _ _ store.users).map User.id).Nodup
    rw [map_updateWhere User.id _ (User.withKey platform key salt) fun _ => rfl]
    exact kept.distinct
  spent user inside := by
    obtain ⟨old, present, same⟩ := mem_updateWhere.mp inside
    have bound := kept.spent old present
    split at same
    · rw [same]
      exact bound
    · rw [same]
      exact bound
  rows user inside := by
    obtain ⟨old, present, same⟩ := mem_updateWhere.mp inside
    split at same
    · next selected =>
        have id : old.id = userId := beq_iff_eq.mp selected
        have there : store.hasUser userId = true :=
          List.any_eq_true.mpr ⟨old, present, selected⟩
        rw [same]
        exact .inr ⟨id, ⟨salt, rfl, rfl⟩, free there⟩
    · next apart =>
        rw [same]
        exact .inl ⟨present, fun id => apart (beq_iff_eq.mpr id)⟩
  sessions := rfl
  later := Nat.le_refl store.nextId

/-- Each call keeps the columns of the latest keys. -/
theorem KeysKept.run (kept : KeysKept platform latest store) (action : Env × KeyCall)
    (given : ∀ userId key, IssuesKey platform store action userId key → known userId key)
    (others : ∀ userId, (∀ key, ¬ IssuesKey platform store action userId key) →
      ∀ key, known userId key ↔ latest userId key) : KeysKept platform known (runKeyCall platform store action) := by
  obtain ⟨env, call⟩ := action
  cases call with
  | signup dto =>
      unfold runKeyCall
      unfold IssuesKey at given others
      simp only at given others ⊢
      obtain ⟨exception, failed⟩ | ⟨user, key, done, id, isKey, has, free⟩ := signup_cases platform env dto store
      · rw [failed] at others ⊢
        refine kept.same fun userId => others userId ?_
        rintro key ⟨user, issued, -⟩
        cases issued
      · rw [done] at given others ⊢
        apply kept.sets (setsKey_addUser kept id isKey has free) (given user.id key ⟨user, rfl, rfl⟩)
        intro other apart
        apply others
        rintro value ⟨saved, issued, rfl⟩
        cases issued
        exact apart rfl
  | restoreUserLoginKey dto =>
      unfold runKeyCall
      unfold IssuesKey at given others
      simp only at given others ⊢
      obtain ⟨exception, failed⟩ | ⟨key, salt, isKey, done, free⟩ := restoreUserLoginKey_cases platform env dto store
      · rw [failed] at others ⊢
        refine kept.same fun userId => others userId ?_
        rintro key ⟨-, issued⟩
        cases issued
      · rw [done] at given others ⊢
        apply kept.sets (setsKey_updateUser kept isKey free) (given dto.userId key ⟨rfl, rfl⟩)
        intro other apart
        apply others
        rintro value ⟨same, -⟩
        exact apart same.symm

theorem issuesKey_functional (store : Store) (action : Env × KeyCall) (userId : Uuid) (key other : Text)
    (first : IssuesKey platform store action userId key) (second : IssuesKey platform store action userId other) :
    key = other := by
  obtain ⟨env, call⟩ := action
  cases call with
  | signup dto =>
      obtain ⟨user, issued, -⟩ := first
      obtain ⟨again, same, -⟩ := second
      cases issued.symm.trans same
      rfl
  | restoreUserLoginKey dto => exact Except.ok.inj (first.2.symm.trans second.2)

end Calls

/-- In every state of a run each row has the columns of the key that was issued to its user last. -/
theorem keys_kept (platform : Platform) {start : Store} (keyless : Keyless platform start)
    (actions : List (Env × KeyCall)) (position : Nat) :
    KeysKept platform (LastIssued platform start actions position)
      (stateAt (runKeyCall platform) start actions position) := by
  apply stateAt_latest (runKeyCall platform) (IssuesKey platform)
    fun latest store => KeysKept platform latest store
  · refine ⟨keyless.distinct, keyless.spent, ?_, ?_, keyless.free⟩
    · intro user inside other _ some
      exact absurd (keyless.keyless user inside) some
    · intro user inside
      exact .inl ⟨keyless.keyless user inside, fun _ nothing => nothing⟩
  · exact fun latest known store action kept given others => kept.run action given others

section SignIn
variable {platform : Platform} {store : Store} {latest : Uuid → Text → Prop} {user : User} {key : Text}

/-- The checks of the sign-in accept the key that was issued to the user last, and they return its row. -/
theorem signinChecks_eq (checks : platform.ChecksKeys) (kept : KeysKept platform latest store)
    (inside : user ∈ store.users) (has : user.HasKey platform key) :
    signinChecks platform store { loginKey := key } = .ok user := by
  obtain ⟨salt, located, hash⟩ := has
  have found : findByLoginKeyLookup store (generateLoginKeyLookup platform key) = some user := by
    cases search : findByLoginKeyLookup store (generateLoginKeyLookup platform key) with
    | none => exact absurd located ((lookup_eq_none User.loginKeyLookup).mp search user inside)
    | some other =>
        obtain ⟨present, same⟩ := lookup_mem User.loginKeyLookup search
        have some : other.loginKeyLookup ≠ none := by
          rw [same]
          exact Option.some_ne_none _
        have id := kept.apart other present user inside some (same.trans located.symm)
        rw [List.inj_on_of_nodup_map kept.distinct present inside id]
  have valid : platform.bcryptCompare key (platform.bcryptHash key salt) = true :=
    (checks.compares key salt key).mpr rfl
  unfold signinChecks
  simp only [found, hash, compareLoginKeyOrPassword, valid]
  rfl

/-- A row that the checks return has the entered key. -/
theorem signinChecks_latest (checks : platform.ChecksKeys) (kept : KeysKept platform latest store)
    (isKey : IsLoginKey key) (passed : signinChecks platform store { loginKey := key } = .ok user) :
    user ∈ store.users ∧ latest user.id key := by
  have found : findByLoginKeyLookup store (generateLoginKeyLookup platform key) = some user := by
    unfold signinChecks at passed
    split at passed
    · next row found =>
        obtain ⟨valid, -, rest⟩ := ok_of_bind passed
        split at rest
        · cases rest
        · cases rest
          exact found
    · cases passed
  obtain ⟨inside, same⟩ := lookup_mem User.loginKeyLookup found
  rcases kept.keyed user inside with ⟨none, -⟩ | ⟨own, issued, isOwn, salt, located, -⟩
  · rw [none] at same
    cases same
  · rw [same, generateLoginKeyLookup_eq platform isKey, generateLoginKeyLookup_eq platform isOwn] at located
    rw [checks.lookups _ (Option.some.inj located)]
    exact ⟨inside, issued⟩

theorem createSession_stored (platform : Platform) {env : Env} (params : CreateSessionParams)
    (stored : env.succeeds 0 = true) (present : store.hasUser params.userId = true)
    (address : params.ipAddress.all platform.inet = true) (free : HashesFree platform store) :
    createSession platform env params store =
      (.ok (openedTokens platform env params store),
        { store with
          sessions := store.sessions ++ [openedSession platform env params store]
          nextId := store.nextId + 1 }) := by
  rcases createSession_cases platform env params store with failed | created
  · have unused : (store.sessions.any fun session => session.refreshTokenHash ==
        platform.sha256 (openedTokens platform env params store).refreshToken) = false := by
      apply List.any_eq_false.mpr
      intro session inside same
      exact free session inside env.now _ (Nat.le_refl store.nextId) (beq_iff_eq.mp same)
    unfold openedTokens at unused
    unfold createSession at failed
    simp only [stored, present, address, unused] at failed
    cases failed
  · exact created

/-- The session can store the address of the client, if there is one. -/
def Request.AddressFits (platform : Platform) (request : Request) : Prop :=
  (getClientInfo request.headers request.remoteAddress).ipAddress.all platform.inet = true

instance (platform : Platform) (request : Request) : Decidable (request.AddressFits platform) :=
  inferInstanceAs (Decidable (_ = true))

/-- A sign-in that reaches the controller answers what its service returns. -/
theorem signsInWith_reply {middlewareEnv env : Env} {request : Request} {text : Text} {dto : SignInDto}
    (accepted : signInSchema text = some dto) :
    (handle platform middlewareEnv env (request.signsInWith text) store).1 =
      Progress.finish { store } (answer (signin platform env (getClientInfo request.headers request.remoteAddress)
        dto store) Controllers.signInReply).1 := by
  unfold handle Request.signsInWith Route.chain runChain runMiddleware Route.accepted
  rw [accepted]
  rfl

/-- An address that does not fit its column fails the insert of the session. -/
theorem createSession_rejected (platform : Platform) (env : Env) {params : CreateSessionParams}
    (address : params.ipAddress.all platform.inet = false) :
    createSession platform env params store = (.error .failedCall, store) := by
  unfold createSession
  simp only [address, Bool.and_false, Bool.false_and, Bool.false_eq_true, if_false]

/-- When the database answers, the sign-in authenticates the user whose row the checks return, if the address of the
client fits. -/
theorem signIn_authenticates_iff {middlewareEnv env : Env} {request : Request} {text : Text} {dto : SignInDto}
    {userId : Uuid} (accepted : signInSchema text = some dto) (free : HashesFree platform store)
    (stored : env.succeeds 0 = true) :
    (handle platform middlewareEnv env (request.signsInWith text) store).1.Authenticates platform userId ↔
      (∃ row, signinChecks platform store dto = .ok row ∧ row.id = userId) ∧ request.AddressFits platform := by
  rw [signsInWith_reply accepted]
  unfold signin guarded
  cases passed : signinChecks platform store dto with
  | error exception =>
      refine iff_of_false ?_ ?_
      · rintro ⟨-, ⟨user, body, -⟩, -⟩
        cases body
      · rintro ⟨⟨row, found, -⟩, -⟩
        cases found
  | ok row =>
      let params : CreateSessionParams :=
        { userId := row.id, roles := [row.role]
          userAgent := (getClientInfo request.headers request.remoteAddress).userAgent
          ipAddress := (getClientInfo request.headers request.remoteAddress).ipAddress }
      have inside := signinChecks_mem passed
      have present : store.hasUser row.id = true :=
        List.any_eq_true.mpr ⟨row, inside, beq_self_eq_true row.id⟩
      simp only [openSession]
      cases address : params.ipAddress.all platform.inet with
      | false =>
          rw [createSession_rejected platform env address]
          refine iff_of_false ?_ ?_
          · rintro ⟨-, ⟨user, body, -⟩, -⟩
            cases body
          · rintro ⟨-, fits⟩
            cases address.symm.trans fits
      | true =>
          rw [createSession_stored platform params stored present address free]
          constructor
          · rintro ⟨-, ⟨user, body, same⟩, -⟩
            cases body
            exact ⟨⟨row, rfl, same⟩, address⟩
          · rintro ⟨⟨other, found, same⟩, -⟩
            cases found
            exact ⟨rfl, ⟨row, rfl, same⟩, env.now, _, rfl, same⟩

end SignIn

/-- A rendering of the key signs the user in exactly when the key is the one that was issued to the user last. -/
def KeyDecides (platform : Platform) (start : Store) (actions : List (Env × KeyCall)) (position : Nat)
    (middlewareEnv env : Env) (request : Request) (text : Text) (userId : Uuid) (key : Text) : Prop :=
  (handle platform middlewareEnv env (request.signsInWith text)
    (stateAt (runKeyCall platform) start actions position)).1.Authenticates platform userId ↔
      LastIssued platform start actions position userId key

/-- In every state of a run of sign-ups and restorations, any rendering of a key decides as it should exactly when the
last key does not come from an address that the session cannot store. -/
theorem last_key_decides_iff {platform : Platform} (checks : platform.ChecksKeys) {start : Store}
    (keyless : Keyless platform start) (actions : List (Env × KeyCall)) (position : Nat) (middlewareEnv : Env) {env : Env}
    (stored : env.succeeds 0 = true) (request : Request) {key text : Text} (isKey : IsLoginKey key)
    (renders : Renders key text) {user : User}
    (inside : user ∈ (stateAt (runKeyCall platform) start actions position).users) :
    KeyDecides platform start actions position middlewareEnv env request text user.id key ↔
      (LastIssued platform start actions position user.id key → request.AddressFits platform) := by
  have kept := keys_kept platform keyless actions position
  have passes : (∃ row, signinChecks platform (stateAt (runKeyCall platform) start actions position)
        { loginKey := key } = .ok row ∧ row.id = user.id) ↔
      LastIssued platform start actions position user.id key := by
    constructor
    · rintro ⟨row, passed, same⟩
      obtain ⟨-, issued⟩ := signinChecks_latest checks kept isKey passed
      exact same ▸ issued
    · intro issued
      rcases kept.keyed user inside with ⟨-, never⟩ | ⟨own, latest, -, has⟩
      · exact absurd issued (never key)
      · have same : own = key :=
          Latest.unique (runKeyCall platform) (IssuesKey platform) issuesKey_functional latest issued
        exact ⟨user, signinChecks_eq checks kept inside (same ▸ has), rfl⟩
  unfold KeyDecides
  rw [signIn_authenticates_iff (signInSchema_renders isKey renders) kept.free stored, passes]
  exact and_iff_left_iff_imp

theorem plainPlatform_checksKeys : plainPlatform.ChecksKeys where
  lookups _ _ _ same := same
  compares _ _ _ := beq_iff_eq

/-- User 0 signs up and gets a new key the next day. -/
def replacedKey : List (Env × KeyCall) :=
  [({ now := 1 }, .signup { role := .user, username := ['a', 'n', 'n'] }),
    ({ now := 86400000000, draw := fun index => 3 * index }, .restoreUserLoginKey { userId := 0 })]

/-- The user enters the new key in lower case, in two groups and with a line break. -/
def enteredKey : Text := [' ', 'a', 'd', 'g', 'k', 'n', '-', '-', 'r', 'U', 'x', '2', '5', '\n']

def newKey : Text := ['A', 'D', 'G', 'K', 'N', 'R', 'U', 'X', '2', '5']

/-- The row has the columns of the new key. -/
def restoredUser : User :=
  { id := 0, username := some ['a', 'n', 'n'], loginKeyHash := some newKey, loginKeyLookup := some newKey
    userCode := some ['A', 'B', 'C', 'D', 'E', 'F', 'G', 'H', 'J', 'K'], role := .user, createdAt := 1 }

theorem enteredKey_renders : Renders newKey enteredKey := by
  have space : ∀ letter ∈ [' '], isWhiteSpace letter = true :=
    fun letter inside => (List.mem_singleton.mp inside).symm ▸ rfl
  have lineBreak : ∀ letter ∈ ['\n'], isWhiteSpace letter = true :=
    fun letter inside => (List.mem_singleton.mp inside).symm ▸ rfl
  refine ⟨[' '], enteredKey.tail.dropLast, ['\n'], rfl, space, lineBreak, ?_⟩
  have last : Dashed ['2', '5'] ['2', '5'] := .next (.inl rfl) 0 (.last (.inl rfl))
  have second : Dashed ['R', 'U', 'X', '2', '5'] ['r', 'U', 'x', '2', '5'] :=
    .next (.inr rfl) 0 (.next (.inl rfl) 0 (.next (.inr rfl) 0 last))
  exact .next (.inr rfl) 0 (.next (.inr rfl) 0 (.next (.inr rfl) 0 (.next (.inr rfl) 0 (.next (.inr rfl) 2 second))))

/-- A client and a proxy. -/
def proxiedAddresses : Text :=
  ['1', '9', '2', '.', '0', '.', '2', '.', '9', ',', ' ', '1', '0', '.', '0', '.', '0', '.', '1']

def forwardedRequest : Request where
  route := .me
  headers := { xForwardedFor := some proxiedAddresses }

/-- A proxy may send this word in the place of an address. -/
def unknownRequest : Request where
  route := .me
  headers := { xForwardedFor := some ['u', 'n', 'k', 'n', 'o', 'w', 'n'] }

theorem replacedKey_last : LastIssued plainPlatform {} replacedKey 2 0 newKey := by
  have present : replacedKey[1]? =
      some ({ now := 86400000000, draw := fun index => 3 * index }, .restoreUserLoginKey { userId := 0 }) := rfl
  exact latest_of_gives (runKeyCall plainPlatform) (IssuesKey plainPlatform) present ⟨rfl, rfl⟩

theorem new_key_signs_in :
    (handle plainPlatform { now := 86400000001 } { now := 86400000001 } (forwardedRequest.signsInWith enteredKey)
      (stateAt (runKeyCall plainPlatform) {} replacedKey 2)).1.Authenticates plainPlatform 0 := by
  have keyless : Keyless plainPlatform {} :=
    ⟨List.nodup_nil, by decide, by decide, fun session inside => absurd inside List.not_mem_nil⟩
  have inside : restoredUser ∈ (stateAt (runKeyCall plainPlatform) {} replacedKey 2).users := by decide
  have isKey : IsLoginKey newKey := generateRandomString_isLoginKey fun index => 3 * index
  have stored : ({ now := 86400000001 } : Env).succeeds 0 = true := rfl
  have fits : forwardedRequest.AddressFits plainPlatform := by decide
  have decides := (last_key_decides_iff plainPlatform_checksKeys keyless replacedKey 2 { now := 86400000001 } stored
    forwardedRequest isKey enteredKey_renders inside).mpr fun _ => fits
  exact decides.mpr replacedKey_last

/-- The last key signs nobody in from a client whose address is unknown. -/
theorem unknown_address_refuses_last_key :
    ¬ KeyDecides plainPlatform {} replacedKey 2 { now := 86400000001 } { now := 86400000001 } unknownRequest
      enteredKey 0 newKey := by
  intro decides
  obtain ⟨status, -⟩ := decides.mpr replacedKey_last
  have failed : (handle plainPlatform { now := 86400000001 } { now := 86400000001 }
      (unknownRequest.signsInWith enteredKey) (stateAt (runKeyCall plainPlatform) {} replacedKey 2)).1.status = 500 := by
    decide
  cases failed.symm.trans status

end Messinger
