import Messinger.Proof.Serving

namespace Messinger
open Library SessionRepository

/-- The service accepts the token for one of the roles ADMIN and SUPER_ADMIN. -/
def PrivilegedToken (platform : Platform) (token : Text) : Prop :=
  ∃ secret now payload, (secret = platform.jwtSecret ∨ secret = platform.jwtRefreshSecret) ∧
    platform.jwtVerify token secret now = .payload payload ∧ Privileged payload.roles

/-- The exchange inserts the row of the user. -/
def Creates (platform : Platform) (store : Store) (exchange : Exchange) (userId : Uuid) : Prop :=
  (∀ user ∈ store.users, user.id ≠ userId) ∧
    ∃ user ∈ (serve platform store exchange).users, user.id = userId

/-- The user is created by createAdmin, in a request that is authenticated as an admin. -/
def Appoints (platform : Platform) (store : Store) (exchange : Exchange) (userId : Uuid) : Prop :=
  (∃ adminName password, exchange.request.route = .createAdmin adminName password) ∧
    AuthenticatedAdmin platform store exchange ∧ Creates platform store exchange userId

/-- The request signs up no one with another role than USER. -/
def SignsUpUsers (request : Request) : Prop :=
  ∀ role username dto, request.route = .signUp role username →
    username.bind (signUpSchema role) = some dto → dto.role = .user

section Runs
variable (platform : Platform) (seedEnv : Env) (outsiders : Nat → Prop) (exchanges : List Exchange)

/-- The user is the seed or was created by createAdmin on behalf of an admin. -/
def Appointed (position : Nat) (userId : Uuid) : Prop :=
  (∃ seed ∈ (seeded platform seedEnv).users, seed.id = userId) ∨
    ∃ earlier < position, ∃ exchange, exchanges[earlier]? = some exchange ∧
      Appoints platform (servedAt platform seedEnv exchanges earlier) exchange userId

def AdminsAppointed (position : Nat) : Prop :=
  ∀ user ∈ (servedAt platform seedEnv exchanges position).users, user.role ≠ .user →
    Appointed platform seedEnv exchanges position user.id

/-- The token was handed to an outsider before. -/
def HandedBefore (position : Nat) (token : Text) : Prop :=
  ∃ earlier < position, ∃ exchange, exchanges[earlier]? = some exchange ∧ outsiders exchange.client ∧
    token ∈ (replyTo platform (servedAt platform seedEnv exchanges earlier) exchange).tokens

/-- The user was created by a request of an outsider before. -/
def CreatedBefore (position : Nat) (userId : Uuid) : Prop :=
  ∃ earlier < position, ∃ exchange, exchanges[earlier]? = some exchange ∧ outsiders exchange.client ∧
    Creates platform (servedAt platform seedEnv exchanges earlier) exchange userId

/-- The outsider has no admin credentials but those that the service gave to an outsider: each
privileged token that it presents, and each admin account that it signs in to. -/
structure WithoutAdminCredentials (position : Nat) (exchange : Exchange) : Prop where
  tokens : ∀ token, getAccessToken exchange.request.cookies exchange.request.headers = some (.text token) ∨
      getRefreshToken exchange.request.cookies exchange.request.headers = some (.text token) →
    PrivilegedToken platform token → HandedBefore platform seedEnv outsiders exchanges position token
  accounts : ∀ account,
    SignsInTo platform exchange.env (servedAt platform seedEnv exchanges position) exchange.request account →
      account.role ≠ .user → CreatedBefore platform seedEnv outsiders exchanges position account.id

/-- These facts hold before the exchange at the position. -/
structure Unescalated (position : Nat) (store : Store) : Prop where
  known : ∀ user ∈ store.users, user.id < store.nextId
  sound : SessionsSound platform store
  appointed : ∀ user ∈ store.users, user.role ≠ .user →
    Appointed platform seedEnv exchanges position user.id
  created : ∀ userId, CreatedBefore platform seedEnv outsiders exchanges position userId →
    userId < store.nextId ∧ ∀ user ∈ store.users, user.id = userId → user.role = .user
  handed : ∀ token, HandedBefore platform seedEnv outsiders exchanges position token →
    ¬ PrivilegedToken platform token

end Runs

section Steps
variable {platform : Platform} {seedEnv : Env} {outsiders : Nat → Prop} {exchanges : List Exchange}
  {position : Nat} {exchange : Exchange}

/-- A token that is signed without an admin role is not accepted for one. -/
theorem not_privileged_of_signedWith (authentic : platform.Authentic) {roles : List UserRole} {token : Text}
    (signed : SignedWith platform roles token) (ordinary : ¬ Privileged roles) :
    ¬ PrivilegedToken platform token := by
  rintro ⟨secret, later, claims, -, verified, role, inside, admin⟩
  obtain ⟨now, payload, rfl, pair⟩ := signed
  refine ordinary ⟨role, ?_, admin⟩
  obtain rfl | last := List.mem_cons.mp pair
  · exact authentic.signed _ _ _ _ _ _ _ verified role inside
  · rw [List.mem_singleton.mp last] at verified
    exact authentic.signed _ _ _ _ _ _ _ verified role inside

/-- A request that presents no privileged token is not authenticated as an admin. -/
theorem not_authenticatedAdmin {store : Store}
    (presented : ∀ token, getAccessToken exchange.request.cookies exchange.request.headers = some (.text token) ∨
      getRefreshToken exchange.request.cookies exchange.request.headers = some (.text token) →
        ¬ PrivilegedToken platform token) :
    ¬ AuthenticatedAdmin platform store exchange := by
  rintro ⟨locals, passes, privileged⟩
  obtain ⟨token, secret, payload, source, verified, roles⟩ := authenticate_roles passes
  rw [roles] at privileged
  obtain ⟨access, same⟩ | ⟨refresh, same⟩ := source
  · exact presented token (.inl access) ⟨secret, _, payload, .inl same, verified, privileged⟩
  · have present := (Option.filter_eq_some_iff.mp refresh).1
    exact presented token (.inr present) ⟨secret, _, payload, .inr same, verified, privileged⟩

/-- An outsider presents no privileged token as long as none was handed out. -/
theorem WithoutAdminCredentials.presented {store : Store}
    (outside : WithoutAdminCredentials platform seedEnv outsiders exchanges position exchange)
    (before : Unescalated platform seedEnv outsiders exchanges position store) :
    ∀ token, getAccessToken exchange.request.cookies exchange.request.headers = some (.text token) ∨
      getRefreshToken exchange.request.cookies exchange.request.headers = some (.text token) →
        ¬ PrivilegedToken platform token := by
  intro token source privileged
  exact before.handed token (outside.tokens token source privileged) privileged

/-- The answer to an outsider hands out no privileged token. -/
theorem Unescalated.tokens (authentic : platform.Authentic)
    (before : Unescalated platform seedEnv outsiders exchanges position
      (servedAt platform seedEnv exchanges position))
    (outside : WithoutAdminCredentials platform seedEnv outsiders exchanges position exchange) {token : Text}
    (handed : token ∈ (replyTo platform (servedAt platform seedEnv exchanges position) exchange).tokens) :
    ¬ PrivilegedToken platform token := by
  obtain ⟨refreshToken, payload, presented, verified, signed⟩ | ⟨account, signsIn, signed⟩ :=
    replyTo_tokens authentic before.sound handed
  · apply not_privileged_of_signedWith authentic signed
    intro privileged
    have present := (Option.filter_eq_some_iff.mp presented).1
    exact outside.presented before refreshToken (.inr present)
      ⟨_, _, payload, .inr rfl, verified, privileged⟩
  · apply not_privileged_of_signedWith authentic signed
    rintro ⟨role, inside, admin⟩
    rw [List.mem_singleton.mp inside] at admin
    have created := outside.accounts account signsIn admin
    exact admin ((before.created account.id created).2 account signsIn.mem rfl)

theorem Appointed.later {userId : Uuid} (appointed : Appointed platform seedEnv exchanges position userId) :
    Appointed platform seedEnv exchanges (position + 1) userId := by
  obtain seed | ⟨earlier, before, rest⟩ := appointed
  · exact .inl seed
  · exact .inr ⟨earlier, Nat.lt_succ_of_lt before, rest⟩

theorem CreatedBefore.cases {userId : Uuid} (present : exchanges[position]? = some exchange)
    (created : CreatedBefore platform seedEnv outsiders exchanges (position + 1) userId) :
    CreatedBefore platform seedEnv outsiders exchanges position userId ∨
      outsiders exchange.client ∧
        Creates platform (servedAt platform seedEnv exchanges position) exchange userId := by
  obtain ⟨earlier, before, other, found, outsider, creates⟩ := created
  obtain before | rfl := Nat.lt_succ_iff_lt_or_eq.mp before
  · exact .inl ⟨earlier, before, other, found, outsider, creates⟩
  · rw [present] at found
    cases found
    exact .inr ⟨outsider, creates⟩

theorem HandedBefore.cases {token : Text} (present : exchanges[position]? = some exchange)
    (handed : HandedBefore platform seedEnv outsiders exchanges (position + 1) token) :
    HandedBefore platform seedEnv outsiders exchanges position token ∨
      outsiders exchange.client ∧
        token ∈ (replyTo platform (servedAt platform seedEnv exchanges position) exchange).tokens := by
  obtain ⟨earlier, before, other, found, outsider, handed⟩ := handed
  obtain before | rfl := Nat.lt_succ_iff_lt_or_eq.mp before
  · exact .inl ⟨earlier, before, other, found, outsider, handed⟩
  · rw [present] at found
    cases found
    exact .inr ⟨outsider, handed⟩

/-- The users of a store keep distinct identifiers from those to come. -/
theorem serve_known {store : Store} (known : ∀ user ∈ store.users, user.id < store.nextId)
    (exchange : Exchange) :
    ∀ user ∈ (serve platform store exchange).users, user.id < (serve platform store exchange).nextId := by
  intro user inside
  obtain kept | ⟨row, fresh, -, users, supply, -⟩ := serve_users platform store exchange
  · obtain ⟨old, before, same, -⟩ := kept.rows user inside
    rw [← same]
    exact Nat.lt_of_lt_of_le (known old before) kept.supply
  · rw [users] at inside
    rw [supply]
    obtain old | new := List.mem_append.mp inside
    · exact Nat.lt_succ_of_lt (known user old)
    · rw [List.mem_singleton.mp new, fresh]
      exact Nat.lt_succ_self _

/-- A user that an exchange inserts is ordinary, or it is created by an admin. -/
theorem serve_newcomer (signUps : SignsUpUsers exchange.request) {store : Store} {user : User}
    (inside : user ∈ (serve platform store exchange).users) :
    (∃ old ∈ store.users, old.id = user.id ∧ old.role = user.role) ∨
      user.id = store.nextId ∧
        (user.role = .user ∨
          (∃ adminName password, exchange.request.route = .createAdmin adminName password) ∧
            AuthenticatedAdmin platform store exchange) := by
  obtain kept | ⟨row, fresh, registers, users, -, admins⟩ := serve_users platform store exchange
  · exact .inl (kept.rows user inside)
  · rw [users] at inside
    obtain old | new := List.mem_append.mp inside
    · exact .inl ⟨user, old, rfl, rfl⟩
    · rw [List.mem_singleton.mp new]
      refine .inr ⟨fresh, ?_⟩
      generalize row.role = role at registers
      cases registers with
      | signUp route accepted => exact .inl (signUps _ _ _ route accepted)
      | createAdmin route => exact .inr ⟨⟨_, _, route⟩, admins _ _ route⟩

/-- One exchange keeps the facts. -/
theorem Unescalated.step (authentic : platform.Authentic) (signUps : SignsUpUsers exchange.request)
    (present : exchanges[position]? = some exchange)
    (outside : outsiders exchange.client →
      WithoutAdminCredentials platform seedEnv outsiders exchanges position exchange)
    (before : Unescalated platform seedEnv outsiders exchanges position
      (servedAt platform seedEnv exchanges position)) :
    Unescalated platform seedEnv outsiders exchanges (position + 1)
      (serve platform (servedAt platform seedEnv exchanges position) exchange) where
  known := serve_known before.known exchange
  sound := serve_sound authentic before.sound exchange
  appointed user inside admin := by
    obtain ⟨old, present, id, role⟩ | ⟨fresh, ordinary | ⟨route, authenticated⟩⟩ :=
      serve_newcomer signUps inside
    · rw [← id]
      exact (before.appointed old present (role ▸ admin)).later
    · exact absurd ordinary admin
    · refine .inr ⟨position, Nat.lt_succ_self _, exchange, present, route, authenticated, ?_, user, inside, rfl⟩
      intro old earlier same
      have known := before.known old earlier
      rw [same, fresh] at known
      exact Nat.lt_irrefl _ known
  created userId created := by
    obtain earlier | ⟨outsider, absent, user, inside, same⟩ := created.cases present
    · obtain ⟨known, ordinary⟩ := before.created userId earlier
      constructor
      · obtain kept | ⟨row, -, -, -, supply, -⟩ :=
          serve_users platform (servedAt platform seedEnv exchanges position) exchange
        · exact Nat.lt_of_lt_of_le known kept.supply
        · rw [supply]
          exact Nat.lt_succ_of_lt known
      · intro user inside same
        obtain ⟨old, present, id, role⟩ | ⟨fresh, -⟩ := serve_newcomer signUps inside
        · rw [← role]
          exact ordinary old present (id.trans same)
        · rw [← same, fresh] at known
          exact absurd known (Nat.lt_irrefl _)
    · refine ⟨same ▸ serve_known before.known exchange user inside, ?_⟩
      intro other inside same
      obtain ⟨old, present, id, -⟩ | ⟨-, ordinary | ⟨-, authenticated⟩⟩ := serve_newcomer signUps inside
      · exact absurd (id.trans same) (absent old present)
      · exact ordinary
      · exact absurd authenticated (not_authenticatedAdmin ((outside outsider).presented before))
  handed token handed := by
    obtain earlier | ⟨outsider, handed⟩ := handed.cases present
    · exact before.handed token earlier
    · exact before.tokens authentic (outside outsider) handed

end Steps

end Messinger
