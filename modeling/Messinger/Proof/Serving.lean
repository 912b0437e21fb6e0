import Messinger.Proof.SignIns

namespace Messinger
open Library SessionRepository

/-- Someone holds a role besides USER. -/
def Privileged (roles : List UserRole) : Prop := ∃ role ∈ roles, role ≠ .user

/-- The request is authenticated with the role ADMIN or SUPER_ADMIN. -/
def AuthenticatedAdmin (platform : Platform) (store : Store) (exchange : Exchange) : Prop :=
  ∃ locals, (authenticate platform exchange.middlewareEnv exchange.request.cookies
      exchange.request.headers store).result = .ok locals ∧ Privileged locals.roles

/-- The answer hands out the tokens of its controller and those of its middlewares. -/
theorem finish_tokens {progress : Progress} {reply : Reply} {token : Text}
    (handed : token ∈ (progress.finish reply).tokens) :
    token ∈ reply.tokens ∨
      token ∈ progress.cookies.texts ++ progress.headers.toList.flatMap Tokens.texts := by
  unfold Progress.finish Reply.tokens at handed
  simp only [List.mem_append] at handed
  unfold Reply.tokens
  simp only [List.mem_append]
  obtain cookie | header := handed
  · split at cookie
    · exact .inr (.inl cookie)
    · exact .inl (.inl cookie)
  · cases own : reply.headers with
    | none =>
        rw [own, Option.none_or] at header
        exact .inr (.inr header)
    | some pair =>
        rw [own, Option.some_or] at header
        exact .inl (.inr header)

section Exchanges
variable {platform : Platform} {store : Store}

/-- The rows of users keep their identifiers and roles. -/
structure UsersKept (store next : Store) : Prop where
  rows : ∀ user ∈ next.users, ∃ old ∈ store.users, old.id = user.id ∧ old.role = user.role
  supply : store.nextId ≤ next.nextId

/-- An exchange keeps the users, or it inserts one: by a sign-up, or by an admin who creates an admin. -/
theorem serve_users (platform : Platform) (store : Store) (exchange : Exchange) :
    UsersKept store (serve platform store exchange) ∨
      ∃ row, row.id = store.nextId ∧ Registers exchange.request row.role ∧
        (serve platform store exchange).users = store.users ++ [row] ∧
        (serve platform store exchange).nextId = store.nextId + 1 ∧
        ∀ adminName password, exchange.request.route = .createAdmin adminName password →
          AuthenticatedAdmin platform store exchange := by
  obtain ⟨sessions, between⟩ := runChain_store platform exchange.middlewareEnv exchange.request
    exchange.request.route.chain store
  obtain ⟨exception, progress, failed, same⟩ | ⟨progress, passed, same⟩ :=
    handle_cases platform exchange.middlewareEnv exchange.env exchange.request store
  · rw [failed] at between
    simp only at between
    refine .inl ?_
    unfold serve
    rw [same, between]
    exact ⟨fun user inside => ⟨user, inside, rfl, rfl⟩, Nat.le_refl _⟩
  · rw [passed] at between
    simp only at between
    unfold serve
    rw [same]
    obtain kept | ⟨row, fresh, registers, added⟩ :=
      controller_accounts platform exchange.env exchange.request _ progress.store
    · refine .inl ⟨?_, ?_⟩
      · have rows := kept.users
        rw [between] at rows ⊢
        exact rows
      · have supply := kept.supply
        rw [between] at supply ⊢
        exact supply
    · refine .inr ⟨row, ?_, registers, ?_, ?_, ?_⟩
      · rw [fresh, between]
      · rw [added, between]
        rfl
      · rw [added, between]
        rfl
      · intro adminName password route
        rw [route] at passed
        obtain ⟨locals, passes, ⟨role, inside, allowed⟩, -, -⟩ := runChain_ok passed
        refine ⟨locals, passes, role, inside, ?_⟩
        rintro rfl
        exact absurd allowed (by decide)

/-- An exchange keeps the sessions sound. -/
theorem serve_sound (authentic : platform.Authentic) (sound : SessionsSound platform store)
    (exchange : Exchange) : SessionsSound platform (serve platform store exchange) := by
  apply handle_keeps
  · exact (runChain_sound exchange.middlewareEnv exchange.request authentic sound exchange.request.route.chain).1
  · intro userId between chain
    obtain kept | ⟨row, -, -, added⟩ :=
      controller_accounts platform exchange.env exchange.request userId between
    · exact chain.of_undisturbed kept
    · rw [added]
      exact ⟨⟨chain.identified.distinct, fun session inside =>
        Nat.lt_succ_of_lt (chain.identified.known session inside)⟩, chain.rotations⟩

/-- The routes that sign in have no middleware that writes. -/
theorem SignsInTo.before {env middlewareEnv : Env} {request : Request} {account : User} {progress : Progress}
    (signsIn : SignsInTo platform env progress.store request account)
    (passed : runChain platform middlewareEnv request request.route.chain { store } = (.ok (), progress)) :
    SignsInTo platform env store request account := by
  have chain : request.route.chain = [.validateDTO] := by
    cases signsIn with
    | loginKey route checked =>
        obtain route | route := route
        · rw [route]
          rfl
        · rw [route]
          rfl
    | password route accepted checked =>
        rw [route]
        rfl
  rw [chain] at passed
  simp only [runChain, runMiddleware] at passed
  split at passed
  · cases passed
  · next validated =>
      split at validated
      · cases validated
        cases passed
        exact signsIn
      · cases validated

/-- An exchange hands out tokens of a rotation, or tokens of the account that it signs in to. -/
theorem replyTo_tokens (authentic : platform.Authentic) (sound : SessionsSound platform store)
    {exchange : Exchange} {token : Text} (handed : token ∈ (replyTo platform store exchange).tokens) :
    HandedByRotation platform exchange.middlewareEnv exchange.request token ∨
      ∃ account, SignsInTo platform exchange.env store exchange.request account ∧
        SignedWith platform [account.role] token := by
  have chain := (runChain_sound exchange.middlewareEnv exchange.request authentic sound
    exchange.request.route.chain).2
  unfold replyTo at handed
  obtain ⟨exception, progress, failed, same⟩ | ⟨progress, passed, same⟩ :=
    handle_cases platform exchange.middlewareEnv exchange.env exchange.request store
  · rw [same] at handed
    rw [failed] at chain
    obtain own | written := finish_tokens handed
    · cases own
    · exact .inl (chain token written)
  · rw [same] at handed
    rw [passed] at chain
    obtain own | written := finish_tokens handed
    · obtain ⟨account, signsIn, signed⟩ := controller_tokens own
      exact .inr ⟨account, signsIn.before passed, signed⟩
    · exact .inl (chain token written)

end Exchanges

end Messinger
