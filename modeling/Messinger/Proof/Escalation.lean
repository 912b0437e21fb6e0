import Messinger.Proof.Appointments

namespace Messinger
open Library SessionRepository

section Seed
variable (platform : Platform) (seedEnv : Env)

/-- The seed inserts at most one user and no session. -/
theorem seeded_tables :
    (seeded platform seedEnv).sessions = [] ∧
      ∀ user ∈ (seeded platform seedEnv).users, user.id < (seeded platform seedEnv).nextId := by
  unfold seeded adminSeed
  simp only [List.any_nil, Bool.false_eq_true, if_false]
  split
  · next failed =>
      rw [saveUser_error failed]
      simp
  · next done =>
      rw [saveUser_ok done]
      simp [Store.addUser]

/-- The facts hold before the first exchange. -/
theorem seeded_unescalated (outsiders : Nat → Prop) (exchanges : List Exchange) :
    Unescalated platform seedEnv outsiders exchanges 0 (seeded platform seedEnv) where
  known := (seeded_tables platform seedEnv).2
  sound := by
    have none := (seeded_tables platform seedEnv).1
    refine ⟨⟨?_, ?_⟩, ?_⟩
    · rw [none]
      exact List.nodup_nil
    · rw [none]
      exact fun session inside => absurd inside List.not_mem_nil
    · rw [none]
      exact fun session inside => absurd inside List.not_mem_nil
  appointed user inside _ := .inl ⟨user, inside, rfl⟩
  created _ created := by
    obtain ⟨earlier, before, -⟩ := created
    exact absurd before (Nat.not_lt_zero _)
  handed _ handed := by
    obtain ⟨earlier, before, -⟩ := handed
    exact absurd before (Nat.not_lt_zero _)

end Seed

/-- While sign-ups make ordinary users, admins are appointed by admins and outsiders get no admin tokens. -/
theorem no_escalation_of_userSignUps (platform : Platform) (authentic : platform.Authentic) (seedEnv : Env)
    (outsiders : Nat → Prop) (exchanges : List Exchange)
    (signUps : ∀ exchange ∈ exchanges, SignsUpUsers exchange.request)
    (outside : ∀ position exchange, exchanges[position]? = some exchange → outsiders exchange.client →
      WithoutAdminCredentials platform seedEnv outsiders exchanges position exchange) :
    (∀ position ≤ exchanges.length, AdminsAppointed platform seedEnv exchanges position) ∧
      ∀ position exchange, exchanges[position]? = some exchange → outsiders exchange.client →
        ∀ token ∈ (replyTo platform (servedAt platform seedEnv exchanges position) exchange).tokens,
          ¬ PrivilegedToken platform token := by
  have run : ∀ position ≤ exchanges.length, Unescalated platform seedEnv outsiders exchanges position
      (servedAt platform seedEnv exchanges position) := by
    have initial := seeded_unescalated platform seedEnv outsiders exchanges
    refine stateAt_induction (serve platform) (Unescalated platform seedEnv outsiders exchanges) initial ?_
    intro earlier exchange present before
    exact before.step authentic (signUps exchange (List.mem_of_getElem? present)) present
      (outside earlier exchange present)
  constructor
  · exact fun position inside => (run position inside).appointed
  · intro position exchange present outsider token handed
    have inside : position < exchanges.length := (List.getElem?_eq_some_iff.mp present).1
    exact (run position (Nat.le_of_lt inside)).tokens authentic (outside position exchange present outsider) handed

def issuedLoginKey : Text := ['L', 'M', 'N', 'P', 'Q', 'R', 'S', 'T', 'U', 'V']

/-- A client signs up with the role and signs in with the key that it gets. -/
def admissionRun (role : Option Text) : List Exchange :=
  [{ client := 1, middlewareEnv := { now := 1000000 }, env := { now := 1000000 }
     request := { route := .signUp role (some ['e', 'v', 'a']) } },
   { client := 1, middlewareEnv := { now := 2000000 }, env := { now := 2000000 }
     request := { route := .signIn (some { loginKey := issuedLoginKey }) } }]

/-- This is the role that a body may ask for. -/
def adminText : Text := ['A', 'D', 'M', 'I', 'N']

theorem admissionRun_account : ∀ role ∈ [none, some adminText],
    (AuthService.signinChecks plainPlatform (servedAt plainPlatform { now := 0 } (admissionRun role) 1)
      { loginKey := issuedLoginKey }).toOption.map User.id = some 1 := by
  decide

theorem admissionRun_created : ∀ role ∈ [none, some adminText],
    (∀ user ∈ (servedAt plainPlatform { now := 0 } (admissionRun role) 0).users, user.id ≠ 1) ∧
      ∃ user ∈ (servedAt plainPlatform { now := 0 } (admissionRun role) 1).users, user.id = 1 := by
  decide

/-- The client of the run has nothing but the key that the sign-up answers. -/
theorem admissionRun_outside {role : Option Text} (listed : role ∈ [none, some adminText]) (position : Nat)
    (exchange : Exchange) (present : (admissionRun role)[position]? = some exchange) :
    WithoutAdminCredentials plainPlatform { now := 0 } (fun _ => True) (admissionRun role) position exchange := by
  match position with
  | 0 =>
      cases present
      constructor
      · intro token source
        obtain access | refresh := source
        · cases access
        · cases refresh
      · intro account signsIn
        cases signsIn with
        | loginKey route =>
            obtain route | route := route
            · cases route
            · cases route
        | password route => cases route
  | 1 =>
      cases present
      constructor
      · intro token source
        obtain access | refresh := source
        · cases access
        · cases refresh
      · intro account signsIn admin
        cases signsIn with
        | loginKey route checked =>
            obtain route | route := route
            · cases route
              have account := admissionRun_account role listed
              rw [checked] at account
              rw [Option.some.inj account]
              exact ⟨0, Nat.one_pos, _, rfl, trivial, admissionRun_created role listed⟩
            · cases route
        | password route => cases route
  | position + 2 => cases present

/-- The theorem applies to the run with an ordinary sign-up. -/
theorem admissionRun_does_not_escalate :
    (∀ position ≤ 2, AdminsAppointed plainPlatform { now := 0 } (admissionRun none) position) ∧
      ∀ position exchange, (admissionRun none)[position]? = some exchange → True →
        ∀ token ∈ (replyTo plainPlatform (servedAt plainPlatform { now := 0 } (admissionRun none) position)
          exchange).tokens, ¬ PrivilegedToken plainPlatform token := by
  refine no_escalation_of_userSignUps plainPlatform plainPlatform_authentic { now := 0 } (fun _ => True)
    (admissionRun none) ?_ fun position exchange present _ =>
      admissionRun_outside (by decide) position exchange present
  intro exchange inside role username dto route accepted
  obtain rfl | last := List.mem_cons.mp inside
  · cases route
    cases accepted
    rfl
  · rw [List.mem_singleton.mp last] at route
    cases route

/-- A client without admin credentials signs up as an admin, and its next request gets admin tokens. -/
theorem sign_up_escalates :
    (∀ position exchange, (admissionRun (some adminText))[position]? = some exchange →
        WithoutAdminCredentials plainPlatform { now := 0 } (fun _ => True) (admissionRun (some adminText))
          position exchange) ∧
      ¬ AdminsAppointed plainPlatform { now := 0 } (admissionRun (some adminText)) 1 ∧
      ∃ exchange, (admissionRun (some adminText))[1]? = some exchange ∧
        ∃ token ∈ (replyTo plainPlatform
          (servedAt plainPlatform { now := 0 } (admissionRun (some adminText)) 1) exchange).tokens,
          PrivilegedToken plainPlatform token := by
  refine ⟨admissionRun_outside (by decide), ?_, _, rfl, ?_⟩
  · intro appointed
    have admin : ∃ user ∈ (servedAt plainPlatform { now := 0 } (admissionRun (some adminText)) 1).users,
        user.id = 1 ∧ user.role ≠ .user := by decide
    obtain ⟨user, inside, id, role⟩ := admin
    obtain ⟨seed, seeds, same⟩ | ⟨earlier, before, exchange, present, ⟨adminName, password, route⟩, -⟩ :=
      appointed user inside role
    · have others : ∀ seed ∈ (seeded plainPlatform { now := 0 }).users, seed.id ≠ 1 := by decide
      exact others seed seeds (same.trans id)
    · rw [Nat.lt_one_iff.mp before] at present
      cases present
      cases route
  · refine ⟨(signTokens plainPlatform 2000000 { sub := 1, roles := [.admin], sid := 2 }).accessToken,
      by decide, plainPlatform.jwtSecret, 2000000, { sub := 1, roles := [.admin], sid := 2 }, .inl rfl,
      by decide, .admin, by decide, by decide⟩

end Messinger
