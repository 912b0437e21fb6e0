import Messinger.Proof.Membership

namespace Messinger
open Library ConversationMemberRepository ConversationRepository ConversationEventRepository
  GroupInvitationRepository

/-- A sequence succeeds when both of its steps succeed. -/
theorem ok_of_bind {A B : Type} {first : Except Exception A} {rest : A → Except Exception B} {value : B}
    (done : (first >>= rest) = .ok value) : ∃ result, first = .ok result ∧ rest result = .ok value := by
  cases first with
  | error exception => cases done
  | ok result => exact ⟨result, rfl, done⟩

theorem transaction_outcome {A : Type} {commits : Bool} {store : Store}
    {body : Store → Except Exception (A × Store)} {outcome : Outcome A}
    (call : transaction commits store body = outcome) :
    (∃ exception, outcome = (.error exception, store)) ∨
      ∃ value next, body store = .ok (value, next) ∧ outcome = (.ok value, next) := by
  rw [← call]
  obtain failed | ⟨value, next, done, -, finished⟩ := transaction_cases commits store body
  · exact .inl failed
  · exact .inr ⟨value, next, done, finished⟩

/-- A transaction returns exactly when its body does and the database commits it. -/
theorem transaction_returns_iff {A : Type} {commits : Bool} {store : Store}
    {body : Store → Except Exception (A × Store)} :
    (∃ value, (transaction commits store body).1 = .ok value) ↔ commits = true ∧ ∃ result, body store = .ok result := by
  constructor
  · rintro ⟨value, returned⟩
    obtain ⟨exception, failed⟩ | ⟨value, next, done, committed, -⟩ := transaction_cases commits store body
    · rw [failed] at returned
      cases returned
    · exact ⟨committed, _, done⟩
  · rintro ⟨committed, ⟨value, next⟩, done⟩
    rw [transaction, done, committed]
    exact ⟨value, rfl⟩

theorem transaction_throws_iff {A : Type} {commits : Bool} {store : Store}
    {body : Store → Except Exception (A × Store)} :
    (∃ exception, (transaction commits store body).1 = .error exception) ↔
      commits = false ∨ ∃ exception, body store = .error exception := by
  unfold transaction
  cases body store with
  | error exception => exact iff_of_true ⟨exception, rfl⟩ (.inr ⟨exception, rfl⟩)
  | ok result =>
      cases commits with
      | false => exact iff_of_true ⟨_, rfl⟩ (.inl rfl)
      | true =>
          refine iff_of_false ?_ ?_
          · rintro ⟨exception, failed⟩
            cases failed
          · rintro (aborted | ⟨exception, failed⟩)
            · cases aborted
            · cases failed

theorem transaction_snd {A : Type} (commits : Bool) (store : Store)
    (body : Store → Except Exception (A × Store)) :
    (transaction commits store body).2 =
      if commits then ((body store).toOption.map Prod.snd).getD store else store := by
  unfold transaction
  cases body store with
  | error exception => cases commits <;> rfl
  | ok pair => cases commits <;> rfl

theorem toOption_map_bind {A B S : Type} (outcome : Except Exception (A × S)) (change : A × S → B × S)
    (same : ∀ pair, (change pair).2 = pair.2) :
    (outcome >>= fun pair => pure (change pair)).toOption.map Prod.snd = outcome.toOption.map Prod.snd := by
  cases outcome with
  | error exception => rfl
  | ok pair => exact congrArg some (same pair)

/-- What holds before a transaction and after its body holds after the transaction. -/
theorem transaction_keeps {A : Type} {commits : Bool} {store : Store}
    {body : Store → Except Exception (A × Store)} {holds : Store → Prop} (before : holds store)
    (after : ∀ value next, body store = .ok (value, next) → holds next) :
    holds (transaction commits store body).2 := by
  obtain ⟨exception, failed⟩ | ⟨value, next, done, -, equal⟩ := transaction_cases commits store body
  · rw [failed]
    exact before
  · rw [equal]
    exact after value next done

/-- What holds before a call and after its body on every checked value holds after the call. -/
theorem guarded_keeps {A B : Type} {store : Store} {checks : Except Exception A} {body : A → Outcome B}
    {holds : Store → Prop} (before : holds store) (after : ∀ value, holds (body value).2) :
    holds (guarded store checks body).2 := by
  obtain ⟨exception, failed⟩ | ⟨value, -, equal⟩ := guarded_cases store checks body
  · rw [failed]
    exact before
  · rw [equal]
    exact after value

/-- A call with checks and a transaction fails without a trace, or both succeed. -/
theorem guarded_transaction_cases {A B : Type} {commits : Bool} {store : Store} {checks : Except Exception A}
    {body : A → Store → Except Exception (B × Store)} {outcome : Outcome B}
    (call : (guarded store checks fun value => transaction commits store (body value)) = outcome) :
    (∃ exception, outcome = (.error exception, store)) ∨
      ∃ value result next, checks = .ok value ∧ body value store = .ok (result, next) ∧
        outcome = (.ok result, next) := by
  rw [← call]
  obtain failed | ⟨value, passed, equal⟩ := guarded_cases store checks fun value =>
    transaction commits store (body value)
  · exact .inl failed
  · obtain failed | ⟨result, next, done, finished⟩ := transaction_outcome equal.symm
    · exact .inl failed
    · exact .inr ⟨value, result, next, passed, done, finished⟩

theorem transaction_aborts {A : Type} (store : Store) (body : Store → Except Exception (A × Store)) :
    ∃ exception, transaction false store body = (.error exception, store) := by
  obtain failed | ⟨-, -, -, commits, -⟩ := transaction_cases false store body
  · exact failed
  · cases commits

/-- A transaction that returns a value has committed. -/
theorem transaction_commits {A : Type} {commits : Bool} {store : Store}
    {body : Store → Except Exception (A × Store)} {value : A}
    (done : (transaction commits store body).1 = .ok value) : commits = true := by
  obtain ⟨exception, failed⟩ | ⟨-, -, -, committed, -⟩ := transaction_cases commits store body
  · rw [failed] at done
    cases done
  · exact committed

theorem guarded_transaction_commits {A B : Type} {commits : Bool} {store : Store}
    {checks : Except Exception A} {body : A → Store → Except Exception (B × Store)} {result : B}
    (done : (guarded store checks fun value => transaction commits store (body value)).1 = .ok result) :
    (∃ value, checks = .ok value) ∧ commits = true := by
  cases checks with
  | error exception => cases done
  | ok value => exact ⟨⟨value, rfl⟩, transaction_commits done⟩

/-- The store gains one event and spends one identifier. -/
def Store.logEvent (store : Store) (event : ConversationEvent) : Store :=
  { store with events := store.events ++ [event], nextId := store.nextId + 1 }

@[simp] theorem Store.logEvent_members (store : Store) (event : ConversationEvent) :
    (store.logEvent event).members = store.members := rfl

theorem createEvent_ok {now : Nat} {conversationId actorId : Uuid} {targetUserId : Option Uuid}
    {type : ConversationEventType} {store next : Store}
    (created : createEvent now conversationId actorId targetUserId type store = .ok next) :
    store.hasConversation conversationId = true ∧
      next = store.logEvent { id := store.nextId, conversationId, actorId, targetUserId, type,
                              createdAt := now } := by
  unfold createEvent at created
  split at created
  · rename_i present
    exact ⟨present, (Except.ok.inj created).symm⟩
  · cases created

theorem createInvitation_ok {now : Nat} {conversationId actorId targetId : Uuid} {expiresAt : Nat}
    {store next : Store}
    (created : createInvitation now conversationId actorId targetId expiresAt store = .ok next) :
    store.hasConversation conversationId = true ∧
      next = { store with
        invitations := store.invitations ++
          [{ id := store.nextId, conversationId, actorId, targetId, expiresAt, createdAt := now }]
        nextId := store.nextId + 1 } := by
  unfold createInvitation at created
  split at created
  · rename_i present
    simp only [Bool.and_eq_true] at present
    exact ⟨present.1.1, (Except.ok.inj created).symm⟩
  · cases created

theorem findById_some {store : Store} {id : Uuid} {conversation : Conversation}
    (found : findById store id = some conversation) :
    conversation ∈ store.conversations ∧ conversation.id = id :=
  lookup_mem Conversation.id found

theorem hasConversation_iff {store : Store} {conversationId : Uuid} :
    store.hasConversation conversationId = true ↔
      ∃ conversation ∈ store.conversations, conversation.id = conversationId := by
  simp [Store.hasConversation]

theorem existsMember_eq_false {store : Store} {conversationId userId : Uuid}
    (absent : existsMember store conversationId userId = false) {member : ConversationMember}
    (found : findMember store conversationId userId = some member) :
    member.softDeletedAt.isSome = true := by
  obtain ⟨inside, conversation, user⟩ := findMember_some found
  have deleted := List.any_eq_false.mp absent member inside
  rw [conversation, user] at deleted
  cases date : member.softDeletedAt with
  | none => simp [date] at deleted
  | some time => rfl

end Messinger
