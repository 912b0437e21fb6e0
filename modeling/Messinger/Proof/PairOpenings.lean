import Messinger.Proof.PrivatePairs
import Messinger.Proof.PrivateTurns

namespace Messinger
open Library ConversationMemberRepository ConversationRepository ConversationService MessageService

section Openings
variable {platform : Platform} {first second : Uuid}

def PairOpening.key (platform : Platform) (opening : PairOpening first second) : Text :=
  keyOf platform opening.senderId opening.receiverId

/-- The creation does not depend on the content of a message. -/
def PairOpening.dto (opening : PairOpening first second) : PrivateMessageDto :=
  { receiverId := opening.receiverId, content := [], attachments := [] }

/-- All answers are conversations with one identifier. -/
def AnswersAgree (answers : List (PairOpening first second × Except Exception Conversation)) : Prop :=
  ∃ id, ∀ answer ∈ answers, ∃ conversation, answer.2 = .ok conversation ∧ conversation.id = id

/-- Every call so far has returned or is waiting, and those that have returned agree. -/
structure OpeningsAgree (calls : Nat)
    (progress : Library.Progress (OpeningState first second) (PairOpening first second)) : Prop where
  returned : progress.state.answers.length + progress.pending.length = calls
  agree : AnswersAgree progress.state.answers

/-- The call looks under the key under which the answered calls have looked. -/
def SameKeys (platform : Platform) (opening : PairOpening first second) (state : OpeningState first second) : Prop :=
  ∀ answer ∈ state.answers, answer.1.key platform = opening.key platform

/-- The creation finds the key free and can insert its rows. -/
def OpensFree (platform : Platform) (env : Env) (opening : PairOpening first second) (store : Store) : Prop :=
  findByPrivateKey store (opening.key platform) = none ∧ CanOpen env opening.senderId opening.dto store

/-- A call that returns has used the key of the calls before it, and every creation succeeds. -/
def OpensOnce (platform : Platform)
    (progress : Library.Progress (OpeningState first second) (PairOpening first second)) :
    Turn (PairOpening first second) Env → Prop
  | .call opening => (findByPrivateKey progress.state.store (opening.key platform)).isSome = true →
      SameKeys platform opening progress.state
  | .resume position env => ∀ opening ∈ progress.pending[position]?,
      OpensFree platform env opening progress.state.store ∧ SameKeys platform opening progress.state

/-- Each answer is the conversation that its key finds, and the conversations have their own identifiers. -/
structure AnswersStored (platform : Platform) (state : OpeningState first second) : Prop where
  governed : Governed (fun roster => ∃ owner, SoleHolder roster owner) state.store
  ids : (state.store.conversations.map Conversation.id).Nodup
  found : ∀ answer ∈ state.answers, ∃ conversation, answer.2 = .ok conversation ∧
    findByPrivateKey state.store (answer.1.key platform) = some conversation
  agree : AnswersAgree state.answers

theorem findPrivateConversation_eq (opening : PairOpening first second) (store : Store) :
    findPrivateConversation platform opening.params store =
      (findByPrivateKey store (opening.key platform)).map .ok := by
  have few : ¬ 2 < (normalizeMembers (uuidText opening.senderId) [opening.receiverId]).length := by
    by_cases same : uuidText opening.senderId = opening.receiverId
    · rw [← same, normalizeMembers_same]
      exact Nat.not_lt_of_le (Nat.le_succ 1)
    · rw [normalizeMembers_pair same]
      exact Nat.lt_irrefl 2
  unfold findPrivateConversation PairOpening.params
  simp only
  rw [if_neg few]
  rfl

/-- The unique key lets a row in only while no row has its key. -/
theorem findByPrivateKey_of_saved {now : Nat} {type : ConversationType} {privateKey : Text} {name : Option String}
    {store : Store} {saved : Conversation × Store}
    (inserted : saveConversation now type (some privateKey) name store = .ok saved) :
    findByPrivateKey store privateKey = none := by
  refine (lookup_eq_none Conversation.privateKey).mpr ?_
  intro row inside same
  have taken : (store.conversations.any fun row => row.privateKey == some privateKey) = true :=
    List.any_eq_true.mpr ⟨row, inside, beq_iff_eq.mpr same⟩
  unfold saveConversation at inserted
  rw [if_pos ⟨rfl, taken⟩] at inserted
  cases inserted

/-- This is the state after the creation. -/
def PairOpening.opened (opening : PairOpening first second) (platform : Platform) (now : Nat) (store : Store) : Store :=
  ConversationService.opened now opening.params (some (opening.key platform))
    (normalizeMembers (uuidText opening.senderId) [opening.receiverId]) store

/-- The creation inserts the conversation with its members, or it fails and leaves the store. -/
theorem createPrivateConversation_cases (platform : Platform) {store : Store}
    (governed : Governed (fun roster => ∃ owner, SoleHolder roster owner) store) (env : Env)
    (opening : PairOpening first second) :
    (¬ OpensFree platform env opening store ∧
        ∃ exception, createPrivateConversation platform env opening.params store = (.error exception, store)) ∨
      OpensFree platform env opening store ∧
        createPrivateConversation platform env opening.params store =
          (.ok (newConversation env.now .privateType (some (opening.key platform)) store.nextId),
            opening.opened platform env.now store) ∧
        Governed (fun roster => ∃ owner, SoleHolder roster owner) (opening.opened platform env.now store) := by
  have calls : createPrivateConversation platform env opening.params store =
      transaction (env.succeeds 0) store (createConversation env.now (privateMessageParams opening.senderId opening.dto)
        (some (opening.key platform)) (normalizeMembers (uuidText opening.senderId) [opening.receiverId])) := rfl
  rw [calls]
  have succeeds := createConversation_succeeds governed env.now opening.senderId opening.dto (opening.key platform)
  cases done : createConversation env.now (privateMessageParams opening.senderId opening.dto)
      (some (opening.key platform)) (normalizeMembers (uuidText opening.senderId) [opening.receiverId]) store with
  | error exception =>
      refine .inl ⟨?_, exception, by rw [transaction, done]⟩
      rintro ⟨missing, -, sender, receiver, spelled⟩
      obtain ⟨result, inserted⟩ := (succeeds missing).mpr ⟨sender, receiver, newUsers_nodup.mpr spelled⟩
      cases done.symm.trans inserted
  | ok pair =>
      obtain ⟨conversation, next⟩ := pair
      cases commits : env.succeeds 0 with
      | false =>
          refine .inl ⟨?_, .failedCall, by rw [transaction, done]; rfl⟩
          rintro ⟨-, aborts, -⟩
          rw [commits] at aborts
          cases aborts
      | true =>
          have missing : findByPrivateKey store (opening.key platform) = none := by
            obtain ⟨⟨saved, between⟩, inserted, -⟩ := ok_of_bind done
            exact findByPrivateKey_of_saved inserted
          obtain ⟨sender, receiver, distinct⟩ := (succeeds missing).mp ⟨_, done⟩
          obtain ⟨rfl, rfl, keys⟩ := createConversation_ok done
          refine .inr ⟨⟨missing, commits, sender, receiver, newUsers_nodup.mp distinct⟩, by rw [transaction, done]; rfl, ?_⟩
          exact governed.opened env.now opening.params rfl _ _ keys

theorem opening_cases (platform : Platform) (state : OpeningState first second) (opening : PairOpening first second) :
    (∃ conversation, findByPrivateKey state.store (opening.key platform) = some conversation ∧
        (openingSystem platform first second).start state opening =
          ({ state with answers := state.answers ++ [(opening, .ok conversation)] }, none)) ∨
      findByPrivateKey state.store (opening.key platform) = none ∧
        (openingSystem platform first second).start state opening = (state, some opening) := by
  unfold openingSystem
  simp only [findPrivateConversation_eq]
  cases findByPrivateKey state.store (opening.key platform) with
  | none => exact .inr ⟨rfl, rfl⟩
  | some conversation => exact .inl ⟨conversation, rfl, rfl⟩

/-- Every call so far has its answer or is waiting for its creation. -/
theorem answers_counted (store : Store) (turns : List (Turn (PairOpening first second) Env)) (position : Nat) :
    (stateAt (openingSystem platform first second).advance ⟨⟨store, []⟩, []⟩ turns position).state.answers.length +
        (stateAt (openingSystem platform first second).advance ⟨⟨store, []⟩, []⟩ turns position).pending.length =
      callsBefore turns position := by
  have counted := (openingSystem platform first second).calls_counted (fun state => state.answers.length) ?_ ?_
    ⟨store, []⟩ turns position
  · exact counted.trans (Nat.zero_add _)
  · intro state opening
    obtain ⟨conversation, -, answered⟩ | ⟨-, waits⟩ := opening_cases platform state opening
    · rw [answered]
      exact List.length_append
    · rw [waits]
      rfl
  · intro state opening env
    exact List.length_append

section Agreement
variable {answers : List (PairOpening first second × Except Exception Conversation)}

theorem answersAgree_concat {opening : PairOpening first second} {conversation : Conversation} :
    AnswersAgree (answers ++ [(opening, .ok conversation)]) ↔
      ∀ answer ∈ answers, ∃ other, answer.2 = .ok other ∧ other.id = conversation.id := by
  constructor
  · rintro ⟨id, agree⟩ answer inside
    obtain ⟨last, same, place⟩ := agree _ (List.mem_append_right _ (List.mem_singleton_self _))
    cases same
    rw [place]
    exact agree answer (List.mem_append_left _ inside)
  · intro agree
    refine ⟨conversation.id, ?_⟩
    intro answer inside
    obtain old | new := List.mem_append.mp inside
    · exact agree answer old
    · cases List.mem_singleton.mp new
      exact ⟨conversation, rfl, rfl⟩

theorem not_answersAgree_failed {opening : PairOpening first second} {exception : Exception} :
    ¬ AnswersAgree (answers ++ [(opening, .error exception)]) := by
  rintro ⟨id, agree⟩
  obtain ⟨last, same, -⟩ := agree _ (List.mem_append_right _ (List.mem_singleton_self _))
  cases same

end Agreement

namespace AnswersStored
variable {state : OpeningState first second} (stored : AnswersStored platform state) {opening : PairOpening first second}
include stored

/-- Two keys find one conversation exactly when they are the same. -/
theorem sameKeys_iff {conversation : Conversation}
    (found : findByPrivateKey state.store (opening.key platform) = some conversation) :
    (∀ answer ∈ state.answers, ∃ other, answer.2 = .ok other ∧ other.id = conversation.id) ↔
      SameKeys platform opening state := by
  constructor
  · intro agree answer inside
    obtain ⟨other, same, place⟩ := agree answer inside
    obtain ⟨earlier, answered, listed⟩ := stored.found answer inside
    obtain rfl := Except.ok.inj (same.symm.trans answered)
    obtain ⟨present, key⟩ := lookup_mem Conversation.privateKey found
    obtain ⟨old, oldKey⟩ := lookup_mem Conversation.privateKey listed
    obtain rfl := List.inj_on_of_nodup_map stored.ids old present place
    exact Option.some.inj (oldKey.symm.trans key)
  · intro keys answer inside
    obtain ⟨earlier, answered, listed⟩ := stored.found answer inside
    rw [keys answer inside, found] at listed
    cases listed
    exact ⟨conversation, answered, rfl⟩

theorem answered {conversation : Conversation}
    (found : findByPrivateKey state.store (opening.key platform) = some conversation)
    (keys : SameKeys platform opening state) :
    AnswersStored platform { state with answers := state.answers ++ [(opening, .ok conversation)] } := by
  refine ⟨stored.governed, stored.ids, ?_, answersAgree_concat.mpr ((stored.sameKeys_iff found).mpr keys)⟩
  intro answer inside
  obtain old | new := List.mem_append.mp inside
  · exact stored.found answer old
  · cases List.mem_singleton.mp new
    exact ⟨conversation, rfl, found⟩

/-- No answer has a key that is free. -/
theorem unanswered (free : findByPrivateKey state.store (opening.key platform) = none)
    (keys : SameKeys platform opening state) : state.answers = [] := by
  refine List.eq_nil_iff_forall_not_mem.mpr ?_
  intro answer inside
  obtain ⟨earlier, -, listed⟩ := stored.found answer inside
  rw [keys answer inside, free] at listed
  cases listed

/-- A new conversation is not the answer of an earlier call. -/
theorem unanswered_of_agree {now : Nat} {privateKey : Option Text}
    (agree : ∀ answer ∈ state.answers, ∃ other, answer.2 = .ok other ∧
      other.id = (newConversation now .privateType privateKey state.store.nextId).id) : state.answers = [] := by
  refine List.eq_nil_iff_forall_not_mem.mpr ?_
  intro answer inside
  obtain ⟨other, same, place⟩ := agree answer inside
  obtain ⟨earlier, answered, listed⟩ := stored.found answer inside
  obtain rfl := Except.ok.inj (same.symm.trans answered)
  have known := stored.governed.conversationsKnown other (lookup_mem Conversation.privateKey listed).1
  exact absurd known (place ▸ Nat.lt_irrefl _)

theorem created {now : Nat}
    (governed : Governed (fun roster => ∃ owner, SoleHolder roster owner) (opening.opened platform now state.store))
    (free : findByPrivateKey state.store (opening.key platform) = none) (none : state.answers = []) :
    AnswersStored platform ⟨opening.opened platform now state.store, state.answers ++
      [(opening, .ok (newConversation now .privateType (some (opening.key platform)) state.store.nextId))]⟩ := by
  have opens : OpensRoom (opening.key platform) (newUsers opening.senderId opening.receiverId) state.store
      (opening.opened platform now state.store) := by
    constructor
    · exact List.map_append
    · exact List.map_append.trans
        (congrArg _ (map_key_newMembers now opening.senderId opening.dto state.store.nextId))
  rw [none]
  refine ⟨governed, opens.ids stored.ids stored.governed.conversationsKnown, ?_, ?_⟩
  · intro answer inside
    cases List.mem_singleton.mp inside
    refine ⟨_, rfl, ?_⟩
    have appended := lookup_append Conversation.privateKey (some (opening.key platform)) state.store.conversations
      [newConversation now .privateType (some (opening.key platform)) state.store.nextId]
    refine appended.trans ?_
    have missing : lookup Conversation.privateKey (some (opening.key platform)) state.store.conversations =
        Option.none := free
    rw [missing, Option.none_or]
    exact List.find?_cons_of_pos (decide_eq_true rfl)
  · exact answersAgree_concat.mpr fun _ inside => absurd inside List.not_mem_nil

/-- The condition keeps the answers together over a turn. -/
theorem advance (pending : List (PairOpening first second)) (turn : Turn (PairOpening first second) Env)
    (once : OpensOnce platform ⟨state, pending⟩ turn) :
    AnswersStored platform ((openingSystem platform first second).advance ⟨state, pending⟩ turn).state := by
  cases turn with
  | call opening =>
      rw [Cooperative.advance_call]
      obtain ⟨conversation, found, answered⟩ | ⟨-, waits⟩ := opening_cases platform state opening
      · rw [answered]
        exact stored.answered found (once (by rw [found]; rfl))
      · rw [waits]
        exact stored
  | resume place env =>
      cases waits : pending[place]? with
      | none =>
          rw [Cooperative.advance_resume_absent _ waits]
          exact stored
      | some opening =>
          obtain ⟨opens, keys⟩ := once opening waits
          rw [Cooperative.advance_resume _ waits]
          obtain ⟨fails, -⟩ | ⟨-, creates, governed⟩ :=
            createPrivateConversation_cases platform stored.governed env opening
          · exact absurd opens fails
          · have advanced := stored.created governed opens.1 (stored.unanswered opens.1 keys)
            have resumed : ((openingSystem platform first second).resume state opening env).1 =
                ⟨(createPrivateConversation platform env opening.params state.store).2, state.answers ++
                  [(opening, (createPrivateConversation platform env opening.params state.store).1)]⟩ := rfl
            rw [creates] at resumed
            rw [← resumed] at advanced
            exact advanced

/-- A turn that breaks the condition breaks the agreement. -/
theorem opensOnce (pending : List (PairOpening first second)) (turn : Turn (PairOpening first second) Env)
    (agree : AnswersAgree ((openingSystem platform first second).advance ⟨state, pending⟩ turn).state.answers) :
    OpensOnce platform ⟨state, pending⟩ turn := by
  cases turn with
  | call opening =>
      intro present
      simp only [Cooperative.advance_call, waiting] at agree
      obtain ⟨conversation, found, answered⟩ | ⟨free, -⟩ := opening_cases platform state opening
      · rw [answered] at agree
        exact (stored.sameKeys_iff found).mp (answersAgree_concat.mp agree)
      · rw [free] at present
        cases present
  | resume place env =>
      intro opening waits
      rw [Cooperative.advance_resume _ waits] at agree
      have answers : ((openingSystem platform first second).resume state opening env).1.answers =
          state.answers ++ [(opening, (createPrivateConversation platform env opening.params state.store).1)] := rfl
      have agreed : AnswersAgree ((openingSystem platform first second).resume state opening env).1.answers := agree
      rw [answers] at agreed
      obtain ⟨-, exception, failed⟩ | ⟨opens, creates, -⟩ :=
        createPrivateConversation_cases platform stored.governed env opening
      · rw [failed] at agreed
        exact absurd agreed not_answersAgree_failed
      · refine ⟨opens, ?_⟩
        rw [creates] at agreed
        have none := stored.unanswered_of_agree (answersAgree_concat.mp agreed)
        intro answer inside
        rw [none] at inside
        exact absurd inside List.not_mem_nil

end AnswersStored

theorem ids_runPairCall {store : Store} (governed : Governed (fun roster => ∃ owner, SoleHolder roster owner) store)
    (distinct : (store.conversations.map Conversation.id).Nodup) (action : Env × PairCall) :
    ((runPairCall platform store action).conversations.map Conversation.id).Nodup := by
  obtain ⟨env, call⟩ := action
  cases call with
  | createPrivateMessage senderId dto accepted =>
      obtain ⟨-, -, opened⟩ | ⟨-, same⟩ := createPrivateMessage_rooms governed platform env senderId dto
      · exact opened.ids distinct governed.conversationsKnown
      · exact same.ids distinct
  | deletePrivateConversation userId conversationId =>
      obtain same | dropped := deletePrivateConversation_rooms env userId conversationId store
      · exact same.ids distinct
      · exact dropped.ids distinct
  | leaveGroup userId conversationId => exact (sameRooms_leaveGroup env userId conversationId store).ids distinct

/-- The stores that the calls on private conversations reach have distinct conversations. -/
theorem answersStored_history (users : List User) (pendingUploads : List PendingUpload) (bucket : List StorageKey)
    (nextId : Uuid) (history : List (Env × PairCall)) :
    AnswersStored platform
      (⟨history.foldl (runPairCall platform) (emptyStore users pendingUploads bucket nextId), []⟩ :
        OpeningState first second) := by
  have reached := run_invariant (runPairCall platform)
    (fun store => Governed (fun roster => ∃ owner, SoleHolder roster owner) store ∧
      (store.conversations.map Conversation.id).Nodup) ?_ history
    (emptyStore users pendingUploads bucket nextId)
    ⟨governed_emptyStore soleHolder_office users pendingUploads bucket nextId, List.nodup_nil⟩
  · refine ⟨reached.1, reached.2, ?_, ⟨nextId, ?_⟩⟩
    · exact fun _ inside => absurd inside List.not_mem_nil
    · exact fun _ inside => absurd inside List.not_mem_nil
  · rintro store action ⟨governed, distinct⟩
    exact ⟨governed.run platform (action.1, action.2.call), ids_runPairCall governed distinct action⟩

theorem AnswersStored.agree_iff {store : Store}
    (stored : AnswersStored platform (⟨store, []⟩ : OpeningState first second))
    (turns : List (Turn (PairOpening first second) Env)) :
    (∀ position, AnswersAgree
        (stateAt (openingSystem platform first second).advance ⟨⟨store, []⟩, []⟩ turns position).state.answers) ↔
      Meets (openingSystem platform first second).advance (OpensOnce platform) ⟨⟨store, []⟩, []⟩ turns :=
  always_iff_meets (openingSystem platform first second).advance
    (fun progress => AnswersStored platform progress.state) (fun progress => AnswersAgree progress.state.answers)
    stored (fun _ stored => stored.agree) (fun progress turn stored => stored.advance progress.pending turn)
    (fun progress turn stored => stored.opensOnce progress.pending turn)

/-- Every call returns and all answers are one conversation exactly when each creation succeeds and each call
that returns uses the key of the calls before it. -/
theorem openings_agree_iff (platform : Platform) (first second : Uuid) (users : List User)
    (pendingUploads : List PendingUpload) (bucket : List StorageKey) (nextId : Uuid)
    (history : List (Env × PairCall)) (turns : List (Turn (PairOpening first second) Env)) :
    (∀ position, OpeningsAgree (callsBefore turns position)
        (stateAt (openingSystem platform first second).advance
          ⟨⟨history.foldl (runPairCall platform) (emptyStore users pendingUploads bucket nextId), []⟩, []⟩
          turns position)) ↔
      Meets (openingSystem platform first second).advance (OpensOnce platform)
        ⟨⟨history.foldl (runPairCall platform) (emptyStore users pendingUploads bucket nextId), []⟩, []⟩ turns := by
  have stored : AnswersStored platform (⟨history.foldl (runPairCall platform)
      (emptyStore users pendingUploads bucket nextId), []⟩ : OpeningState first second) :=
    answersStored_history users pendingUploads bucket nextId history
  rw [← stored.agree_iff turns]
  constructor
  · exact fun agrees position => (agrees position).agree
  · exact fun agrees position => ⟨answers_counted _ turns position, agrees position⟩

end Openings

/-- Both users look for their conversation before one of them creates it. -/
def racedOpenings : List (Turn (PairOpening 0x4000800000000000000a 0x4000800000000000000b) Env) :=
  [.call ⟨0x4000800000000000000a, uuidText 0x4000800000000000000b, by decide, by decide⟩,
    .call ⟨0x4000800000000000000b, uuidText 0x4000800000000000000a, by decide, by decide⟩,
    .resume 0 { now := 1 }, .resume 0 { now := 2 }]

/-- The unique key fails the second creation, and its call throws. -/
theorem raced_opening_fails :
    ¬ ∀ position, OpeningsAgree (callsBefore racedOpenings position)
      (stateAt (openingSystem plainPlatform 0x4000800000000000000a 0x4000800000000000000b).advance
        ⟨⟨pairStore, []⟩, []⟩ racedOpenings position) := by
  intro agrees
  obtain ⟨id, agree⟩ := (agrees 4).agree
  have failed : ∃ answer ∈ (stateAt (openingSystem plainPlatform 0x4000800000000000000a
      0x4000800000000000000b).advance ⟨⟨pairStore, []⟩, []⟩ racedOpenings 4).state.answers,
      answer.2.toOption = none := by
    decide
  obtain ⟨answer, inside, threw⟩ := failed
  obtain ⟨conversation, same, -⟩ := agree answer inside
  rw [same] at threw
  cases threw

end Messinger
