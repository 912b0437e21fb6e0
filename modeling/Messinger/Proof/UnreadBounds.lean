import Messinger.Proof.UnreadCounts

namespace Messinger
open Library ConversationMemberRepository ConversationRepository ConversationService MessageService
  MessageDeliveryRepository StorageService

/-- No member has a higher counter than unread messages. -/
def CountersBounded (store : Store) : Prop :=
  ∀ member ∈ store.members, member.unreadCount ≤ unreadIn store member.conversationId member.userId

/-- A deletion takes from each member no more unread messages than its counter leaves out. -/
def SparesCounted (store : Store) (doomed : Message → Bool) : Prop :=
  ∀ member ∈ store.members,
    member.unreadCount + unreadAmong store doomed member.conversationId member.userId ≤
      unreadIn store member.conversationId member.userId

/-- A confirmation for another conversation takes one unread message, and a deletion takes those that it names. -/
def KeepsBound (store : Store) (action : Env × RetentionCall) : Prop :=
  match action.2 with
  | .user (.confirmDelivery reader dto) =>
      dto.status = .read → action.1.succeeds 0 = true → action.1.succeeds 1 = true →
        isUnread store reader dto.messageId = true → ∀ member ∈ store.members, member.userId = reader →
        member.conversationId ≠ dto.conversationId → store.owns member.conversationId dto.messageId = true →
          member.unreadCount < unreadIn store member.conversationId reader
  | .deleteMessages dto => action.1.succeeds 0 = true → SparesCounted store dto.names
  | .deleteMessagesJob => CleansUp action.1 store → SparesCounted store (tooOld action.1)
  | _ => True

section Bounds
variable {store next : Store}

theorem countersBounded_iff (keys : (store.members.map ConversationMember.key).Nodup) :
    CountersBounded store ↔ ∀ conversationId userId,
      counterOf store conversationId userId ≤ unreadIn store conversationId userId := by
  constructor
  · intro bounded conversationId userId
    unfold counterOf
    cases found : findMember store conversationId userId with
    | none => exact Nat.zero_le _
    | some member =>
        obtain ⟨inside, rfl, rfl⟩ := findMember_some found
        exact bounded member inside
  · intro bounded member inside
    have below := bounded member.conversationId member.userId
    rw [counterOf_of_found (findMember_of_mem keys inside)] at below
    exact below

/-- Counters that follow the deliveries stay bounded. -/
theorem CountersBounded.follow (bounded : CountersBounded store)
    (keys : (store.members.map ConversationMember.key).Nodup)
    (after : (next.members.map ConversationMember.key).Nodup) (follow : CountsFollow store next) :
    CountersBounded next := by
  rw [countersBounded_iff after]
  intro conversationId userId
  cases found : findMember next conversationId userId with
  | none =>
      unfold counterOf
      rw [found]
      exact Nat.zero_le _
  | some member =>
      have present := Option.isSome_of_eq_some found
      rw [follow.counters _ _ present, follow.unread _ _ present]
      exact Nat.add_le_add_right ((countersBounded_iff keys).mp bounded conversationId userId) _

/-- The unread messages are those that a selection takes and those that it leaves. -/
theorem unreadAmong_split (selected : Message → Bool) (conversationId userId : Uuid) :
    unreadAmong store (fun message => !selected message) conversationId userId +
        unreadAmong store selected conversationId userId = unreadIn store conversationId userId := by
  unfold unreadIn unreadAmong
  induction store.messages with
  | nil => rfl
  | cons message rest ih =>
      simp only [List.countP_cons, Bool.and_true] at ih ⊢
      cases message.conversationId == conversationId && isUnread store userId message.id <;> cases selected message <;>
        simp only [Bool.not_true, Bool.not_false, Bool.and_true, Bool.and_false, if_true, Bool.false_eq_true, if_false] <;>
        omega

/-- After a deletion the counters are bounded exactly when it spares what they count. -/
theorem countersBounded_removal (known : MessagesKnown store) {doomed : Message → Bool} {bucket : List StorageKey}
    (removed : next = { store.deleteMessages doomed with bucket }) :
    CountersBounded next ↔ SparesCounted store doomed := by
  have members : next.members = store.members := by rw [removed]; rfl
  have unread (conversationId userId : Uuid) : unreadIn next conversationId userId =
      unreadAmong store (fun message => !doomed message) conversationId userId := by
    rw [← unreadIn_deleteMessages known doomed]
    exact unreadIn_congr (by rw [removed]) (by rw [removed]) conversationId userId
  unfold CountersBounded SparesCounted
  rw [members]
  refine forall₂_congr fun member _ => ?_
  rw [unread, ← unreadAmong_split doomed]
  exact Nat.add_le_add_iff_right.symm

/-- A deletion of nothing takes nothing. -/
theorem CountersBounded.spares (bounded : CountersBounded store) {doomed : Message → Bool}
    (none : ∀ message ∈ store.messages, doomed message = false) : SparesCounted store doomed := by
  intro member inside
  have zero : unreadAmong store doomed member.conversationId member.userId = 0 := by
    unfold unreadAmong
    rw [List.countP_eq_zero]
    intro message present
    simp [none message present]
  rw [zero, Nat.add_zero]
  exact bounded member inside

/-- Counters that do not grow stay bounded when no unread message goes. -/
theorem CountersBounded.mono (bounded : CountersBounded store)
    (keys : (store.members.map ConversationMember.key).Nodup)
    (after : (next.members.map ConversationMember.key).Nodup)
    (counters : ∀ conversationId userId, counterOf next conversationId userId ≤ counterOf store conversationId userId)
    (unread : ∀ conversationId userId, unreadIn store conversationId userId ≤ unreadIn next conversationId userId) :
    CountersBounded next := by
  rw [countersBounded_iff after]
  intro conversationId userId
  calc counterOf next conversationId userId
      ≤ counterOf store conversationId userId := counters conversationId userId
    _ ≤ unreadIn store conversationId userId := (countersBounded_iff keys).mp bounded conversationId userId
    _ ≤ unreadIn next conversationId userId := unread conversationId userId

theorem counterOf_resets_le (place reader conversationId userId : Uuid) :
    counterOf (resetUnreadCount place reader store) conversationId userId ≤ counterOf store conversationId userId := by
  rw [counterOf_resets]
  split
  · exact Nat.zero_le _
  · exact Nat.le_refl _

/-- A status below READ takes no unread message away. -/
theorem unreadIn_le_of_update {matching : MessageDelivery → Bool} {change : MessageDelivery → MessageDelivery}
    (keeps : ∀ row, (change row).messageId = row.messageId ∧ (change row).userId = row.userId)
    (unread : ∀ row, (change row).status ≠ .read) (messages : next.messages = store.messages)
    (changed : next.deliveries = updateWhere matching change store.deliveries) (conversationId userId : Uuid) :
    unreadIn store conversationId userId ≤ unreadIn next conversationId userId := by
  unfold unreadIn unreadAmong
  rw [messages]
  apply List.countP_mono_left
  intro message _ counted
  simp only [Bool.and_true, Bool.and_eq_true] at counted ⊢
  refine ⟨counted.1, ?_⟩
  unfold isUnread at counted ⊢
  obtain ⟨delivery, inside, selected⟩ := List.any_eq_true.mp counted.2
  rw [List.any_eq_true, changed]
  refine ⟨_, mem_updateWhere.mpr ⟨delivery, inside, rfl⟩, ?_⟩
  split
  · simp only [Bool.and_eq_true, beq_iff_eq, bne_iff_ne] at selected ⊢
    rw [(keeps delivery).1, (keeps delivery).2]
    exact ⟨selected.1, unread delivery⟩
  · exact selected

/-- A read delivery leaves the other messages of its user unread, and every message of the others. -/
theorem isUnread_of_read (known : DeliveriesKnown store) {delivery : MessageDelivery}
    (inside : delivery ∈ store.deliveries) {change : MessageDelivery → MessageDelivery}
    (read : ∀ row, (change row).status = .read)
    (changed : next.deliveries = updateWhere (fun row => row.id == delivery.id) change store.deliveries)
    (userId messageId : Uuid) :
    isUnread next userId messageId =
      (isUnread store userId messageId && !(userId == delivery.userId && messageId == delivery.messageId)) := by
  rw [Bool.eq_iff_iff]
  unfold isUnread
  rw [Bool.and_eq_true, List.any_eq_true, List.any_eq_true, changed]
  constructor
  · rintro ⟨row, written, selected⟩
    obtain ⟨old, present, equal⟩ := mem_updateWhere.mp written
    simp only [Bool.and_eq_true, beq_iff_eq, bne_iff_ne] at selected
    obtain ⟨⟨message, user⟩, unread⟩ := selected
    by_cases same : old.id = delivery.id
    · rw [if_pos (beq_iff_eq.mpr same)] at equal
      rw [equal] at unread
      exact absurd (read old) unread
    · rw [if_neg fun equals => same (beq_iff_eq.mp equals)] at equal
      subst equal
      refine ⟨⟨row, present, by simp [message, user, unread]⟩, ?_⟩
      simp only [Bool.not_eq_true', Bool.and_eq_false_iff, beq_eq_false_iff_ne]
      by_contra both
      simp only [not_or, not_not] at both
      have pair : (row.messageId, row.userId) = (delivery.messageId, delivery.userId) := by
        rw [message, user, both.1, both.2]
      exact same (congrArg MessageDelivery.id (List.inj_on_of_nodup_map known.single present inside pair))
  · rintro ⟨⟨row, present, selected⟩, other⟩
    refine ⟨row, mem_updateWhere.mpr ⟨row, present, ?_⟩, selected⟩
    rw [if_neg]
    intro same
    have equal := List.inj_on_of_nodup_map known.distinct present inside (beq_iff_eq.mp same)
    simp only [Bool.and_eq_true, beq_iff_eq] at selected
    rw [← selected.1.1, ← selected.1.2, equal] at other
    simp at other

/-- A message is stored in one conversation, so it is one unread message or none. -/
theorem unreadAmong_single (known : MessagesKnown store) (conversationId userId messageId : Uuid) :
    unreadAmong store (fun message => message.id == messageId) conversationId userId =
      if store.owns conversationId messageId = true ∧ isUnread store userId messageId = true then 1 else 0 := by
  unfold unreadAmong
  split
  · next both =>
      obtain ⟨owned, unread⟩ := both
      obtain ⟨message, inside, place, id⟩ := owns_iff.mp owned
      rw [List.countP_eq_length_filter]
      have single : (store.messages.filter fun message => message.conversationId == conversationId &&
          isUnread store userId message.id && message.id == messageId) = [message] := by
        apply filter_eq_singleton known.distinct.of_map inside
        · simp [place, id, unread]
        · intro other present selected
          simp only [Bool.and_eq_true, beq_iff_eq] at selected
          exact List.inj_on_of_nodup_map known.distinct present inside (selected.2.trans id.symm)
      rw [single]
      rfl
  · next none =>
      rw [List.countP_eq_zero]
      intro message inside selected
      simp only [Bool.and_eq_true, beq_iff_eq] at selected
      obtain ⟨⟨place, unread⟩, id⟩ := selected
      rw [id] at unread
      exact none ⟨owns_iff.mpr ⟨message, inside, place, id⟩, unread⟩

/-- A read confirmation takes one unread message from the conversation that the message is stored in. -/
theorem unreadIn_of_read (messagesKnown : MessagesKnown store) (known : DeliveriesKnown store)
    {delivery : MessageDelivery} (inside : delivery ∈ store.deliveries)
    {change : MessageDelivery → MessageDelivery}
    (read : ∀ row, (change row).status = .read) (messages : next.messages = store.messages)
    (changed : next.deliveries = updateWhere (fun row => row.id == delivery.id) change store.deliveries)
    (conversationId userId : Uuid) :
    unreadIn store conversationId userId = unreadIn next conversationId userId +
      if userId = delivery.userId ∧ store.owns conversationId delivery.messageId = true ∧
          isUnread store delivery.userId delivery.messageId = true then 1 else 0 := by
  have marked := isUnread_of_read known inside read changed
  by_cases same : userId = delivery.userId
  · subst same
    have left : unreadIn next conversationId delivery.userId =
        unreadAmong store (fun message => !(message.id == delivery.messageId)) conversationId delivery.userId := by
      unfold unreadIn unreadAmong
      rw [messages]
      apply List.countP_congr
      intro message _
      rw [marked]
      simp [and_assoc]
    rw [left, ← unreadAmong_split (fun message => message.id == delivery.messageId), unreadAmong_single messagesKnown]
    simp
  · have kept : unreadIn next conversationId userId = unreadIn store conversationId userId := by
      unfold unreadIn unreadAmong
      rw [messages]
      apply List.countP_congr
      intro message _
      rw [marked]
      simp [same]
    rw [kept, if_neg fun both => same both.1, Nat.add_zero]

theorem findByMessageAndUser_some {scan : Nat} {messageId userId : Uuid} {delivery : MessageDelivery}
    (found : findByMessageAndUser scan store messageId userId = some delivery) :
    delivery ∈ store.deliveries ∧ delivery.messageId = messageId ∧ delivery.userId = userId := by
  obtain ⟨inside, selected⟩ := List.mem_filter.mp (pickRow_mem found)
  simp only [Bool.and_eq_true, beq_iff_eq] at selected
  exact ⟨inside, selected⟩

theorem findByMessageAndUser_none {scan : Nat} {messageId userId : Uuid}
    (missing : findByMessageAndUser scan store messageId userId = none) :
    ∀ delivery ∈ store.deliveries, ¬ (delivery.messageId = messageId ∧ delivery.userId = userId) := by
  intro delivery inside own
  have selected : delivery ∈ store.deliveries.filter fun delivery =>
      delivery.messageId == messageId && delivery.userId == userId := by
    rw [List.mem_filter, Bool.and_eq_true, beq_iff_eq, beq_iff_eq]
    exact ⟨inside, own⟩
  obtain ⟨picked, -, found⟩ := pickRow_isSome selected scan
  exact nomatch missing.symm.trans found

/-- A message without a delivery to the user is not unread. -/
theorem isUnread_of_missing {scan : Nat} {messageId userId : Uuid}
    (missing : findByMessageAndUser scan store messageId userId = none) : isUnread store userId messageId = false := by
  unfold isUnread
  rw [List.any_eq_false]
  intro delivery inside selected
  simp only [Bool.and_eq_true, beq_iff_eq] at selected
  exact findByMessageAndUser_none missing delivery inside selected.1

/-- A reset beside a read delivery keeps the bounds exactly when no counted message goes elsewhere. -/
theorem countersBounded_read_iff (bounded : CountersBounded store)
    (keys : (store.members.map ConversationMember.key).Nodup)
    (after : (next.members.map ConversationMember.key).Nodup) {place reader messageId : Uuid}
    (members : next.members = (resetUnreadCount place reader store).members)
    (taken : ∀ conversationId userId, unreadIn store conversationId userId = unreadIn next conversationId userId +
      if userId = reader ∧ store.owns conversationId messageId = true ∧ isUnread store reader messageId = true
      then 1 else 0) :
    CountersBounded next ↔ (isUnread store reader messageId = true → ∀ member ∈ store.members,
      member.userId = reader → member.conversationId ≠ place →
      store.owns member.conversationId messageId = true →
        member.unreadCount < unreadIn store member.conversationId reader) := by
  rw [countersBounded_iff after]
  constructor
  · intro bound unread member present reads other owned
    have below := bound member.conversationId reader
    rw [counterOf_congr members, counterOf_resets, if_neg fun same => other (Prod.mk.inj same).1, ← reads,
      counterOf_of_found (findMember_of_mem keys present), reads] at below
    rw [taken member.conversationId reader, if_pos ⟨rfl, owned, unread⟩]
    exact Nat.lt_succ_of_le below
  · intro condition conversationId userId
    have before := (countersBounded_iff keys).mp bounded conversationId userId
    rw [taken conversationId userId] at before
    rw [counterOf_congr members, counterOf_resets]
    split
    · exact Nat.zero_le _
    · next other =>
        by_cases took : userId = reader ∧ store.owns conversationId messageId = true ∧
            isUnread store reader messageId = true
        · obtain ⟨rfl, owned, unread⟩ := took
          cases row : findMember store conversationId userId with
          | none =>
              unfold counterOf
              rw [row]
              exact Nat.zero_le _
          | some member =>
              obtain ⟨present, rfl, reads⟩ := findMember_some row
              have apart : member.conversationId ≠ place := fun same => other (by rw [same])
              have less := condition unread member present reads apart owned
              rw [taken, if_pos ⟨rfl, owned, unread⟩] at less
              rw [counterOf_of_found row]
              exact Nat.le_of_lt_succ less
        · rw [if_neg took] at before
          exact before

/-- A confirmation keeps the bounds exactly when it takes no counted message from another conversation. -/
theorem countersBounded_confirmDelivery (known : CountsKnown store) (bounded : CountersBounded store) (env : Env)
    (reader : Uuid) (dto : MessageDeliveryDto) (after : CountsKnown (confirmDelivery env reader dto store).2) :
    CountersBounded (confirmDelivery env reader dto store).2 ↔
      KeepsBound store (env, .user (.confirmDelivery reader dto)) := by
  have keys := known.chartered.governed.memberKeys
  have afterKeys := after.chartered.governed.memberKeys
  unfold KeepsBound
  simp only
  obtain ⟨absent, same⟩ | ⟨delivery, found, succeeds, equal⟩ := confirmDelivery_cases env reader dto store
  · refine iff_of_true ?_ ?_
    · rw [same]
      exact bounded
    · intro read arrives _ unread
      obtain none | ⟨-, fails⟩ := absent
      · rw [isUnread_of_missing none] at unread
        cases unread
      · rw [fails] at arrives
        cases arrives
  · obtain ⟨inside, message, user⟩ := findByMessageAndUser_some found
    have messages : (confirmDelivery env reader dto store).2.messages = store.messages := by rw [equal]
    have unconfirmed (fails : env.succeeds 1 = false) (conversationId userId : Uuid) :
        unreadIn store conversationId userId ≤ unreadIn (confirmDelivery env reader dto store).2 conversationId userId := by
      apply Nat.le_of_eq
      symm
      apply unreadIn_congr messages
      rw [equal, fails]
      rfl
    have changed (commits : env.succeeds 1 = true) : (confirmDelivery env reader dto store).2.deliveries =
        updateWhere (fun row => row.id == delivery.id) (confirmed env.now dto.status) store.deliveries := by
      rw [equal, if_pos commits]
    by_cases read : dto.status = .read
    · have members : (confirmDelivery env reader dto store).2.members =
          (resetUnreadCount dto.conversationId reader store).members := by rw [equal, if_pos read]
      cases commits : env.succeeds 1 with
      | false =>
          refine iff_of_true ?_ fun _ _ impossible => by cases impossible
          apply bounded.mono keys afterKeys _ (unconfirmed commits)
          intro conversationId userId
          rw [counterOf_congr members]
          exact counterOf_resets_le dto.conversationId reader conversationId userId
      | true =>
          have marks (row : MessageDelivery) : (confirmed env.now dto.status row).status = .read := by
            simp [confirmed, read]
          have taken := unreadIn_of_read known.messages known.deliveries inside marks messages (changed commits)
          rw [message, user] at taken
          rw [countersBounded_read_iff bounded keys afterKeys members taken]
          exact ⟨fun condition _ _ _ => condition, fun condition => condition read (succeeds read) rfl⟩
    · refine iff_of_true ?_ fun impossible => absurd impossible read
      have members : (confirmDelivery env reader dto store).2.members = store.members := by rw [equal, if_neg read]
      apply bounded.mono keys afterKeys
      · exact fun conversationId userId => Nat.le_of_eq (counterOf_congr members conversationId userId)
      · cases commits : env.succeeds 1 with
        | false => exact unconfirmed commits
        | true =>
            have marks (row : MessageDelivery) : (confirmed env.now dto.status row).status ≠ .read := by
              unfold confirmed
              split <;> exact read
            exact unreadIn_le_of_update (fun row => (confirmed_keeps env.now dto.status row).2) marks messages
              (changed commits)

/-- Every step keeps the bounds exactly when it meets the condition. -/
theorem countersBounded_run_iff (known : CountsKnown store) (bounded : CountersBounded store) (platform : Platform)
    (action : Env × RetentionCall) :
    CountersBounded (runRetentionCall platform store action) ↔ KeepsBound store action := by
  have keys := known.chartered.governed.memberKeys
  have after := known.run platform action
  have afterKeys := after.chartered.governed.memberKeys
  obtain ⟨env, call⟩ := action
  cases call with
  | user call =>
      cases call with
      | conversation call =>
          refine iff_of_true (bounded.follow keys afterKeys ?_) trivial
          exact (runCall_countWrite known.chartered.governed platform (env, call)).follow known.messages known.deliveries
      | createGroupMessage senderId dto =>
          refine iff_of_true (bounded.follow keys afterKeys ?_) trivial
          exact (createGroupMessage_countWrite known.chartered.governed platform env senderId dto).follow known.messages
            known.deliveries
      | confirmDelivery reader dto => exact countersBounded_confirmDelivery known bounded env reader dto after
      | resetUnreadMessagesCount reader place =>
          refine iff_of_true ?_ trivial
          change CountersBounded (resetUnreadMessagesCount env reader place store).2
          have written := resetUnreadMessagesCount_eq env reader place store
          cases commits : env.succeeds 0 with
          | false =>
              rw [written, commits]
              exact bounded
          | true =>
              rw [commits, if_pos rfl] at written
              rw [written]
              apply bounded.mono keys (written ▸ afterKeys) (counterOf_resets_le place reader)
              exact fun conversationId userId => Nat.le_of_eq (unreadIn_congr rfl rfl conversationId userId)
  | deleteMessages dto =>
      change CountersBounded (Controllers.deleteMessages env dto store).2 ↔ _
      unfold KeepsBound
      obtain ⟨nothing, same⟩ | ⟨commits, kept, shape, -⟩ := deleteMessages_shape env dto store
      · refine iff_of_true ?_ ?_
        · rw [same]
          exact bounded
        · intro commits
          obtain aborts | empty := nothing
          · rw [aborts] at commits
            cases commits
          · apply bounded.spares
            intro message _
            simp [DeleteMessagesDto.names, empty]
      · rw [countersBounded_removal known.messages shape]
        exact ⟨fun spares _ => spares, fun condition => condition commits⟩
  | deleteMessagesJob =>
      change CountersBounded (deleteMessagesJob env store) ↔ _
      unfold KeepsBound
      obtain ⟨kept, ⟨young, shape⟩ | ⟨cleans, shape⟩⟩ := deleteMessagesJob_shape env store
      · refine iff_of_true ?_ fun cleans => bounded.spares (young cleans)
        rw [shape]
        exact bounded
      · rw [countersBounded_removal known.messages shape]
        exact ⟨fun spares _ => spares, fun condition => condition cleans⟩

end Bounds

/-- In every run, the counters stay bounded by the unread messages exactly when no step takes a counted message away. -/
theorem counters_bounded_iff (platform : Platform) (users : List User) (pendingUploads : List PendingUpload)
    (bucket : List StorageKey) (nextId : Uuid) (actions : List (Env × RetentionCall)) :
    (∀ position, CountersBounded (stateAt (runRetentionCall platform)
        (emptyStore users pendingUploads bucket nextId) actions position)) ↔
      Meets (runRetentionCall platform) KeepsBound (emptyStore users pendingUploads bucket nextId) actions := by
  apply always_iff_meets _ (fun store => CountsKnown store ∧ CountersBounded store)
  · exact ⟨.empty users pendingUploads bucket nextId, fun _ inside => absurd inside List.not_mem_nil⟩
  · exact fun store invariant => invariant.2
  · intro store action invariant condition
    exact ⟨invariant.1.run platform action, (countersBounded_run_iff invariant.1 invariant.2 platform action).mpr condition⟩
  · intro store action invariant bound
    exact (countersBounded_run_iff invariant.1 invariant.2 platform action).mp bound

/-- The only message of group 10 is deleted while user 2 has not read it. -/
def emptiedRun : List (Env × RetentionCall) :=
  countedRun.take 4 ++ [({ now := 7000000 }, .deleteMessages { conversationId := 10, messagesIds := [14] })]

/-- The counter of user 2 stays at one, and the group has no message left. -/
theorem emptied_group_counts_unread :
    ¬ CountersBounded (stateAt (runRetentionCall plainPlatform)
      (emptyStore ([1, 2].map fun id => { id, role := .user, createdAt := 0 }) [] [] 10) emptiedRun 5) := by
  unfold CountersBounded
  decide

end Messinger
