import Messinger.Abstract.Timeline

namespace Messinger
open Library

namespace Timeline
variable {limit : Nat} {line : Timeline}

/-- Without events every step goes to an earlier message. -/
theorem ends_of_no_events (absent : line.events = []) : Ends (line.next limit) none := by
  have shown : ∀ cursor, line.shownEvents limit cursor = [] := by
    intro cursor
    unfold shownEvents
    rw [absent]
    split <;> exact earliest_nil _
  have later : ∀ time, Ends (line.next limit) (some (.message time)) := by
    intro time
    apply ends_of_measure (line.next limit) (fun place => ∃ time, place = .message time)
      fun place => match place with
        | .message time => time
        | .event time => time
    · rintro _ following ⟨time, rfl⟩ goes
      obtain ⟨other, rfl, least, -⟩ | ⟨other, rfl, least, -⟩ := next_cases goes
      · exact ⟨⟨other, rfl⟩, lt_of_shown least⟩
      · rw [shown] at least
        cases least
    · exact ⟨time, rfl⟩
  cases goes : line.next limit none with
  | none => exact .last _ goes
  | some place =>
      obtain ⟨time, rfl, -, -⟩ | ⟨time, -, least, -⟩ := next_cases goes
      · exact .more _ _ goes (later time)
      · rw [shown] at least
        cases least

/-- A window that shows every message ends the walk after three steps. -/
theorem ends_of_few_messages (few : line.messages.length ≤ limit) : Ends (line.next limit) none := by
  have fromEvent : ∀ time, line.events.min? = some time →
      Ends (line.next limit) (some (.event time)) := by
    intro time least
    apply Ends.last
    apply next_eq_none
    rw [shownEvents_first least, List.length_nil, Nat.add_zero]
    change (latest (limit + 1) line.messages).length ≤ limit
    rw [length_latest]
    exact Nat.le_trans (Nat.min_le_right _ _) few
  have fromMessage : ∀ time, (∀ message ∈ line.messages, time ≤ message) →
      Ends (line.next limit) (some (.message time)) := by
    intro time least
    have empty : line.shownMessages limit (some (.message time)) = [] := by
      have none_before : line.messages.filter (· < time) = [] := by
        rw [List.filter_eq_nil_iff]
        intro message inside before
        exact Nat.not_lt_of_le (least message inside) (of_decide_eq_true before)
      change latest (limit + 1) (line.messages.filter (· < time)) = []
      rw [none_before, latest_nil]
    cases goes : line.next limit (some (.message time)) with
    | none => exact .last _ goes
    | some place =>
        obtain ⟨other, -, least, -⟩ | ⟨other, rfl, least, -⟩ := next_cases goes
        · rw [empty] at least
          cases least
        · refine .more _ _ goes (fromEvent other ?_)
          rw [← earliest_min? limit]
          exact least
  cases goes : line.next limit none with
  | none => exact .last _ goes
  | some place =>
      obtain ⟨time, rfl, least, -⟩ | ⟨time, rfl, least, -⟩ := next_cases goes
      · refine .more _ _ goes (fromMessage time ?_)
        intro message inside
        exact (List.min?_eq_some_iff.mp least).2 message
          ((mem_latest_of_length_le (Nat.le_succ_of_le few)).mpr inside)
      · refine .more _ _ goes (fromEvent time ?_)
        rw [← earliest_min? limit]
        exact least

/-- When both kinds overflow the page, one of the two windows is always full. -/
theorem not_ends_of_overflow (messages : limit < line.messages.length) (events : limit < line.events.length)
    (cursor : Option Place) : ¬ Ends (line.next limit) cursor := by
  apply not_ends_of_closed (line.next limit) (fun _ => True) _ trivial
  intro current _
  have full : limit < (line.shownMessages limit current).length + (line.shownEvents limit current).length := by
    unfold shownMessages shownEvents
    split <;> simp only [length_latest, length_earliest] <;> omega
  obtain ⟨place, goes⟩ := next_isSome limit line _ full
  exact ⟨place, goes, trivial⟩

section Between
variable {first oldest : Nat}

/-- From the earliest event the walk goes back to the first window of messages. -/
theorem next_first_event (many : limit < line.messages.length) (least : line.events.min? = some first)
    (window : (latest (limit + 1) line.messages).min? = some oldest) :
    line.next limit (some (.event first)) = some (.message oldest) := by
  have full : limit < (line.shownMessages limit (some (.event first))).length +
      (line.shownEvents limit (some (.event first))).length := by
    rw [shownEvents_first least]
    change limit < (latest (limit + 1) line.messages).length + 0
    rw [length_latest]
    omega
  rw [next_of_lt full, shownEvents_first least]
  change earlier (latest (limit + 1) line.messages).min? none = _
  rw [window]
  rfl

/-- Below the earliest event the walk goes down from message to message. -/
theorem ends_below_first_event (few : line.events.length ≤ limit) (least : line.events.min? = some first)
    (time : Nat) (below : time ≤ first) : Ends (line.next limit) (some (.message time)) := by
  apply ends_of_measure (line.next limit) (fun place => ∃ time ≤ first, place = .message time)
    fun place => match place with
      | .message time => time
      | .event time => time
  · rintro _ following ⟨current, low, rfl⟩ goes
    obtain ⟨other, rfl, shown, -⟩ | ⟨other, rfl, shown, larger⟩ := next_cases goes
    · have before := lt_of_shown shown
      exact ⟨⟨other, Nat.le_trans (Nat.le_of_lt before) low, rfl⟩, before⟩
    · have same : other = first := by
        have whole := (earliest_min? limit line.events).symm.trans shown
        rw [least] at whole
        exact (Option.some.inj whole).symm
      cases present : (line.shownMessages limit (some (.message current))).min? with
      | some message =>
          have before := lt_of_shown present
          have after := larger message present
          omega
      | none =>
          rw [List.min?_eq_none_iff] at present
          have stops : line.next limit (some (.message current)) = none := by
            apply next_eq_none
            rw [present]
            change 0 + (earliest (limit + 1) line.events).length ≤ limit
            rw [length_earliest]
            omega
          rw [stops] at goes
          cases goes
  · exact ⟨time, below, rfl⟩

/-- The window that follows the first one decides whether the walk comes back to it. -/
theorem ends_oldest_iff (few : line.events.length ≤ limit) (many : limit < line.messages.length)
    (least : line.events.min? = some first)
    (window : (latest (limit + 1) line.messages).min? = some oldest) :
    Ends (line.next limit) (some (.message oldest)) ↔
      (line.unseen limit).length + line.events.length ≤ limit ∨
        ∃ time ∈ latest (limit + 1) (line.unseen limit), ∀ event ∈ line.events, time ≤ event := by
  have rest : line.unseen limit = line.messages.filter (· < oldest) := by
    rw [unseen, window]
  have shownM : line.shownMessages limit (some (.message oldest)) =
      latest (limit + 1) (line.unseen limit) := by
    rw [rest]
    rfl
  have shownE : line.shownEvents limit (some (.message oldest)) = earliest (limit + 1) line.events := rfl
  by_cases small : (line.unseen limit).length + line.events.length ≤ limit
  · refine iff_of_true (.last _ ?_) (.inl small)
    apply next_eq_none
    rw [shownM, shownE, length_latest, length_earliest]
    omega
  · have full : limit < (line.shownMessages limit (some (.message oldest))).length +
        (line.shownEvents limit (some (.message oldest))).length := by
      rw [shownM, shownE, length_latest, length_earliest]
      omega
    obtain ⟨place, goes⟩ := next_isSome limit line _ full
    rw [ends_iff_of_step _ goes, or_iff_right small]
    obtain ⟨time, rfl, shown, tie⟩ | ⟨time, rfl, shown, larger⟩ := next_cases goes
    · rw [shownE, earliest_min?, least] at tie
      have low : time ≤ first := tie first rfl
      rw [shownM] at shown
      refine iff_of_true (ends_below_first_event few least time low) ⟨time, List.min?_mem shown, ?_⟩
      intro event inside
      exact Nat.le_trans low ((List.min?_eq_some_iff.mp least).2 event inside)
    · rw [shownE, earliest_min?, least] at shown
      cases shown
      rw [shownM] at larger
      refine iff_of_false ?_ ?_
      · -- the earliest event and the oldest message of the first window follow each other
        apply not_ends_of_closed (line.next limit)
          (fun cursor => cursor = some (.event first) ∨ cursor = some (.message oldest)) _ (.inl rfl)
        rintro cursor (rfl | rfl)
        · exact ⟨_, next_first_event many least window, .inr rfl⟩
        · exact ⟨_, goes, .inl rfl⟩
      · rintro ⟨time, inside, low⟩
        obtain ⟨message, lowest⟩ := Option.isSome_iff_exists.mp
          (List.isSome_min?_iff.mpr (List.ne_nil_of_mem inside))
        have above := larger message lowest
        have under := (List.min?_eq_some_iff.mp lowest).2 time inside
        have bound := low first (List.min?_mem least)
        omega

end Between

/-- The walk from the start ends exactly when the condition holds. -/
theorem ends_iff_finishes : Ends (line.next limit) none ↔ line.Finishes limit := by
  unfold Finishes
  by_cases absent : line.events = []
  · exact iff_of_true (ends_of_no_events absent) (.inl absent)
  by_cases fewMessages : line.messages.length ≤ limit
  · exact iff_of_true (ends_of_few_messages fewMessages) (.inr (.inl fewMessages))
  rw [or_iff_right absent, or_iff_right fewMessages]
  have many := Nat.lt_of_not_le fewMessages
  by_cases few : line.events.length ≤ limit
  · obtain ⟨first, least⟩ := Option.isSome_iff_exists.mp (List.isSome_min?_iff.mpr absent)
    have nonempty : latest (limit + 1) line.messages ≠ [] := by
      rw [← List.length_pos_iff, length_latest]
      omega
    obtain ⟨oldest, window⟩ := Option.isSome_iff_exists.mp (List.isSome_min?_iff.mpr nonempty)
    rw [← ends_oldest_iff few many least window, iff_true_intro few, true_and]
    have full : limit < (line.shownMessages limit none).length + (line.shownEvents limit none).length := by
      change limit < (latest (limit + 1) line.messages).length + (earliest (limit + 1) line.events).length
      rw [length_latest, length_earliest]
      omega
    obtain ⟨place, goes⟩ := next_isSome limit line _ full
    rw [ends_iff_of_step _ goes]
    obtain ⟨time, rfl, shown, -⟩ | ⟨time, rfl, shown, -⟩ := next_cases goes
    · rw [Option.some.inj (shown.symm.trans window)]
    · rw [Option.some.inj (shown.symm.trans ((earliest_min? limit line.events).trans least))]
      exact ends_iff_of_step _ (next_first_event many least window)
  · refine iff_of_false (not_ends_of_overflow many (Nat.lt_of_not_le few) none) ?_
    exact fun finishes => few finishes.1

end Timeline

end Messinger
