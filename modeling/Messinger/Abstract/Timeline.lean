import Mathlib.Data.List.MinMax
import Mathlib.Data.List.Sort
import Messinger.Library.Walk

namespace Messinger
open Library

/-- These are the latest times, at most the given number of them. -/
def latest (count : Nat) (times : List Nat) : List Nat :=
  (times.insertionSort fun first second => second ≤ first).take count

/-- These are the earliest times, at most the given number of them. -/
def earliest (count : Nat) (times : List Nat) : List Nat :=
  (times.insertionSort fun first second => first ≤ second).take count

/-- Two kinds of entries share one history, and only their times matter. -/
structure Timeline where
  messages : List Nat
  events : List Nat

/-- The cursor names an entry of one of the two kinds. -/
inductive Place where
  | message (time : Nat)
  | event (time : Nat)
  deriving DecidableEq

namespace Timeline
variable (limit : Nat) (line : Timeline)

/-- A message cursor cuts the messages only, and the window holds the latest of them. -/
def shownMessages : Option Place → List Nat
  | some (.message time) => latest (limit + 1) (line.messages.filter (· < time))
  | _ => latest (limit + 1) line.messages

/-- An event cursor cuts the events only, and the window holds the earliest of them. -/
def shownEvents : Option Place → List Nat
  | some (.event time) => earliest (limit + 1) (line.events.filter (· < time))
  | _ => earliest (limit + 1) line.events

/-- The earlier of the two times becomes the cursor, and a message wins a tie. -/
def earlier : Option Nat → Option Nat → Option Place
  | some message, some event => some (if message ≤ event then .message message else .event event)
  | some message, none => some (.message message)
  | none, some event => some (.event event)
  | none, none => none

/-- The walk goes on while a window holds more entries than the limit. -/
def next (cursor : Option Place) : Option Place :=
  if limit < (line.shownMessages limit cursor).length + (line.shownEvents limit cursor).length then
    earlier (line.shownMessages limit cursor).min? (line.shownEvents limit cursor).min?
  else none

/-- These are the messages before the first window. -/
def unseen : List Nat :=
  match (latest (limit + 1) line.messages).min? with
  | none => []
  | some time => line.messages.filter (· < time)

/-- The condition under which the walk ends. -/
def Finishes : Prop :=
  line.events = [] ∨ line.messages.length ≤ limit ∨
    (line.events.length ≤ limit ∧
      ((line.unseen limit).length + line.events.length ≤ limit ∨
        ∃ time ∈ latest (limit + 1) (line.unseen limit), ∀ event ∈ line.events, time ≤ event))

end Timeline

theorem length_latest (count : Nat) (times : List Nat) :
    (latest count times).length = min count times.length := by
  rw [latest, List.length_take, List.length_insertionSort]

theorem length_earliest (count : Nat) (times : List Nat) :
    (earliest count times).length = min count times.length := by
  rw [earliest, List.length_take, List.length_insertionSort]

theorem mem_of_mem_latest {count : Nat} {times : List Nat} {time : Nat}
    (inside : time ∈ latest count times) : time ∈ times :=
  (List.mem_insertionSort _).mp (List.mem_of_mem_take inside)

theorem latest_nil (count : Nat) : latest count [] = [] := by
  rw [latest, List.insertionSort_nil, List.take_nil]

theorem earliest_nil (count : Nat) : earliest count [] = [] := by
  rw [earliest, List.insertionSort_nil, List.take_nil]

theorem mem_latest_of_length_le {count : Nat} {times : List Nat} (fits : times.length ≤ count) {time : Nat} :
    time ∈ latest count times ↔ time ∈ times := by
  rw [latest, List.take_of_length_le (by rw [List.length_insertionSort]; exact fits),
    List.mem_insertionSort]

/-- The earliest times keep the minimum. -/
theorem earliest_min? (count : Nat) (times : List Nat) :
    (earliest (count + 1) times).min? = times.min? := by
  have ordered := List.pairwise_insertionSort (fun first second : Nat => first ≤ second) times
  have same : ∀ time, time ∈ times.insertionSort (fun first second => first ≤ second) ↔ time ∈ times :=
    fun time => List.mem_insertionSort _
  unfold earliest
  cases sorted : times.insertionSort fun first second => first ≤ second with
  | nil =>
      rw [sorted] at same
      have empty : times = [] := List.eq_nil_iff_forall_not_mem.mpr fun time inside =>
        List.not_mem_nil ((same time).mpr inside)
      rw [empty]
      rfl
  | cons first rest =>
      rw [sorted] at ordered same
      have least : ∀ time ∈ first :: rest, first ≤ time := by
        intro time inside
        obtain rfl | later := List.mem_cons.mp inside
        · exact Nat.le_refl _
        · exact (List.pairwise_cons.mp ordered).1 time later
      have shown : ((first :: rest).take (count + 1)).min? = some first := by
        rw [List.min?_eq_some_iff]
        exact ⟨List.mem_cons_self, fun time inside => least time (List.mem_of_mem_take inside)⟩
      have whole : times.min? = some first := by
        rw [List.min?_eq_some_iff]
        exact ⟨(same first).mp List.mem_cons_self, fun time inside => least time ((same time).mpr inside)⟩
      rw [shown, whole]

namespace Timeline
variable {limit : Nat} {line : Timeline}

theorem next_eq_none {cursor : Option Place}
    (few : (line.shownMessages limit cursor).length + (line.shownEvents limit cursor).length ≤ limit) :
    line.next limit cursor = none :=
  if_neg (Nat.not_lt_of_le few)

theorem next_of_lt {cursor : Option Place}
    (many : limit < (line.shownMessages limit cursor).length + (line.shownEvents limit cursor).length) :
    line.next limit cursor =
      earlier (line.shownMessages limit cursor).min? (line.shownEvents limit cursor).min? :=
  if_pos many

/-- Every next place is the minimum of one of the windows. -/
theorem next_cases {cursor : Option Place} {place : Place} (goes : line.next limit cursor = some place) :
    (∃ time, place = .message time ∧ (line.shownMessages limit cursor).min? = some time ∧
        ∀ event, (line.shownEvents limit cursor).min? = some event → time ≤ event) ∨
      ∃ time, place = .event time ∧ (line.shownEvents limit cursor).min? = some time ∧
        ∀ message, (line.shownMessages limit cursor).min? = some message → time < message := by
  unfold next at goes
  split at goes
  · unfold earlier at goes
    split at goes
    · next message event shown present =>
        split at goes <;> cases goes
        · next tie => exact .inl ⟨message, rfl, shown, fun other same => by cases same.symm.trans present; exact tie⟩
        · next larger =>
            exact .inr ⟨event, rfl, present, fun other same => by
              cases same.symm.trans shown
              exact Nat.lt_of_not_le larger⟩
    · next message shown absent =>
        cases goes
        exact .inl ⟨message, rfl, shown, fun other same => by cases same.symm.trans absent⟩
    · next event absent present =>
        cases goes
        exact .inr ⟨event, rfl, present, fun other same => by cases same.symm.trans absent⟩
    · cases goes
  · cases goes

/-- More entries than the limit leave a place to go to. -/
theorem next_isSome (limit : Nat) (line : Timeline) (cursor : Option Place)
    (many : limit < (line.shownMessages limit cursor).length + (line.shownEvents limit cursor).length) :
    ∃ place, line.next limit cursor = some place := by
  rw [next_of_lt many]
  cases shown : (line.shownMessages limit cursor).min? with
  | some message => cases (line.shownEvents limit cursor).min? <;> exact ⟨_, rfl⟩
  | none =>
      cases present : (line.shownEvents limit cursor).min? with
      | some event => exact ⟨_, rfl⟩
      | none =>
          rw [List.min?_eq_none_iff] at shown present
          rw [shown, present] at many
          exact absurd many (Nat.not_lt_zero limit)

/-- A message cursor leads to an earlier message. -/
theorem lt_of_shown {time other : Nat}
    (least : (line.shownMessages limit (some (.message time))).min? = some other) : other < time := by
  have inside := List.of_mem_filter (mem_of_mem_latest (List.min?_mem least))
  exact of_decide_eq_true inside

/-- Before the earliest event there is no other. -/
theorem shownEvents_first {first : Nat} (least : line.events.min? = some first) :
    line.shownEvents limit (some (.event first)) = [] := by
  have none_before : line.events.filter (· < first) = [] := by
    rw [List.filter_eq_nil_iff]
    intro event inside before
    exact Nat.not_lt_of_le ((List.min?_eq_some_iff.mp least).2 event inside) (of_decide_eq_true before)
  change earliest (limit + 1) (line.events.filter (· < first)) = []
  rw [none_before, earliest_nil]

end Timeline

end Messinger
