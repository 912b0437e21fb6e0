import Mathlib.Data.List.Basic
import Mathlib.Tactic.Common

namespace Library

section Walk
variable {Cursor Answer : Type} (ask : Option Cursor → Answer) (next : Answer → Option Cursor)

/-- The walk asks with the cursor of the last answer, up to a number of answers. -/
def walk : Nat → Option Cursor → List Answer
  | 0, _ => []
  | count + 1, cursor =>
      ask cursor ::
        match next (ask cursor) with
        | none => []
        | some following => walk count (some following)

/-- Every answer of a walk answers some cursor. -/
theorem mem_walk {count : Nat} {cursor : Option Cursor} {answer : Answer}
    (inside : answer ∈ walk ask next count cursor) : ∃ current, answer = ask current := by
  induction count generalizing cursor with
  | zero => cases inside
  | succ count ih =>
      obtain rfl | later := List.mem_cons.mp inside
      · exact ⟨cursor, rfl⟩
      · cases goes : next (ask cursor) with
        | none =>
            rw [goes] at later
            cases later
        | some following =>
            rw [goes] at later
            exact ih later

end Walk

section Ends
variable {Cursor : Type} (step : Option Cursor → Option Cursor)

/-- The steps from a cursor come to an end. -/
inductive Ends : Option Cursor → Prop where
  | last (cursor : Option Cursor) : step cursor = none → Ends cursor
  | more (cursor : Option Cursor) (following : Cursor) :
      step cursor = some following → Ends (some following) → Ends cursor

theorem ends_iff_of_step {cursor : Option Cursor} {following : Cursor}
    (advances : step cursor = some following) : Ends step cursor ↔ Ends step (some following) := by
  constructor
  · intro ends
    cases ends with
    | last _ stops =>
        rw [advances] at stops
        cases stops
    | more _ other goes rest =>
        rw [advances] at goes
        cases goes
        exact rest
  · exact Ends.more cursor following advances

/-- Steps that never leave a set of cursors with a successor do not end. -/
theorem not_ends_of_closed (closed : Option Cursor → Prop)
    (advances : ∀ cursor, closed cursor → ∃ following, step cursor = some following ∧
      closed (some following))
    {cursor : Option Cursor} (inside : closed cursor) : ¬ Ends step cursor := by
  intro ends
  induction ends with
  | last cursor stops =>
      obtain ⟨following, goes, -⟩ := advances cursor inside
      rw [stops] at goes
      cases goes
  | more cursor following goes _ ih =>
      obtain ⟨other, same, kept⟩ := advances cursor inside
      rw [goes] at same
      cases same
      exact ih kept

/-- Steps that stay in a set of cursors and lower a measure end. -/
theorem ends_of_measure (holds : Cursor → Prop) (measure : Cursor → Nat)
    (lowers : ∀ cursor following, holds cursor → step (some cursor) = some following →
      holds following ∧ measure following < measure cursor)
    (cursor : Cursor) (start : holds cursor) : Ends step (some cursor) := by
  induction size : measure cursor using Nat.strongRecOn generalizing cursor with
  | ind bound ih =>
      cases goes : step (some cursor) with
      | none => exact .last _ goes
      | some following =>
          obtain ⟨kept, smaller⟩ := lowers cursor following start goes
          exact .more _ following goes (ih _ (size ▸ smaller) following kept rfl)

/-- Related cursors with related successors end together. -/
theorem ends_iff_of_related {Place : Type} {move : Option Place → Option Place}
    (related : Option Cursor → Option Place → Prop)
    (simulates : ∀ cursor place, related cursor place →
      (step cursor = none ∧ move place = none) ∨
        ∃ following target, step cursor = some following ∧ move place = some target ∧
          related (some following) (some target))
    (cursor : Option Cursor) (place : Option Place) (start : related cursor place) :
    Ends step cursor ↔ Ends move place := by
  constructor
  · intro ends
    induction ends generalizing place with
    | last cursor stops =>
        obtain ⟨-, halts⟩ | ⟨following, target, goes, -⟩ := simulates cursor place start
        · exact .last _ halts
        · rw [stops] at goes
          cases goes
    | more cursor following goes _ ih =>
        obtain ⟨stops, -⟩ | ⟨other, target, same, moves, kept⟩ := simulates cursor place start
        · rw [goes] at stops
          cases stops
        · rw [goes] at same
          cases same
          exact .more _ target moves (ih _ kept)
  · intro ends
    induction ends generalizing cursor with
    | last place halts =>
        obtain ⟨stops, -⟩ | ⟨following, target, -, moves, -⟩ := simulates cursor place start
        · exact .last _ stops
        · rw [halts] at moves
          cases moves
    | more place target moves _ ih =>
        obtain ⟨-, halts⟩ | ⟨following, other, goes, same, kept⟩ := simulates cursor place start
        · rw [moves] at halts
          cases halts
        · rw [moves] at same
          cases same
          exact .more _ following goes (ih _ kept)

/-- The steps end exactly when some walk reaches an answer without a further cursor. -/
theorem ends_iff_walk {Answer : Type} (ask : Option Cursor → Answer) (next : Answer → Option Cursor)
    (cursor : Option Cursor) :
    Ends (fun cursor => next (ask cursor)) cursor ↔
      ∃ count, ∃ answer ∈ walk ask next count cursor, next answer = none := by
  constructor
  · intro ends
    induction ends with
    | last cursor stops => exact ⟨1, ask cursor, List.mem_cons_self, stops⟩
    | more cursor following goes _ ih =>
        obtain ⟨count, answer, inside, stops⟩ := ih
        refine ⟨count + 1, answer, List.mem_cons_of_mem _ ?_, stops⟩
        rw [goes]
        exact inside
  · rintro ⟨count, answer, inside, stops⟩
    induction count generalizing cursor with
    | zero => cases inside
    | succ count ih =>
        obtain rfl | later := List.mem_cons.mp inside
        · exact .last _ stops
        · cases goes : next (ask cursor) with
          | none =>
              rw [goes] at later
              cases later
          | some following =>
              rw [goes] at later
              exact .more _ following goes (ih (some following) later)

end Ends

end Library
