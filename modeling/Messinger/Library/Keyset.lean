import Mathlib.Data.List.Sort
import Messinger.Library.Walk

namespace Library

section Sorting
variable {Row : Type} (order : Row → Row → Prop) [DecidableRel order] (kept : Row → Bool)

/-- A row is inserted at the same place when other rows are left out. -/
theorem filter_orderedInsert (transitive : ∀ first second third, order first second →
    order second third → order first third) (row : Row) {rows : List Row} (sorted : rows.Pairwise order) :
    (rows.orderedInsert order row).filter kept =
      if kept row then (rows.filter kept).orderedInsert order row else rows.filter kept := by
  induction sorted with
  | nil => cases picked : kept row <;> simp [picked]
  | @cons head rest later _ ih =>
      by_cases before : order row head
      · have front : ∀ other ∈ (head :: rest).filter kept, order row other := by
          intro other inside
          obtain rfl | deeper := List.mem_cons.mp (List.mem_of_mem_filter inside)
          · exact before
          · exact transitive row head other before (later other deeper)
        rw [List.orderedInsert_cons_of_le order rest before, List.filter_cons]
        split
        · cases left : (head :: rest).filter kept with
          | nil => rfl
          | cons first others =>
              rw [left] at front
              rw [List.orderedInsert_cons_of_le order others (front first List.mem_cons_self)]
        · rfl
      · rw [List.orderedInsert_of_not_le order rest before, List.filter_cons, ih, List.filter_cons]
        cases keptHead : kept head <;> cases keptRow : kept row
        · rfl
        · rfl
        · rfl
        · simp only [if_true]
          rw [List.orderedInsert_of_not_le order _ before]

/-- Sorting the rows that are kept is keeping rows of the sorted list. -/
theorem filter_insertionSort (total : ∀ first second, order first second ∨ order second first)
    (transitive : ∀ first second third, order first second → order second third → order first third)
    (rows : List Row) :
    (rows.filter kept).insertionSort order = (rows.insertionSort order).filter kept := by
  have : Std.Total order := ⟨total⟩
  have : IsTrans Row order := ⟨transitive⟩
  induction rows with
  | nil => rfl
  | cons row rest ih =>
      rw [List.insertionSort_cons,
        filter_orderedInsert order kept transitive row (List.pairwise_insertionSort order rest), ← ih,
        List.filter_cons]
      split <;> rfl

end Sorting

section Boundaries
variable {Row : Type} (follows : Row → Row → Bool)

/-- Behind every full page stands a row that follows the last row of the page. -/
def Joined (size : Nat) (rows : List Row) : Prop :=
  ∀ count last following, rows[(count + 1) * size - 1]? = some last →
    rows[(count + 1) * size]? = some following → follows last following = true

/-- Behind a row that follows there are only rows that follow too. -/
structure Onward (rows : List Row) : Prop where
  irreflexive : ∀ row, follows row row = false
  transitive : ∀ first second third, follows first second = true → follows second third = true →
    follows first third = true
  onward : rows.Pairwise fun first second => ∀ last, follows last first = true → follows last second = true

variable {follows} {size : Nat} {rows : List Row}

theorem joined_of_short (short : rows.length ≤ size) : Joined follows size rows := by
  intro count last following _ behind
  have inside : (count + 1) * size < rows.length := (List.getElem?_eq_some_iff.mp behind).1
  have least : size ≤ (count + 1) * size := Nat.le_mul_of_pos_left size (Nat.succ_pos count)
  omega

/-- There are no more boundaries than rows. -/
theorem joined_iff_bounded :
    Joined follows size rows ↔ ∀ count ≤ rows.length, ∀ last ∈ rows[(count + 1) * size - 1]?,
      ∀ following ∈ rows[(count + 1) * size]?, follows last following = true := by
  constructor
  · exact fun joined count _ last before following behind => joined count last following before behind
  · intro bounded count last following before behind
    cases size with
    | zero =>
        rw [Nat.mul_zero] at before behind
        exact bounded 0 (Nat.zero_le _) last before following behind
    | succ size =>
        have inside : (count + 1) * (size + 1) < rows.length := (List.getElem?_eq_some_iff.mp behind).1
        have least : count + 1 ≤ (count + 1) * (size + 1) := Nat.le_mul_of_pos_right _ (Nat.succ_pos size)
        exact bounded count (by omega) last before following behind

instance : Decidable (Joined follows size rows) := decidable_of_iff' _ joined_iff_bounded

/-- The pages are joined when the first one is, and the later ones are. -/
theorem joined_iff_drop (positive : 0 < size) :
    Joined follows size rows ↔
      (∀ last following, rows[size - 1]? = some last → rows[size]? = some following →
        follows last following = true) ∧ Joined follows size (rows.drop size) := by
  have shifted : ∀ count, size + ((count + 1) * size - 1) = (count + 1 + 1) * size - 1 := by
    intro count
    have more : (count + 1 + 1) * size = (count + 1) * size + size := Nat.succ_mul (count + 1) size
    have least : size ≤ (count + 1) * size := Nat.le_mul_of_pos_left size (Nat.succ_pos count)
    omega
  have stepped : ∀ count, size + (count + 1) * size = (count + 1 + 1) * size := by
    intro count
    rw [Nat.succ_mul (count + 1) size, Nat.add_comm]
  constructor
  · intro joined
    constructor
    · intro last following before behind
      refine joined 0 last following ?_ ?_
      · rw [Nat.zero_add, Nat.one_mul]
        exact before
      · rw [Nat.zero_add, Nat.one_mul]
        exact behind
    · intro count last following before behind
      rw [List.getElem?_drop, shifted] at before
      rw [List.getElem?_drop, stepped] at behind
      exact joined (count + 1) last following before behind
  · rintro ⟨first, later⟩ count last following before behind
    cases count with
    | zero =>
        rw [Nat.zero_add, Nat.one_mul] at before behind
        exact first last following before behind
    | succ count =>
        refine later count last following ?_ ?_
        · rw [List.getElem?_drop, shifted]
          exact before
        · rw [List.getElem?_drop, stepped]
          exact behind

/-- These are the rows that a query finds behind a row. -/
def beyond (follows : Row → Row → Bool) (rows : List Row) : Option Row → List Row
  | none => rows
  | some last => rows.filter (follows last)

/-- In a sorted list the last row of a page stands behind all rows of the page. -/
theorem before_last {before : Row → Row → Prop} (sorted : rows.Pairwise before)
    (reflexive : ∀ row, before row row) {last row : Row} (ends : rows[size - 1]? = some last)
    (inside : row ∈ rows.take size) : before row last := by
  obtain ⟨index, found⟩ := List.mem_iff_getElem?.mp inside
  obtain ⟨bound, value⟩ := List.getElem?_eq_some_iff.mp found
  obtain ⟨final, same⟩ := List.getElem?_eq_some_iff.mp ends
  rw [List.length_take] at bound
  rw [List.getElem_take] at value
  rw [← value, ← same]
  rcases Nat.lt_or_ge index (size - 1) with earlier | later
  · exact List.pairwise_iff_getElem.mp sorted index (size - 1) (by omega) final earlier
  · have equal : index = size - 1 := by omega
    subst equal
    exact reflexive _

/-- A query behind the last row of a page leaves out what stands before the end of the page. -/
theorem filter_drop_of_last (onward : Onward follows rows) {last : Row}
    (ends : rows[size - 1]? = some last) :
    rows.filter (follows last) = (rows.drop size).filter (follows last) := by
  have page : (rows.take size).filter (follows last) = [] := by
    refine List.filter_eq_nil_iff.mpr ?_
    intro row inside follow
    have kept : follows last last = true :=
      before_last onward.onward (fun _ _ same => same) ends inside last follow
    rw [onward.irreflexive last] at kept
    cases kept
  calc rows.filter (follows last)
      = (rows.take size ++ rows.drop size).filter (follows last) := by rw [List.take_append_drop]
    _ = (rows.drop size).filter (follows last) := by rw [List.filter_append, page, List.nil_append]

/-- Rows in descending order of a key go on behind every bound that is not above the key of its own row. -/
theorem Onward.of_keys (key bound : Row → Nat) (below : ∀ row, bound row ≤ key row)
    (sorted : rows.Pairwise fun first second => key second ≤ key first) :
    Onward (fun last row => decide (key row < bound last)) rows where
  irreflexive := fun row => decide_eq_false (Nat.not_lt_of_le (below row))
  transitive := by
    intro first second third one two
    have nearer := of_decide_eq_true one
    have farther := of_decide_eq_true two
    have least := below second
    exact decide_eq_true (by omega)
  onward := by
    refine sorted.imp ?_
    intro first second descends last before
    exact decide_eq_true (Nat.lt_of_le_of_lt descends (of_decide_eq_true before))

theorem Onward.filter (onward : Onward follows rows) (kept : Row → Bool) :
    Onward follows (rows.filter kept) where
  irreflexive := onward.irreflexive
  transitive := onward.transitive
  onward := onward.onward.filter kept

/-- The rows behind the last row of a page are those of the later pages that follow it. -/
theorem beyond_last (onward : Onward follows rows) {anchor : Option Row} {last : Row}
    (ends : (beyond follows rows anchor)[size - 1]? = some last) :
    beyond follows rows (some last) = ((beyond follows rows anchor).drop size).filter (follows last) := by
  cases anchor with
  | none => exact filter_drop_of_last onward ends
  | some previous =>
      have follow : follows previous last = true :=
        List.of_mem_filter (List.mem_of_getElem? ends)
      change rows.filter (follows last) = ((rows.filter (follows previous)).drop size).filter (follows last)
      rw [← filter_drop_of_last (onward.filter (follows previous)) ends, List.filter_filter]
      apply List.filter_congr
      intro row _
      cases behind : follows last row with
      | false => rfl
      | true => rw [onward.transitive previous last row follow behind, Bool.and_self]

/-- All rows behind a joined page follow its last row. -/
theorem filter_eq_self_of_joined (positive : 0 < size) (onward : Onward follows rows)
    (joined : Joined follows size rows) {last : Row} (ends : rows[size - 1]? = some last) :
    (rows.drop size).filter (follows last) = rows.drop size := by
  have first := ((joined_iff_drop positive).mp joined).1 last
  have behind := onward.onward.sublist (List.drop_sublist size rows)
  have head := List.head?_drop (l := rows) (i := size)
  cases later : rows.drop size with
  | nil => rfl
  | cons following rest =>
      rw [later] at behind head
      have follow := first following ends head.symm
      refine List.filter_eq_self.mpr ?_
      intro row inside
      obtain rfl | deeper := List.mem_cons.mp inside
      · exact follow
      · exact List.rel_of_pairwise_cons behind deeper last follow

end Boundaries

/-- Lists are compared as a whole and have the same length. -/
structure Comparison {Item : Type} (same : List Item → List Item → Prop) : Prop where
  nil : same [] []
  append : ∀ {first second third fourth}, same first second → same third fourth →
    same (first ++ third) (second ++ fourth)
  length : ∀ {first second}, same first second → first.length = second.length

theorem comparison_eq (Item : Type) : @Comparison Item Eq where
  nil := rfl
  append := by
    rintro _ _ _ _ rfl rfl
    rfl
  length := by
    rintro _ _ rfl
    rfl

theorem comparison_perm (Item : Type) : @Comparison Item List.Perm where
  nil := .nil
  append := List.Perm.append
  length := List.Perm.length_eq

section Pages
variable {Cursor Answer Row Item : Type} (ask : Option Cursor → Answer)
  (next : Answer → Option Cursor) (page : Answer → List Item) (item : Row → Item)
  (follows : Row → Row → Bool) (size : Nat) (rows : List Row) (same : List Item → List Item → Prop)

/-- The walk comes to an end, and its pages show the rows. -/
def ShowsAll : Prop :=
  ∃ count, (∃ answer ∈ walk ask next count none, next answer = none) ∧
    same ((walk ask next count none).flatMap page) (rows.map item)

/-- Each answer shows the first rows behind the last row of the page before. -/
structure Paginates (points : Option Cursor → Option Row → Prop) : Prop where
  starts : points none none
  shows : ∀ cursor anchor, points cursor anchor →
    same (page (ask cursor)) (((beyond follows rows anchor).take size).map item)
  goes : ∀ cursor anchor, points cursor anchor →
    (next (ask cursor) = none ∧ (beyond follows rows anchor).length ≤ size) ∨
      ∃ following last, next (ask cursor) = some following ∧
        (beyond follows rows anchor)[size - 1]? = some last ∧ points (some following) (some last)

variable {ask next page item follows size rows same}
variable {points : Option Cursor → Option Row → Prop}

/-- A walk shows a part of the rows, and all of them only over joined pages. -/
theorem Paginates.shows_part (comparison : Comparison same)
    (paginates : Paginates ask next page item follows size rows same points) (positive : 0 < size)
    (onward : Onward follows rows) (count : Nat) {cursor : Option Cursor} {anchor : Option Row}
    (pointed : points cursor anchor) :
    ∃ shown, shown.Sublist (beyond follows rows anchor) ∧
      same ((walk ask next count cursor).flatMap page) (shown.map item) ∧
      (shown = beyond follows rows anchor → Joined follows size (beyond follows rows anchor)) := by
  induction count generalizing cursor anchor with
  | zero =>
      refine ⟨[], List.nil_sublist _, comparison.nil, ?_⟩
      intro whole
      rw [← whole]
      exact joined_of_short (Nat.zero_le _)
  | succ count ih =>
      have first := paginates.shows cursor anchor pointed
      obtain ⟨stops, short⟩ | ⟨following, last, goes, ends, later⟩ := paginates.goes cursor anchor pointed
      · refine ⟨(beyond follows rows anchor).take size, List.take_sublist _ _, ?_, ?_⟩
        · rw [walk, stops, List.flatMap_singleton]
          exact first
        · exact fun _ => joined_of_short short
      · obtain ⟨shown, part, rest, only⟩ := ih later
        have behind := beyond_last onward ends
        rw [behind] at part only
        have deeper := part.trans List.filter_sublist
        refine ⟨(beyond follows rows anchor).take size ++ shown, ?_, ?_, ?_⟩
        · have joined := (List.Sublist.refl ((beyond follows rows anchor).take size)).append deeper
          rw [List.take_append_drop] at joined
          exact joined
        · rw [walk, goes, List.flatMap_cons, List.map_append]
          exact comparison.append first rest
        · intro whole
          have all : shown = (beyond follows rows anchor).drop size := by
            have cut := congrArg (List.drop ((beyond follows rows anchor).take size).length) whole
            rw [List.drop_left] at cut
            rw [cut, List.length_take]
            rcases Nat.le_total size (beyond follows rows anchor).length with long | short
            · rw [Nat.min_eq_left long]
            · rw [Nat.min_eq_right short, List.drop_of_length_le short, List.drop_length]
          rw [all] at part only
          have kept : ((beyond follows rows anchor).drop size).filter (follows last) =
              (beyond follows rows anchor).drop size := List.filter_sublist.antisymm part
          rw [kept] at only
          refine (joined_iff_drop positive).mpr ⟨?_, only rfl⟩
          intro other next before after
          rw [ends] at before
          cases before
          refine List.filter_eq_self.mp kept next ?_
          refine List.mem_of_getElem? (i := 0) ?_
          rw [List.getElem?_drop]
          exact after

/-- Over joined pages the walk ends and shows all rows. -/
theorem Paginates.shows_all_of_joined (comparison : Comparison same)
    (paginates : Paginates ask next page item follows size rows same points) (positive : 0 < size)
    (onward : Onward follows rows) {cursor : Option Cursor} {anchor : Option Row}
    (pointed : points cursor anchor) (joined : Joined follows size (beyond follows rows anchor)) :
    ∃ count, (∃ answer ∈ walk ask next count cursor, next answer = none) ∧
      same ((walk ask next count cursor).flatMap page) ((beyond follows rows anchor).map item) := by
  induction length : (beyond follows rows anchor).length using Nat.strongRecOn
    generalizing cursor anchor with
  | ind bound ih =>
      have first := paginates.shows cursor anchor pointed
      obtain ⟨stops, short⟩ | ⟨following, last, goes, ends, later⟩ := paginates.goes cursor anchor pointed
      · refine ⟨1, ⟨ask cursor, List.mem_cons_self, stops⟩, ?_⟩
        rw [walk, stops, List.flatMap_singleton]
        rw [List.take_of_length_le short] at first
        exact first
      · have inside : size - 1 < (beyond follows rows anchor).length :=
          (List.getElem?_eq_some_iff.mp ends).1
        have whole : beyond follows rows (some last) = (beyond follows rows anchor).drop size := by
          rw [beyond_last onward ends]
          refine filter_eq_self_of_joined positive ?_ joined ends
          cases anchor with
          | none => exact onward
          | some previous => exact onward.filter (follows previous)
        have fewer : (beyond follows rows (some last)).length < bound := by
          rw [whole, List.length_drop]
          omega
        have rejoined : Joined follows size (beyond follows rows (some last)) := by
          rw [whole]
          exact ((joined_iff_drop positive).mp joined).2
        obtain ⟨count, ⟨answer, reached, stops⟩, rest⟩ := ih _ fewer later rejoined rfl
        refine ⟨count + 1, ⟨answer, ?_, stops⟩, ?_⟩
        · rw [walk, goes]
          exact List.mem_cons_of_mem _ reached
        · have both := comparison.append first rest
          rw [whole, ← List.map_append, List.take_append_drop] at both
          rw [walk, goes, List.flatMap_cons]
          exact both

/-- The walk shows all rows exactly when all pages are joined. -/
theorem Paginates.shows_all_iff (comparison : Comparison same)
    (paginates : Paginates ask next page item follows size rows same points) (positive : 0 < size)
    (onward : Onward follows rows) :
    ShowsAll ask next page item rows same ↔ Joined follows size rows := by
  constructor
  · rintro ⟨count, -, all⟩
    obtain ⟨shown, part, shows, only⟩ :=
      paginates.shows_part comparison positive onward count paginates.starts
    have one := comparison.length all
    have other := comparison.length shows
    rw [one, List.length_map, List.length_map] at other
    exact only (part.eq_of_length other.symm)
  · exact paginates.shows_all_of_joined comparison positive onward paginates.starts

end Pages
end Library
