import Mathlib.Logic.Function.Basic
import Mathlib.Logic.Relation
import Mathlib.Tactic.Common

namespace Library

/-- An entry says whether a listed person holds the office and is active. -/
structure Entry where
  holds : Bool
  active : Bool
  deriving DecidableEq

/-- A roster lists some persons of an arbitrary type. -/
abbrev Roster (Person : Type) := Person → Option Entry

section Roster
variable {Person : Type}

/-- Nobody else on the roster holds the office, and the holder is active. -/
structure SoleHolder (roster : Roster Person) (holder : Person) : Prop where
  listed : roster holder = some ⟨true, true⟩
  only : ∀ other entry, roster other = some entry → entry.holds = true → other = holder

/-- Nobody on the roster holds the office. -/
def Vacant (roster : Roster Person) : Prop :=
  ∀ person entry, roster person = some entry → entry.holds = false

theorem SoleHolder.unique {roster : Roster Person} {first second : Person}
    (left : SoleHolder roster first) (right : SoleHolder roster second) : first = second :=
  right.only first _ left.listed rfl

variable [DecidableEq Person]

/-- After one entry is written, a listed person is the written one or was listed before. -/
theorem listed_update {roster : Roster Person} {person other : Person} {written entry : Entry}
    (found : Function.update roster person (some written) other = some entry) :
    (other = person ∧ entry = written) ∨ (other ≠ person ∧ roster other = some entry) := by
  by_cases same : other = person
  · subst same
    rw [Function.update_self] at found
    exact .inl ⟨rfl, (Option.some.inj found).symm⟩
  · rw [Function.update_of_ne same] at found
    exact .inr ⟨same, found⟩

/-- These are the changes that keep one active holder, or a vacant office. -/
inductive RosterStep (roster : Roster Person) : Roster Person → Prop where
  | keep : RosterStep roster roster
  | enrol (person : Person) (active : Bool)
      (ordinary : ∀ entry, roster person = some entry → entry.holds = false) :
      RosterStep roster (Function.update roster person (some ⟨false, active⟩))
  | reactivate (person : Person) (entry : Entry) (listed : roster person = some entry) :
      RosterStep roster (Function.update roster person (some { entry with active := true }))
  | handOver (giver taker : Person) (entry : Entry) (holding : roster giver = some ⟨true, true⟩)
      (listed : roster taker = some entry) (present : entry.active = true) :
      RosterStep roster
        (Function.update (Function.update roster giver (some ⟨false, true⟩)) taker (some ⟨true, true⟩))

/-- The office passes to the taker, who may be the giver. -/
theorem SoleHolder.handOver {roster : Roster Person} {giver : Person} (taker : Person)
    (held : SoleHolder roster giver) :
    SoleHolder
      (Function.update (Function.update roster giver (some ⟨false, true⟩)) taker (some ⟨true, true⟩))
      taker := by
  constructor
  · exact Function.update_self _ _ _
  · intro other entry found holds
    obtain ⟨rfl, -⟩ | ⟨-, found⟩ := listed_update found
    · rfl
    · obtain ⟨-, rfl⟩ | ⟨different, found⟩ := listed_update found
      · cases holds
      · exact absurd (held.only other entry found holds) different

/-- Every step keeps one active holder. -/
theorem SoleHolder.step {roster next : Roster Person} {holder : Person}
    (held : SoleHolder roster holder) (change : RosterStep roster next) :
    ∃ successor, SoleHolder next successor := by
  cases change with
  | keep => exact ⟨holder, held⟩
  | enrol person active ordinary =>
      have apart : holder ≠ person := by
        rintro rfl
        have none := ordinary _ held.listed
        simp at none
      refine ⟨holder, ?_, ?_⟩
      · rw [Function.update_of_ne apart]
        exact held.listed
      · intro other entry found holds
        obtain ⟨-, rfl⟩ | ⟨-, found⟩ := listed_update found
        · cases holds
        · exact held.only other entry found holds
  | reactivate person entry listed =>
      refine ⟨holder, ?_, ?_⟩
      · by_cases same : holder = person
        · subst same
          rw [held.listed] at listed
          cases listed
          exact Function.update_self _ _ _
        · rw [Function.update_of_ne same]
          exact held.listed
      · intro other changed found holds
        obtain ⟨rfl, rfl⟩ | ⟨-, found⟩ := listed_update found
        · exact held.only other entry listed holds
        · exact held.only other changed found holds
  | handOver giver taker entry holding listed present =>
      have same := held.only giver _ holding rfl
      subst same
      exact ⟨taker, held.handOver taker⟩

/-- Every step keeps the office vacant. -/
theorem Vacant.step {roster next : Roster Person} (vacant : Vacant roster)
    (change : RosterStep roster next) : Vacant next := by
  intro other changed found
  cases change with
  | keep => exact vacant other changed found
  | enrol person active ordinary =>
      obtain ⟨-, rfl⟩ | ⟨-, found⟩ := listed_update found
      · rfl
      · exact vacant other changed found
  | reactivate person entry listed =>
      obtain ⟨rfl, rfl⟩ | ⟨-, found⟩ := listed_update found
      · exact vacant other entry listed
      · exact vacant other changed found
  | handOver giver taker entry holding listed present =>
      have none := vacant giver _ holding
      simp at none

/-- Any number of steps keeps one active holder. -/
theorem SoleHolder.steps {roster next : Roster Person} {holder : Person} (held : SoleHolder roster holder)
    (changes : Relation.ReflTransGen RosterStep roster next) : ∃ successor, SoleHolder next successor := by
  induction changes with
  | refl => exact ⟨holder, held⟩
  | tail _ change ih =>
      obtain ⟨current, holding⟩ := ih
      exact holding.step change

theorem Vacant.steps {roster next : Roster Person} (vacant : Vacant roster)
    (changes : Relation.ReflTransGen RosterStep roster next) : Vacant next := by
  induction changes with
  | refl => exact vacant
  | tail _ change ih => exact Vacant.step ih change

/-- A rule for the office that new rosters meet and every step keeps. -/
structure OfficeRule (rule : Roster Person → Prop) : Prop where
  founded : ∀ founder, rule (Function.update (fun _ => none) founder (some ⟨true, true⟩))
  step : ∀ roster next, rule roster → RosterStep roster next → rule next

theorem OfficeRule.steps {rule : Roster Person → Prop} (office : OfficeRule rule) {roster next : Roster Person}
    (held : rule roster) (changes : Relation.ReflTransGen RosterStep roster next) : rule next := by
  induction changes with
  | refl => exact held
  | tail _ change ih => exact office.step _ _ ih change

/-- The founder is the sole holder of the office. -/
theorem SoleHolder.founder (founder : Person) :
    SoleHolder (Function.update (fun _ => none) founder (some ⟨true, true⟩)) founder := by
  constructor
  · exact Function.update_self _ _ _
  · intro other entry found _
    obtain ⟨same, -⟩ | ⟨-, found⟩ := listed_update found
    · exact same
    · cases found

theorem soleHolder_office :
    OfficeRule fun roster : Roster Person => ∃ holder, SoleHolder roster holder where
  founded founder := ⟨founder, SoleHolder.founder founder⟩
  step _ _ held change := by
    obtain ⟨holder, holding⟩ := held
    exact holding.step change

/-- Whoever holds the office is active. -/
def HoldersActive (roster : Roster Person) : Prop :=
  ∀ person entry, roster person = some entry → entry.holds = true → entry.active = true

theorem HoldersActive.step {roster next : Roster Person} (active : HoldersActive roster)
    (change : RosterStep roster next) : HoldersActive next := by
  intro other changed found holds
  cases change with
  | keep => exact active other changed found holds
  | enrol person state ordinary =>
      obtain ⟨-, rfl⟩ | ⟨-, found⟩ := listed_update found
      · cases holds
      · exact active other changed found holds
  | reactivate person entry listed =>
      obtain ⟨-, rfl⟩ | ⟨-, found⟩ := listed_update found
      · rfl
      · exact active other changed found holds
  | handOver giver taker entry holding listed present =>
      obtain ⟨-, rfl⟩ | ⟨-, found⟩ := listed_update found
      · rfl
      · obtain ⟨-, rfl⟩ | ⟨-, found⟩ := listed_update found
        · rfl
        · exact active other changed found holds

theorem holdersActive_office : OfficeRule fun roster : Roster Person => HoldersActive roster where
  founded founder person entry found _ := by
    obtain ⟨-, rfl⟩ | ⟨-, found⟩ := listed_update found
    · rfl
    · cases found
  step _ _ active change := active.step change

omit [DecidableEq Person] in
/-- Striking persons off the roster keeps its holders active. -/
theorem HoldersActive.of_sub {roster next : Roster Person} (active : HoldersActive roster)
    (sub : ∀ person entry, next person = some entry → roster person = some entry) : HoldersActive next :=
  fun person entry found => active person entry (sub person entry found)

omit [DecidableEq Person] in
theorem Vacant.of_sub {roster next : Roster Person} (vacant : Vacant roster)
    (sub : ∀ person entry, next person = some entry → roster person = some entry) : Vacant next :=
  fun person entry found => vacant person entry (sub person entry found)

end Roster

end Library
