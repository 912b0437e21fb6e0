import Mathlib.Data.Finset.Insert
import Mathlib.Data.Finset.Erase
import Messinger.Library.Roster
import Messinger.Library.Runs

namespace Messinger
open Library

/-- An entry of the log of a group says who founded it, joined it, is gone, or became its owner. -/
inductive LogEntry (Person : Type) where
  | created (actor : Person)
  | joined (actor : Person)
  | removed (target : Person)
  | transferred (target : Person)
  deriving DecidableEq

/-- These are the members and the owner that a log tells of. -/
structure Group (Person : Type) where
  members : Finset Person
  owner : Option Person

section GroupLog
variable {Person : Type} [DecidableEq Person]

def Group.apply (group : Group Person) : LogEntry Person → Group Person
  | .created actor => ⟨insert actor group.members, some actor⟩
  | .joined actor => { group with members := insert actor group.members }
  | .removed target => { group with members := group.members.erase target }
  | .transferred target => { group with owner := some target }

/-- Only persons outside join, and only members are removed. -/
def Group.Legal (group : Group Person) : LogEntry Person → Prop
  | .joined actor => actor ∉ group.members
  | .removed target => target ∈ group.members
  | .created _ | .transferred _ => True

instance (group : Group Person) : (entry : LogEntry Person) → Decidable (group.Legal entry)
  | .joined actor => inferInstanceAs (Decidable (actor ∉ group.members))
  | .removed target => inferInstanceAs (Decidable (target ∈ group.members))
  | .created _ => isTrue trivial
  | .transferred _ => isTrue trivial

def replay (log : List (LogEntry Person)) : Group Person :=
  log.foldl Group.apply ⟨∅, none⟩

/-- Every entry is legal where it stands. -/
def LegalLog (log : List (LogEntry Person)) : Prop :=
  Meets Group.apply Group.Legal ⟨∅, none⟩ log

instance (log : List (LogEntry Person)) : Decidable (LegalLog log) :=
  inferInstanceAs (Decidable (Meets Group.apply Group.Legal ⟨∅, none⟩ log))

theorem replay_concat (log : List (LogEntry Person)) (entry : LogEntry Person) :
    replay (log ++ [entry]) = (replay log).apply entry := by
  unfold replay
  rw [List.foldl_append]
  rfl

theorem legalLog_concat {log : List (LogEntry Person)} {entry : LogEntry Person} :
    LegalLog (log ++ [entry]) ↔ LegalLog log ∧ (replay log).Legal entry :=
  meets_concat Group.apply

/-- The log replays to the active persons of the roster and to the holder of its office. -/
structure Replays (log : List (LogEntry Person)) (roster : Roster Person) : Prop where
  members : ∀ person, person ∈ (replay log).members ↔
    ∃ entry, roster person = some entry ∧ entry.active = true
  owner : ∀ person, (replay log).owner = some person ↔
    ∃ entry, roster person = some entry ∧ entry.holds = true
  legal : LegalLog log

namespace Replays
variable {log : List (LogEntry Person)} {roster : Roster Person}

/-- The owner stays the same when an entry without the office is written for a person without it. -/
theorem owner_update (replays : Replays log roster) {person : Person} {active : Bool}
    (ordinary : ∀ entry, roster person = some entry → entry.holds = false) (other : Person) :
    (replay log).owner = some other ↔
      ∃ entry, Function.update roster person (some ⟨false, active⟩) other = some entry ∧ entry.holds = true := by
  rw [replays.owner]
  constructor
  · rintro ⟨entry, listed, holds⟩
    have apart : other ≠ person := by
      rintro rfl
      exact absurd holds (Bool.eq_false_iff.mp (ordinary entry listed))
    exact ⟨entry, by rw [Function.update_of_ne apart]; exact listed, holds⟩
  · rintro ⟨entry, found, holds⟩
    obtain ⟨-, rfl⟩ | ⟨-, listed⟩ := listed_update found
    · cases holds
    · exact ⟨entry, listed, holds⟩

/-- The first entry tells of the founder. -/
theorem founded (founder : Person) :
    Replays [.created founder] (Function.update (fun _ => none) founder (some ⟨true, true⟩)) := by
  constructor
  · intro person
    change person ∈ insert founder ∅ ↔ _
    rw [Finset.mem_insert]
    by_cases same : person = founder
    · subst same
      simp
    · simp [same]
  · intro person
    change some founder = some person ↔ _
    by_cases same : person = founder
    · subst same
      simp
    · simp [same, Ne.symm same]
  · exact (meets_cons Group.apply).mpr ⟨trivial, meets_nil Group.apply⟩

/-- A person that was not listed joins. -/
theorem joined (replays : Replays log roster) {person : Person} (missing : roster person = none) :
    Replays (log ++ [.joined person]) (Function.update roster person (some ⟨false, true⟩)) := by
  constructor
  · intro other
    rw [replay_concat]
    change other ∈ insert person (replay log).members ↔ _
    rw [Finset.mem_insert, replays.members]
    by_cases same : other = person
    · subst same
      simp
    · simp [same]
  · rw [replay_concat]
    refine replays.owner_update ?_
    intro entry listed
    rw [missing] at listed
    cases listed
  · refine legalLog_concat.mpr ⟨replays.legal, ?_⟩
    change person ∉ (replay log).members
    rw [replays.members, missing]
    simp

/-- An active person that does not hold the office is removed. -/
theorem removed (replays : Replays log roster) {person : Person} (listed : roster person = some ⟨false, true⟩) :
    Replays (log ++ [.removed person]) (Function.update roster person (some ⟨false, false⟩)) := by
  constructor
  · intro other
    rw [replay_concat]
    change other ∈ (replay log).members.erase person ↔ _
    rw [Finset.mem_erase, replays.members]
    by_cases same : other = person
    · subst same
      simp
    · simp [same]
  · rw [replay_concat]
    refine replays.owner_update ?_
    intro entry found
    rw [listed] at found
    cases found
    rfl
  · refine legalLog_concat.mpr ⟨replays.legal, ?_⟩
    change person ∈ (replay log).members
    rw [replays.members]
    exact ⟨_, listed, rfl⟩

/-- The sole holder hands the office over to an active person. -/
theorem transferred (replays : Replays log roster) {giver taker : Person} (held : SoleHolder roster giver)
    {entry : Entry} (listed : roster taker = some entry) (present : entry.active = true) :
    Replays (log ++ [.transferred taker])
      (Function.update (Function.update roster giver (some ⟨false, true⟩)) taker (some ⟨true, true⟩)) := by
  have passed := held.handOver taker
  constructor
  · intro other
    rw [replay_concat]
    change other ∈ (replay log).members ↔ _
    rw [replays.members]
    by_cases same : other = taker
    · subst same
      simp [listed, present]
    · by_cases gave : other = giver
      · subst gave
        simp [same, held.listed]
      · simp [same, gave]
  · intro other
    rw [replay_concat]
    change some taker = some other ↔ _
    constructor
    · intro same
      cases same
      exact ⟨_, passed.listed, rfl⟩
    · rintro ⟨changed, found, holds⟩
      rw [passed.only other changed found holds]
  · exact legalLog_concat.mpr ⟨replays.legal, trivial⟩

/-- The log tells of a listed person as a member exactly when the person is active. -/
theorem mem_iff (replays : Replays log roster) {person : Person} {entry : Entry}
    (listed : roster person = some entry) : person ∈ (replay log).members ↔ entry.active = true := by
  rw [replays.members, listed]
  simp

end Replays

/-- On a roster with one holder the log tells of this holder as the owner. -/
theorem replays_iff {log : List (LogEntry Person)} {roster : Roster Person} {holder : Person}
    (held : SoleHolder roster holder) :
    Replays log roster ↔
      (∀ person, person ∈ (replay log).members ↔ ∃ entry, roster person = some entry ∧ entry.active = true) ∧
        (replay log).owner = some holder ∧ LegalLog log := by
  constructor
  · intro replays
    exact ⟨replays.members, (replays.owner holder).mpr ⟨_, held.listed, rfl⟩, replays.legal⟩
  · rintro ⟨members, owner, legal⟩
    refine ⟨members, ?_, legal⟩
    intro person
    rw [owner]
    constructor
    · intro same
      cases same
      exact ⟨_, held.listed, rfl⟩
    · rintro ⟨entry, found, holds⟩
      rw [held.only person entry found holds]

end GroupLog

end Messinger
