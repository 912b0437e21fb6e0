import Messinger.Library.Rows
import Mathlib.Logic.Function.Basic

namespace Library

/-- An index files items under keys, in the order in which the keys were first used. -/
abbrev Index (Key Item : Type) := List (Key × List Item)

section Index
variable {Key Item : Type} [DecidableEq Key] [DecidableEq Item]

/-- A set keeps its items in the order in which they were added. -/
def addItem (item : Item) (items : List Item) : List Item :=
  if item ∈ items then items else items ++ [item]

/-- The item joins the set under the key, and a missing set is created. -/
def attach (key : Key) (item : Item) : Index Key Item → Index Key Item
  | [] => [(key, [item])]
  | entry :: rest =>
      if entry.1 = key then (entry.1, addItem item entry.2) :: rest else entry :: attach key item rest

/-- The item leaves the set under the key, and an empty set leaves the index. -/
def detach (key : Key) (item : Item) : Index Key Item → Index Key Item
  | [] => []
  | entry :: rest =>
      if entry.1 = key then
        if entry.2.filter (· ≠ item) = [] then rest else (entry.1, entry.2.filter (· ≠ item)) :: rest
      else entry :: detach key item rest

omit [DecidableEq Key] in
theorem mem_addItem {item other : Item} {items : List Item} :
    other ∈ addItem item items ↔ other ∈ items ∨ other = item := by
  unfold addItem
  split
  · next inside =>
      constructor
      · exact .inl
      · rintro (member | rfl)
        · exact member
        · exact inside
  · simp

omit [DecidableEq Key] in
theorem nodup_addItem {item : Item} {items : List Item} (distinct : items.Nodup) :
    (addItem item items).Nodup := by
  unfold addItem
  split
  · exact distinct
  · next outside => exact distinct.append (List.nodup_singleton item) (by simpa using outside)

omit [DecidableEq Key] in
theorem mem_foldl_addItem {A : Type} (itemOf : A → Item) {item : Item} (added : List A) (items : List Item) :
    item ∈ added.foldl (fun set value => addItem (itemOf value) set) items ↔
      item ∈ items ∨ ∃ value ∈ added, itemOf value = item := by
  induction added generalizing items with
  | nil => simp
  | cons first rest ih =>
      rw [List.foldl_cons, ih, mem_addItem, or_assoc]
      simp [eq_comm]

omit [DecidableEq Key] in
theorem nodup_foldl_addItem {A : Type} (itemOf : A → Item) (added : List A) {items : List Item} (distinct : items.Nodup) :
    (added.foldl (fun set value => addItem (itemOf value) set) items).Nodup := by
  induction added generalizing items with
  | nil => exact distinct
  | cons first rest ih => exact ih (nodup_addItem distinct)

/-- Some set of the index has the item. -/
def Files (index : Index Key Item) (item : Item) : Prop := ∃ entry ∈ index, item ∈ entry.2

/-- The item that joins is the only one that the index may file anew. -/
theorem files_attach {key : Key} {item other : Item} {index : Index Key Item}
    (files : Files (attach key item index) other) : Files index other ∨ other = item := by
  induction index with
  | nil =>
      obtain ⟨entry, inside, member⟩ := files
      rw [attach, List.mem_singleton] at inside
      subst inside
      exact .inr (List.mem_singleton.mp member)
  | cons first rest ih =>
      obtain ⟨entry, inside, member⟩ := files
      unfold attach at inside
      split at inside
      · obtain rfl | later := List.mem_cons.mp inside
        · exact (mem_addItem.mp member).imp_left fun old => ⟨first, List.mem_cons_self, old⟩
        · exact .inl ⟨entry, List.mem_cons_of_mem _ later, member⟩
      · obtain rfl | later := List.mem_cons.mp inside
        · exact .inl ⟨entry, List.mem_cons_self, member⟩
        · refine (ih ⟨entry, later, member⟩).imp_left ?_
          rintro ⟨old, present, held⟩
          exact ⟨old, List.mem_cons_of_mem _ present, held⟩

/-- Detaching an item files nothing anew. -/
theorem files_detach {key : Key} {item other : Item} {index : Index Key Item}
    (files : Files (detach key item index) other) : Files index other := by
  induction index with
  | nil => exact files
  | cons first rest ih =>
      obtain ⟨entry, inside, member⟩ := files
      unfold detach at inside
      split at inside
      · split at inside
        · exact ⟨entry, List.mem_cons_of_mem _ inside, member⟩
        · obtain rfl | later := List.mem_cons.mp inside
          · exact ⟨first, List.mem_cons_self, List.mem_of_mem_filter member⟩
          · exact ⟨entry, List.mem_cons_of_mem _ later, member⟩
      · obtain rfl | later := List.mem_cons.mp inside
        · exact ⟨entry, List.mem_cons_self, member⟩
        · obtain ⟨old, present, held⟩ := ih ⟨entry, later, member⟩
          exact ⟨old, List.mem_cons_of_mem _ present, held⟩

/-- The owners of the items say what the index files, each item once and no empty set. -/
structure Mirrors (owner : Item → Option Key) (index : Index Key Item) : Prop where
  keys : (index.map Prod.fst).Nodup
  nonempty : ∀ entry ∈ index, entry.2 ≠ []
  distinct : ∀ entry ∈ index, entry.2.Nodup
  exact : ∀ entry ∈ index, ∀ item, item ∈ entry.2 ↔ owner item = some entry.1
  complete : ∀ item key, owner item = some key → key ∈ index.map Prod.fst

omit [DecidableEq Key] [DecidableEq Item] in
theorem Mirrors.nil : Mirrors (fun _ : Item => none) ([] : Index Key Item) where
  keys := List.nodup_nil
  nonempty _ inside := absurd inside List.not_mem_nil
  distinct _ inside := absurd inside List.not_mem_nil
  exact _ inside := absurd inside List.not_mem_nil
  complete _ _ owned := by cases owned

theorem map_fst_attach (key : Key) (item : Item) (index : Index Key Item) :
    (attach key item index).map Prod.fst =
      if key ∈ index.map Prod.fst then index.map Prod.fst else index.map Prod.fst ++ [key] := by
  induction index with
  | nil => rfl
  | cons entry rest ih =>
      by_cases same : entry.1 = key
      · simp [attach, same]
      · simp only [attach, if_neg same, List.map_cons, ih, List.mem_cons, Ne.symm same, false_or]
        split <;> rfl

theorem nodup_keys_attach {index : Index Key Item} (keys : (index.map Prod.fst).Nodup) (key : Key) (item : Item) :
    ((attach key item index).map Prod.fst).Nodup := by
  rw [map_fst_attach]
  split
  · exact keys
  · next missing => exact keys.append (List.nodup_singleton key) (by simpa using missing)

/-- The entries after an attachment are the other entries and the set that the item joined. -/
theorem mem_attach {key : Key} {item : Item} {index : Index Key Item} (keys : (index.map Prod.fst).Nodup)
    {entry : Key × List Item} (inside : entry ∈ attach key item index) :
    (entry ∈ index ∧ entry.1 ≠ key) ∨
      (∃ items, (key, items) ∈ index ∧ entry = (key, addItem item items)) ∨
      (key ∉ index.map Prod.fst ∧ entry = (key, [item])) := by
  induction index with
  | nil =>
      rw [attach, List.mem_singleton] at inside
      exact .inr (.inr ⟨List.not_mem_nil, inside⟩)
  | cons first rest ih =>
      obtain ⟨fresh, others⟩ := List.nodup_cons.mp keys
      unfold attach at inside
      split at inside
      · next same =>
          obtain rfl | later := List.mem_cons.mp inside
          · refine .inr (.inl ⟨first.2, ?_, ?_⟩)
            · rw [← same]
              exact List.mem_cons_self
            · rw [same]
          · refine .inl ⟨List.mem_cons_of_mem _ later, ?_⟩
            intro equal
            exact fresh (same ▸ equal ▸ List.mem_map_of_mem later)
      · next different =>
          obtain rfl | later := List.mem_cons.mp inside
          · exact .inl ⟨List.mem_cons_self, different⟩
          · obtain ⟨old, apart⟩ | ⟨items, old, joined⟩ | ⟨missing, joined⟩ := ih others later
            · exact .inl ⟨List.mem_cons_of_mem _ old, apart⟩
            · exact .inr (.inl ⟨items, List.mem_cons_of_mem _ old, joined⟩)
            · refine .inr (.inr ⟨?_, joined⟩)
              simp only [List.map_cons, List.mem_cons, not_or]
              exact ⟨Ne.symm different, missing⟩

theorem detach_sublist (key : Key) (item : Item) (index : Index Key Item) :
    ((detach key item index).map Prod.fst).Sublist (index.map Prod.fst) := by
  induction index with
  | nil => exact List.Sublist.refl _
  | cons entry rest ih =>
      unfold detach
      split
      · split
        · exact List.sublist_cons_self _ _
        · exact List.Sublist.refl _
      · exact ih.cons_cons _

/-- The entries after a detachment are the other entries and the set that the item left. -/
theorem mem_detach {key : Key} {item : Item} {index : Index Key Item} (keys : (index.map Prod.fst).Nodup)
    {entry : Key × List Item} :
    entry ∈ detach key item index ↔
      (entry ∈ index ∧ entry.1 ≠ key) ∨
      ∃ items, (key, items) ∈ index ∧ items.filter (· ≠ item) ≠ [] ∧
        entry = (key, items.filter (· ≠ item)) := by
  induction index with
  | nil => simp [detach]
  | cons first rest ih =>
      obtain ⟨fresh, others⟩ := List.nodup_cons.mp keys
      have elsewhere {other : Key × List Item} (later : other ∈ rest) : other.1 ≠ first.1 :=
        fun equal => fresh (equal ▸ List.mem_map_of_mem later)
      by_cases same : first.1 = key
      · have only (items : List Item) : (key, items) ∈ first :: rest ↔ items = first.2 := by
          constructor
          · intro inside
            obtain here | later := List.mem_cons.mp inside
            · exact congrArg Prod.snd here
            · exact absurd same.symm (elsewhere later)
          · rintro rfl
            rw [← same]
            exact List.mem_cons_self
        have others : (entry ∈ first :: rest ∧ entry.1 ≠ key) ↔ entry ∈ rest := by
          constructor
          · rintro ⟨inside, apart⟩
            obtain rfl | later := List.mem_cons.mp inside
            · exact absurd same apart
            · exact later
          · intro later
            exact ⟨List.mem_cons_of_mem _ later, same ▸ elsewhere later⟩
        simp only [only, others, detach, if_pos same, exists_eq_left]
        split
        · next empty =>
            constructor
            · exact .inl
            · rintro (later | ⟨left, -⟩)
              · exact later
              · exact absurd empty left
        · next left =>
            rw [List.mem_cons, same, or_comm]
            exact or_congr_right (and_iff_right left).symm
      · have other (items : List Item) : (key, items) ∈ first :: rest ↔ (key, items) ∈ rest := by
          rw [List.mem_cons]
          exact or_iff_right fun here => same (congrArg Prod.fst here).symm
        simp only [detach, if_neg same, other]
        rw [List.mem_cons, List.mem_cons, ih others, or_and_right, or_assoc]
        refine or_congr_left (and_iff_left_of_imp ?_).symm
        rintro rfl
        exact same

/-- Attaching an item that has no other owner keeps the index exact. -/
theorem Mirrors.attach {owner : Item → Option Key} {index : Index Key Item} (mirrors : Mirrors owner index)
    {key : Key} {item : Item} (free : ∀ other, owner item = some other → other = key) :
    Mirrors (Function.update owner item (some key)) (Library.attach key item index) := by
  have away {entry : Key × List Item} (inside : entry ∈ index) (apart : entry.1 ≠ key) (other : Item) :
      other ∈ entry.2 ↔ Function.update owner item (some key) other = some entry.1 := by
    rw [mirrors.exact entry inside]
    by_cases same : other = item
    · subst same
      rw [Function.update_self]
      constructor
      · exact fun owned => absurd (free _ owned) apart
      · exact fun owned => absurd (Option.some.inj owned).symm apart
    · rw [Function.update_of_ne same]
  refine ⟨nodup_keys_attach mirrors.keys key item, ?_, ?_, ?_, ?_⟩
  · intro entry inside
    obtain ⟨old, -⟩ | ⟨items, -, rfl⟩ | ⟨-, rfl⟩ := mem_attach mirrors.keys inside
    · exact mirrors.nonempty entry old
    · exact List.ne_nil_of_mem (mem_addItem.mpr (.inr rfl))
    · exact List.cons_ne_nil _ _
  · intro entry inside
    obtain ⟨old, -⟩ | ⟨items, old, rfl⟩ | ⟨-, rfl⟩ := mem_attach mirrors.keys inside
    · exact mirrors.distinct entry old
    · exact nodup_addItem (mirrors.distinct _ old)
    · exact List.nodup_singleton item
  · intro entry inside other
    obtain ⟨old, apart⟩ | ⟨items, old, rfl⟩ | ⟨missing, rfl⟩ := mem_attach mirrors.keys inside
    · exact away old apart other
    · rw [mem_addItem, mirrors.exact _ old]
      by_cases same : other = item
      · simp [same]
      · simp [same]
    · have unowned : owner other ≠ some key := fun owned => missing (mirrors.complete other key owned)
      by_cases same : other = item
      · simp [same]
      · simp [same, unowned]
  · intro other holder owned
    rw [map_fst_attach]
    by_cases same : other = item
    · subst same
      rw [Function.update_self] at owned
      cases owned
      split
      · next present => exact present
      · exact List.mem_append_right _ List.mem_cons_self
    · rw [Function.update_of_ne same] at owned
      have present := mirrors.complete other holder owned
      split
      · exact present
      · exact List.mem_append_left _ present

/-- Detaching an item from its owner keeps the index exact. -/
theorem Mirrors.detach {owner : Item → Option Key} {index : Index Key Item} (mirrors : Mirrors owner index)
    {key : Key} {item : Item} (owned : owner item = some key) :
    Mirrors (Function.update owner item none) (Library.detach key item index) := by
  refine ⟨(detach_sublist key item index).nodup mirrors.keys, ?_, ?_, ?_, ?_⟩
  · intro entry inside
    obtain ⟨old, -⟩ | ⟨items, -, left, rfl⟩ := (mem_detach mirrors.keys).mp inside
    · exact mirrors.nonempty entry old
    · exact left
  · intro entry inside
    obtain ⟨old, -⟩ | ⟨items, old, -, rfl⟩ := (mem_detach mirrors.keys).mp inside
    · exact mirrors.distinct entry old
    · exact (mirrors.distinct _ old).filter _
  · intro entry inside other
    obtain ⟨old, apart⟩ | ⟨items, old, -, rfl⟩ := (mem_detach mirrors.keys).mp inside
    · rw [mirrors.exact entry old]
      by_cases same : other = item
      · subst same
        rw [Function.update_self, owned]
        simp [Ne.symm apart]
      · rw [Function.update_of_ne same]
    · rw [List.mem_filter, mirrors.exact _ old]
      by_cases same : other = item
      · simp [same]
      · simp [same]
  · intro other holder held
    by_cases same : other = item
    · subst same
      rw [Function.update_self] at held
      cases held
    · rw [Function.update_of_ne same] at held
      obtain ⟨⟨filed, items⟩, inside, rfl⟩ := List.mem_map.mp (mirrors.complete other holder held)
      have member : other ∈ items := (mirrors.exact _ inside other).mpr held
      by_cases equal : filed = key
      · subst equal
        have left : other ∈ items.filter (· ≠ item) := List.mem_filter.mpr ⟨member, by simpa using same⟩
        have kept := (mem_detach mirrors.keys).mpr (.inr ⟨items, inside, List.ne_nil_of_mem left, rfl⟩)
        exact List.mem_map.mpr ⟨_, kept, rfl⟩
      · exact List.mem_map_of_mem ((mem_detach mirrors.keys).mpr (.inl ⟨inside, equal⟩))

omit [DecidableEq Item] in
/-- The set under a key lists each item of that owner once. -/
theorem Mirrors.lookup {owner : Item → Option Key} {index : Index Key Item} (mirrors : Mirrors owner index)
    {key : Key} {entry : Key × List Item} (found : Library.lookup Prod.fst key index = some entry) :
    entry.2.Nodup ∧ ∀ item, item ∈ entry.2 ↔ owner item = some key := by
  obtain ⟨inside, rfl⟩ := lookup_mem Prod.fst found
  exact ⟨mirrors.distinct entry inside, mirrors.exact entry inside⟩

omit [DecidableEq Item] in
/-- A key without a set owns nothing. -/
theorem Mirrors.unowned {owner : Item → Option Key} {index : Index Key Item} (mirrors : Mirrors owner index)
    {key : Key} (absent : Library.lookup Prod.fst key index = none) (item : Item) :
    owner item ≠ some key := by
  intro owned
  obtain ⟨entry, inside, same⟩ := List.mem_map.mp (mirrors.complete item key owned)
  exact (lookup_eq_none Prod.fst).mp absent entry inside same

omit [DecidableEq Key] [DecidableEq Item] in
/-- A key with a set owns some item. -/
theorem Mirrors.owns {owner : Item → Option Key} {index : Index Key Item} (mirrors : Mirrors owner index)
    {key : Key} (present : key ∈ index.map Prod.fst) : ∃ item, owner item = some key := by
  obtain ⟨entry, inside, rfl⟩ := List.mem_map.mp present
  obtain ⟨item, member⟩ := List.exists_mem_of_ne_nil _ (mirrors.nonempty entry inside)
  exact ⟨item, (mirrors.exact entry inside item).mp member⟩

/-- This is the set under the key, which is empty when the index has none. -/
def itemsUnder (key : Key) (index : Index Key Item) : List Item :=
  ((lookup Prod.fst key index).map Prod.snd).getD []

omit [DecidableEq Item] in
theorem itemsUnder_cons (key : Key) (entry : Key × List Item) (index : Index Key Item) :
    itemsUnder key (entry :: index) = if entry.1 = key then entry.2 else itemsUnder key index := by
  unfold itemsUnder lookup
  by_cases same : entry.1 = key <;> simp [same]

omit [DecidableEq Item] in
theorem files_of_itemsUnder {key : Key} {item : Item} {index : Index Key Item} (inside : item ∈ itemsUnder key index) :
    Files index item := by
  unfold itemsUnder at inside
  cases found : lookup Prod.fst key index with
  | none =>
      rw [found] at inside
      cases inside
  | some entry =>
      rw [found] at inside
      exact ⟨entry, (lookup_mem Prod.fst found).1, inside⟩

theorem itemsUnder_attach (key other : Key) (item : Item) (index : Index Key Item) :
    itemsUnder other (attach key item index) =
      if other = key then addItem item (itemsUnder other index) else itemsUnder other index := by
  induction index with
  | nil =>
      rw [attach, itemsUnder_cons]
      by_cases same : other = key
      · simp [same, itemsUnder, lookup, addItem]
      · simp [same, Ne.symm same]
  | cons entry rest ih =>
      by_cases first : entry.1 = key
      · rw [attach, if_pos first, itemsUnder_cons, itemsUnder_cons, first]
        by_cases same : other = key
        · simp [same]
        · simp [same, Ne.symm same]
      · rw [attach, if_neg first, itemsUnder_cons, itemsUnder_cons, ih]
        by_cases second : entry.1 = other
        · have apart : other ≠ key := second ▸ first
          simp [second, apart]
        · simp [second]

omit [DecidableEq Item] in
theorem itemsUnder_of_missing {key : Key} {index : Index Key Item} (missing : key ∉ index.map Prod.fst) :
    itemsUnder key index = [] := by
  have absent : lookup Prod.fst key index = none := by
    rw [lookup_eq_none]
    intro entry inside same
    exact missing (List.mem_map.mpr ⟨entry, inside, same⟩)
  rw [itemsUnder, absent]
  rfl

theorem itemsUnder_detach {index : Index Key Item} (keys : (index.map Prod.fst).Nodup) (key other : Key) (item : Item) :
    itemsUnder other (detach key item index) =
      if other = key then (itemsUnder other index).filter (· ≠ item) else itemsUnder other index := by
  induction index with
  | nil => simp [detach, itemsUnder, lookup]
  | cons entry rest ih =>
      obtain ⟨fresh, others⟩ := List.nodup_cons.mp keys
      by_cases first : entry.1 = key
      · rw [detach, if_pos first, itemsUnder_cons]
        by_cases same : other = key
        · subst same
          rw [if_pos first, if_pos rfl]
          split
          · next empty => rw [empty, itemsUnder_of_missing (first ▸ fresh)]
          · rw [itemsUnder_cons, if_pos first]
        · have apart : entry.1 ≠ other := fun equal => same (equal.symm.trans first)
          rw [if_neg apart, if_neg same]
          split
          · rfl
          · rw [itemsUnder_cons, if_neg apart]
      · rw [detach, if_neg first, itemsUnder_cons, itemsUnder_cons, ih others]
        by_cases second : entry.1 = other
        · have apart : other ≠ key := second ▸ first
          simp [second, apart]
        · simp [second]

end Index

end Library
