import Messinger.Model.Types

namespace Messinger

theorem hexValue_digitChar {digit : Nat} (small : digit < 16) : hexValue digit.digitChar = digit := by
  have values : ∀ digit < 16, hexValue (Nat.digitChar digit) = digit := by decide
  exact values digit small

/-- Every hexadecimal digit is the digit of a number below 16. -/
theorem mem_toDigits {id : Nat} {digit : Char} (inside : digit ∈ Nat.toDigits 16 id) :
    ∃ value < 16, digit = Nat.digitChar value := by
  induction id using Nat.strongRecOn with
  | ind id ih =>
      rw [Nat.toDigits_eq_if (by decide)] at inside
      split at inside
      · next small => exact ⟨id, small, List.mem_singleton.mp inside⟩
      · next large =>
          obtain earlier | last := List.mem_append.mp inside
          · exact ih (id / 16) (Nat.div_lt_self (by omega) (by decide)) earlier
          · exact ⟨id % 16, Nat.mod_lt id (by decide), List.mem_singleton.mp last⟩

theorem mem_leftpad {id : Nat} {digit : Char} (inside : digit ∈ (Nat.toDigits 16 id).leftpad 32 '0') :
    ∃ value < 16, digit = Nat.digitChar value := by
  unfold List.leftpad at inside
  obtain padding | printed := List.mem_append.mp inside
  · exact ⟨0, by decide, (List.mem_replicate.mp padding).2⟩
  · exact mem_toDigits printed

theorem digitChar_ne {value : Nat} (small : value < 16) :
    Nat.digitChar value ≠ '-' ∧ Nat.digitChar value ≠ ':' := by
  have values : ∀ value < 16, Nat.digitChar value ≠ '-' ∧ Nat.digitChar value ≠ ':' := by decide
  exact values value small

/-- The characters of a printed uuid without its dashes are its digits. -/
theorem filter_uuidText (id : Uuid) :
    (uuidText id).filter (· != '-') = (Nat.toDigits 16 id).leftpad 32 '0' := by
  have kept : ∀ digits : List Char, (∀ digit ∈ digits, digit ∈ (Nat.toDigits 16 id).leftpad 32 '0') →
      digits.filter (· != '-') = digits := by
    intro digits listed
    rw [List.filter_eq_self]
    intro digit inside
    obtain ⟨value, small, rfl⟩ := mem_leftpad (listed digit inside)
    exact bne_iff_ne.mpr (digitChar_ne small).1
  unfold uuidText
  generalize (Nat.toDigits 16 id).leftpad 32 '0' = digits at kept
  simp only [List.filter_append, List.filter_cons_of_neg, bne_self_eq_false, Bool.false_eq_true,
    not_false_eq_true]
  rw [kept (digits.take 8), kept ((digits.drop 8).take 4), kept ((digits.drop 12).take 4),
    kept ((digits.drop 16).take 4), kept (digits.drop 20)]
  · have joined (first next : Nat) :
        digits.take first ++ (digits.drop first).take next = digits.take (first + next) := List.take_add.symm
    rw [joined 8 4, joined 12 4, joined 16 4]
    exact List.take_append_drop 20 digits
  · exact fun digit => List.mem_of_mem_drop
  · exact fun digit inside => List.mem_of_mem_drop (List.mem_of_mem_take inside)
  · exact fun digit inside => List.mem_of_mem_drop (List.mem_of_mem_take inside)
  · exact fun digit inside => List.mem_of_mem_drop (List.mem_of_mem_take inside)
  · exact fun digit => List.mem_of_mem_take

theorem colon_not_mem_uuidText (id : Uuid) : ':' ∉ uuidText id := by
  intro inside
  have digit : ':' ∈ (uuidText id).filter (· != '-') := List.mem_filter.mpr ⟨inside, rfl⟩
  rw [filter_uuidText] at digit
  obtain ⟨value, small, same⟩ := mem_leftpad digit
  exact (digitChar_ne small).2 same.symm

theorem foldl_hexValue_toDigits (id : Nat) :
    (Nat.toDigits 16 id).foldl (fun value digit => 16 * value + hexValue digit) 0 = id := by
  induction id using Nat.strongRecOn with
  | ind id ih =>
      rw [Nat.toDigits_eq_if (by decide)]
      split
      · next small => exact (Nat.zero_add _).trans (hexValue_digitChar small)
      · next large =>
          rw [List.foldl_append, ih (id / 16) (Nat.div_lt_self (by omega) (by decide))]
          rw [List.foldl_cons, List.foldl_nil, hexValue_digitChar (Nat.mod_lt id (by decide))]
          exact Nat.div_add_mod id 16

/-- The database reads back what it prints. -/
theorem parseUuid_uuidText (id : Uuid) : parseUuid (uuidText id) = id := by
  rw [parseUuid, filter_uuidText, List.leftpad, List.foldl_append]
  have padding (count : Nat) : (List.replicate count '0').foldl (fun value digit => 16 * value + hexValue digit) 0 =
      0 := by
    induction count with
    | zero => rfl
    | succ count ih => exact ih
  rw [padding]
  exact foldl_hexValue_toDigits id

theorem uuidText_injective : Function.Injective uuidText := by
  intro first second same
  rw [← parseUuid_uuidText first, same, parseUuid_uuidText]

end Messinger
