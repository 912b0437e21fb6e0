import Messinger.Model.LoginKeys

namespace Messinger

/-- A login key has ten letters of the alphabet. -/
structure IsLoginKey (key : Text) : Prop where
  length : key.length = loginKeyLength
  letters : ∀ letter ∈ key, letter ∈ friendlyAlphabet

/-- Each letter of the key may be in lower case, and dashes may stand between two letters. -/
inductive Dashed : Text → Text → Prop where
  | last {letter written : Char} (same : written = letter ∨ written = letter.toLower) : Dashed [letter] [written]
  | next {letter written : Char} {key text : Text} (same : written = letter ∨ written = letter.toLower)
      (dashes : Nat) (rest : Dashed key text) :
      Dashed (letter :: key) (written :: (List.replicate dashes '-' ++ text))

/-- White space may surround the written key. -/
def Renders (key text : Text) : Prop :=
  ∃ leading body trailing, text = leading ++ body ++ trailing ∧
    (∀ letter ∈ leading, isWhiteSpace letter = true) ∧ (∀ letter ∈ trailing, isWhiteSpace letter = true) ∧
    Dashed key body

/-- Both cases of a letter of the alphabet are read as the letter. -/
theorem written_letter {letter written : Char} (inside : letter ∈ friendlyAlphabet)
    (same : written = letter ∨ written = letter.toLower) :
    written ≠ '-' ∧ isWhiteSpace written = false ∧ capital written = [letter] := by
  have both : (friendlyAlphabet.all fun letter => [letter, letter.toLower].all fun written =>
      decide (written ≠ '-' ∧ isWhiteSpace written = false ∧ capital written = [letter])) = true := by decide
  have listed : written ∈ [letter, letter.toLower] := by
    rcases same with rfl | rfl
    · exact List.mem_cons_self
    · exact List.mem_cons_of_mem _ List.mem_cons_self
  exact of_decide_eq_true (List.all_eq_true.mp (List.all_eq_true.mp both letter inside) written listed)

theorem small_letter {letter : Char} (inside : letter ∈ friendlyAlphabet) : letter.toNat < 0x10000 := by
  have small : (friendlyAlphabet.all fun letter => decide (letter.toNat < 0x10000)) = true := by decide
  exact of_decide_eq_true (List.all_eq_true.mp small letter inside)

theorem Dashed.capitals {key text : Text} (dashed : Dashed key text)
    (letters : ∀ letter ∈ key, letter ∈ friendlyAlphabet) :
    toUpperCase (text.filter fun letter => letter != '-') = key := by
  induction dashed with
  | @last letter written same =>
      obtain ⟨apart, -, upper⟩ := written_letter (letters letter List.mem_cons_self) same
      rw [List.filter_cons_of_pos (p := fun letter => letter != '-') (bne_iff_ne.mpr apart), List.filter_nil]
      unfold toUpperCase
      rw [List.flatMap_cons, upper]
      rfl
  | @next letter written key text same dashes rest ih =>
      obtain ⟨apart, -, upper⟩ := written_letter (letters letter List.mem_cons_self) same
      have none : (List.replicate dashes '-').filter (fun letter => letter != '-') = [] := by
        rw [List.filter_replicate_of_neg]
        simp
      rw [List.filter_cons_of_pos (p := fun letter => letter != '-') (bne_iff_ne.mpr apart), List.filter_append,
        none, List.nil_append]
      unfold toUpperCase at ih ⊢
      rw [List.flatMap_cons, upper, ih fun letter inside => letters letter (List.mem_cons_of_mem _ inside)]
      rfl

/-- The written key has no white space. -/
theorem Dashed.solid {key text : Text} (dashed : Dashed key text)
    (letters : ∀ letter ∈ key, letter ∈ friendlyAlphabet) : ∀ letter ∈ text, isWhiteSpace letter = false := by
  induction dashed with
  | @last letter written same =>
      intro other inside
      rw [List.mem_singleton.mp inside]
      exact (written_letter (letters letter List.mem_cons_self) same).2.1
  | @next letter written key text same dashes rest ih =>
      intro other inside
      rcases List.mem_cons.mp inside with rfl | later
      · exact (written_letter (letters letter List.mem_cons_self) same).2.1
      · rcases List.mem_append.mp later with dash | after
        · rw [List.eq_of_mem_replicate dash]
          decide
        · exact ih (fun letter inside => letters letter (List.mem_cons_of_mem _ inside)) other after

/-- The key itself is one of its renderings. -/
theorem dashed_self {key : Text} (nonempty : key ≠ []) : Dashed key key := by
  induction key with
  | nil => exact absurd rfl nonempty
  | cons letter rest ih =>
      cases rest with
      | nil => exact .last (.inl rfl)
      | cons next rest => exact .next (.inl rfl) 0 (ih (List.cons_ne_nil next rest))

theorem dropWhile_solid {text : Text} (solid : ∀ letter ∈ text, isWhiteSpace letter = false) :
    text.dropWhile isWhiteSpace = text := by
  cases text with
  | nil => rfl
  | cons letter rest =>
      apply List.dropWhile_cons_of_neg
      rw [solid letter List.mem_cons_self]
      exact Bool.false_ne_true

/-- Trimming removes the white space around a text without white space. -/
theorem trim_surrounded {leading body trailing : Text} (before : ∀ letter ∈ leading, isWhiteSpace letter = true)
    (after : ∀ letter ∈ trailing, isWhiteSpace letter = true)
    (solid : ∀ letter ∈ body, isWhiteSpace letter = false) : trim (leading ++ body ++ trailing) = body := by
  unfold trim
  rw [List.append_assoc, List.dropWhile_append_of_pos before]
  cases body with
  | nil =>
      rw [List.nil_append, ← List.append_nil trailing, List.dropWhile_append_of_pos after]
      rfl
  | cons letter rest =>
      have first : ((letter :: rest) ++ trailing).dropWhile isWhiteSpace = (letter :: rest) ++ trailing := by
        apply List.dropWhile_cons_of_neg
        rw [solid letter List.mem_cons_self]
        exact Bool.false_ne_true
      rw [first, List.reverse_append,
        List.dropWhile_append_of_pos fun letter inside => after letter (List.mem_reverse.mp inside),
        dropWhile_solid fun letter inside => solid letter (List.mem_reverse.mp inside), List.reverse_reverse]

/-- Letters below U+10000 take one code unit each. -/
theorem stringLength_of_small {text : Text} (small : ∀ letter ∈ text, letter.toNat < 0x10000) :
    stringLength text = text.length := by
  have counted (start : Nat) :
      text.foldl (fun length letter => length + if letter.toNat < 0x10000 then 1 else 2) start =
        start + text.length := by
    induction text generalizing start with
    | nil => rfl
    | cons letter rest ih =>
        rw [List.foldl_cons, if_pos (small letter List.mem_cons_self),
          ih (fun letter inside => small letter (List.mem_cons_of_mem _ inside)), List.length_cons]
        omega
  rw [stringLength, counted 0, Nat.zero_add]

/-- The validator reads every rendering as the key. -/
theorem signInSchema_renders {key text : Text} (isKey : IsLoginKey key) (renders : Renders key text) :
    signInSchema text = some { loginKey := key } := by
  obtain ⟨leading, body, trailing, rfl, before, after, dashed⟩ := renders
  have matching : matchesLoginKey key = true := by
    unfold matchesLoginKey
    rw [isKey.length, beq_self_eq_true, Bool.true_and, List.all_eq_true]
    exact fun letter inside => List.contains_iff_mem.mpr (isKey.letters letter inside)
  have long : stringLength key = loginKeyLength :=
    (stringLength_of_small fun letter inside => small_letter (isKey.letters letter inside)).trans isKey.length
  unfold signInSchema
  simp only [trim_surrounded before after (dashed.solid isKey.letters), dashed.capitals isKey.letters]
  rw [if_pos ⟨long, matching⟩]

/-- The lookup of a key hashes the key as it is. -/
theorem generateLoginKeyLookup_eq (platform : Platform) {key : Text} (isKey : IsLoginKey key) :
    generateLoginKeyLookup platform key = platform.hmacSha256 platform.loginKeySecret key := by
  have nonempty : key ≠ [] := by
    intro empty
    have length := isKey.length
    rw [empty] at length
    cases length
  have dashed := dashed_self nonempty
  have solid := dashed.solid isKey.letters
  have trimmed : trim key = key := by
    have surrounded : trim ([] ++ key ++ []) = key :=
      trim_surrounded (fun _ inside => absurd inside List.not_mem_nil)
        (fun _ inside => absurd inside List.not_mem_nil) solid
    rw [List.nil_append, List.append_nil] at surrounded
    exact surrounded
  have upper : toUpperCase key = key := by
    have capitals := dashed.capitals isKey.letters
    rw [List.filter_eq_self.mpr] at capitals
    · exact capitals
    · intro letter inside
      exact bne_iff_ne.mpr (written_letter (isKey.letters letter inside) (.inl rfl)).1
  rw [generateLoginKeyLookup, trimmed, upper]

theorem generateRandomString_isLoginKey (draw : Nat → Nat) :
    IsLoginKey (generateRandomString draw loginKeyLength) := by
  refine ⟨by simp [generateRandomString], ?_⟩
  intro letter inside
  obtain ⟨index, -, rfl⟩ := List.mem_map.mp inside
  have bound : draw index % friendlyAlphabet.length < friendlyAlphabet.length := Nat.mod_lt _ (by decide)
  rw [List.getD_eq_getElem?_getD, List.getElem?_eq_getElem bound]
  exact List.getElem_mem bound

end Messinger
