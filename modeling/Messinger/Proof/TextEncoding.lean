import Messinger.Model.Platform

namespace Messinger

/-- These are the code points that are not surrogates. -/
def IsScalar (scalar : Nat) : Prop := scalar < 0xD800 ∨ 0xE000 ≤ scalar ∧ scalar < 0x110000

/-- Every surrogate of the text stands in a pair. -/
def isWellFormed : CodeUnits → Bool
  | [] => true
  | [unit] => !(isHighSurrogate unit || isLowSurrogate unit)
  | high :: low :: rest =>
      if isHighSurrogate high && isLowSurrogate low then isWellFormed rest
      else !(isHighSurrogate high || isLowSurrogate high) && isWellFormed (low :: rest)

/-- Each lone surrogate becomes U+FFFD. -/
def toWellFormed (content : CodeUnits) : CodeUnits := (scalars content).flatMap unitsOfScalar

section Units
variable {unit high low : UInt16}

theorem isHighSurrogate_iff : isHighSurrogate unit = true ↔ 0xD800 ≤ unit.toNat ∧ unit.toNat ≤ 0xDBFF := by
  rw [isHighSurrogate, Bool.and_eq_true, decide_eq_true_iff, decide_eq_true_iff]
  exact Iff.rfl

theorem isLowSurrogate_iff : isLowSurrogate unit = true ↔ 0xDC00 ≤ unit.toNat ∧ unit.toNat ≤ 0xDFFF := by
  rw [isLowSurrogate, Bool.and_eq_true, decide_eq_true_iff, decide_eq_true_iff]
  exact Iff.rfl

theorem isScalar_scalarOfUnit : IsScalar (scalarOfUnit unit) := by
  have bound := unit.toNat_lt
  unfold scalarOfUnit
  split
  · exact .inr ⟨by decide, by decide⟩
  · next other =>
      rw [Bool.or_eq_true, isHighSurrogate_iff, isLowSurrogate_iff] at other
      unfold IsScalar
      omega

theorem unitsOfScalar_scalarOfUnit :
    unitsOfScalar (scalarOfUnit unit) =
      [if isHighSurrogate unit || isLowSurrogate unit then 0xFFFD else unit] := by
  have bound := unit.toNat_lt
  unfold scalarOfUnit
  split
  · rfl
  · rw [unitsOfScalar, if_pos bound, UInt16.ofNat_toNat]

/-- This is the scalar value of a surrogate pair. -/
def scalarOfPair (high low : UInt16) : Nat := 0x10000 + (high.toNat - 0xD800) * 0x400 + (low.toNat - 0xDC00)

theorem scalars_pair (pair : (isHighSurrogate high && isLowSurrogate low) = true) (rest : CodeUnits) :
    scalars (high :: low :: rest) = scalarOfPair high low :: scalars rest := by
  rw [scalars, if_pos pair]
  unfold scalarOfPair
  exact Eq.refl _

theorem isScalar_scalarOfPair (first : isHighSurrogate high = true) (second : isLowSurrogate low = true) :
    IsScalar (scalarOfPair high low) := by
  rw [isHighSurrogate_iff] at first
  rw [isLowSurrogate_iff] at second
  unfold IsScalar scalarOfPair
  omega

theorem unitsOfScalar_scalarOfPair (first : isHighSurrogate high = true) (second : isLowSurrogate low = true) :
    unitsOfScalar (scalarOfPair high low) = [high, low] := by
  rw [isHighSurrogate_iff] at first
  rw [isLowSurrogate_iff] at second
  have astral : ¬ scalarOfPair high low < 0x10000 := by
    unfold scalarOfPair
    omega
  have quotient : 0xD800 + (scalarOfPair high low - 0x10000) / 0x400 = high.toNat := by
    unfold scalarOfPair
    omega
  have remainder : 0xDC00 + (scalarOfPair high low - 0x10000) % 0x400 = low.toNat := by
    unfold scalarOfPair
    omega
  rw [unitsOfScalar, if_neg astral, quotient, remainder, UInt16.ofNat_toNat, UInt16.ofNat_toNat]

end Units

/-- The units of a scalar value are read back, whatever follows them. -/
theorem scalars_unitsOfScalar {scalar : Nat} (valid : IsScalar scalar) (rest : CodeUnits) :
    scalars (unitsOfScalar scalar ++ rest) = scalar :: scalars rest := by
  unfold IsScalar at valid
  unfold unitsOfScalar
  split
  · next small =>
      have value : (UInt16.ofNat scalar).toNat = scalar := UInt16.toNat_ofNat_of_lt' small
      have high : isHighSurrogate (UInt16.ofNat scalar) = false := by
        rw [Bool.eq_false_iff, ne_eq, isHighSurrogate_iff, value]
        omega
      have low : isLowSurrogate (UInt16.ofNat scalar) = false := by
        rw [Bool.eq_false_iff, ne_eq, isLowSurrogate_iff, value]
        omega
      have alone : scalarOfUnit (UInt16.ofNat scalar) = scalar := by
        rw [scalarOfUnit, high, low]
        exact value
      cases rest with
      | nil => simp only [List.append_nil, scalars, alone]
      | cons other tail =>
          change scalars (UInt16.ofNat scalar :: other :: tail) = _
          rw [scalars, high, Bool.false_and, if_neg Bool.false_ne_true, alone]
  · next astral =>
      have whole : 0x400 * ((scalar - 0x10000) / 0x400) + (scalar - 0x10000) % 0x400 = scalar - 0x10000 :=
        Nat.div_add_mod _ _
      have below : (scalar - 0x10000) % 0x400 < 0x400 := Nat.mod_lt _ (by decide)
      generalize (scalar - 0x10000) / 0x400 = quotient at whole ⊢
      generalize (scalar - 0x10000) % 0x400 = remainder at whole below ⊢
      have first : (UInt16.ofNat (0xD800 + quotient)).toNat = 0xD800 + quotient :=
        UInt16.toNat_ofNat_of_lt' (by change _ < 65536; omega)
      have second : (UInt16.ofNat (0xDC00 + remainder)).toNat = 0xDC00 + remainder :=
        UInt16.toNat_ofNat_of_lt' (by change _ < 65536; omega)
      have pair : (isHighSurrogate (UInt16.ofNat (0xD800 + quotient)) &&
          isLowSurrogate (UInt16.ofNat (0xDC00 + remainder))) = true := by
        rw [Bool.and_eq_true, isHighSurrogate_iff, isLowSurrogate_iff, first, second]
        omega
      have value : scalarOfPair (UInt16.ofNat (0xD800 + quotient)) (UInt16.ofNat (0xDC00 + remainder)) = scalar := by
        unfold scalarOfPair
        omega
      rw [List.cons_append, List.cons_append, List.nil_append, scalars_pair pair, value]

theorem scalars_codeUnits (text : Text) : scalars (codeUnits text) = text.map Char.toNat := by
  induction text with
  | nil => rfl
  | cons letter rest ih =>
      have valid : IsScalar letter.toNat := letter.valid
      rw [codeUnits, List.flatMap_cons, scalars_unitsOfScalar valid, List.map_cons]
      exact congrArg _ ih

/-- Different texts have different code units. -/
theorem codeUnits_inj {first second : Text} (same : codeUnits first = codeUnits second) : first = second := by
  have values := congrArg scalars same
  rw [scalars_codeUnits, scalars_codeUnits] at values
  exact (List.map_inj_right fun _ _ => Char.toNat_inj.mp).mp values

/-- A text holds scalar values only. -/
theorem isScalar_of_mem {content : CodeUnits} {scalar : Nat} (inside : scalar ∈ scalars content) :
    IsScalar scalar := by
  induction content using scalars.induct with
  | case1 => cases inside
  | case2 unit =>
      rw [scalars, List.mem_singleton] at inside
      rw [inside]
      exact isScalar_scalarOfUnit
  | case3 high low rest pair ih =>
      rw [scalars_pair pair, List.mem_cons] at inside
      obtain ⟨first, second⟩ := Bool.and_eq_true_iff.mp pair
      obtain same | later := inside
      · rw [same]
        exact isScalar_scalarOfPair first second
      · exact ih later
  | case4 high low rest alone ih =>
      rw [scalars, if_neg alone, List.mem_cons] at inside
      obtain rfl | later := inside
      · exact isScalar_scalarOfUnit
      · exact ih later

section Decoder
variable {decoder : Utf8Decoder} {bits : Nat} {rest : List Nat}

/-- A byte in range that is not the last one adds its bits. -/
theorem utf8Scalars_more (more : 2 ≤ decoder.needed) (lower : decoder.lower ≤ 0x80 + bits)
    (upper : 0x80 + bits ≤ decoder.upper) :
    utf8Scalars decoder ((0x80 + bits) :: rest) =
      utf8Scalars { codePoint := decoder.codePoint * 0x40 + bits, needed := decoder.needed - 1 } rest := by
  have stepped : utf8Step decoder (0x80 + bits) =
      ([], { codePoint := decoder.codePoint * 0x40 + bits, needed := decoder.needed - 1 }) := by
    rw [utf8Step, if_neg (by omega), if_pos ⟨lower, upper⟩, Nat.add_sub_cancel_left]
    exact if_neg (by omega)
  rw [utf8Scalars, stepped, List.nil_append]

/-- The last byte yields the scalar value. -/
theorem utf8Scalars_last {codePoint : Nat} (small : bits < 0x40) :
    utf8Scalars { codePoint, needed := 1 } ((0x80 + bits) :: rest) =
      (codePoint * 0x40 + bits) :: utf8Scalars {} rest := by
  have inRange : 0x80 ≤ 0x80 + bits ∧ 0x80 + bits ≤ 0xBF := by omega
  have stepped : utf8Step { codePoint, needed := 1 } (0x80 + bits) = ([codePoint * 0x40 + bits], {}) := by
    rw [utf8Step, if_neg Nat.one_ne_zero, if_pos inRange, Nat.add_sub_cancel_left]
    rfl
  rw [utf8Scalars, stepped, List.singleton_append]

/-- The first byte of a sequence yields nothing. -/
theorem utf8Scalars_first {byte : Nat} (started : utf8Start byte = ([], decoder)) :
    utf8Scalars {} (byte :: rest) = utf8Scalars decoder rest := by
  have stepped : utf8Step {} byte = utf8Start byte := rfl
  rw [utf8Scalars, stepped, started, List.nil_append]

end Decoder

section Scalars
variable {scalar : Nat}

/-- The decoder reads one scalar value back from its bytes. -/
theorem utf8Scalars_utf8OfScalar (valid : IsScalar scalar) (rest : List Nat) :
    utf8Scalars {} (utf8OfScalar scalar ++ rest) = scalar :: utf8Scalars {} rest := by
  unfold IsScalar at valid
  unfold utf8OfScalar
  split
  · next ascii =>
      have stepped : utf8Step {} scalar = ([scalar], {}) := if_pos ascii
      rw [List.singleton_append, utf8Scalars, stepped, List.singleton_append]
  split
  · next wide short =>
      have started : utf8Start (0xC0 + scalar / 0x40) = ([], { codePoint := scalar / 0x40, needed := 1 }) := by
        rw [utf8Start, if_neg (by omega), if_pos (by omega), Nat.add_sub_cancel_left]
      rw [List.cons_append, List.singleton_append, utf8Scalars_first started,
        utf8Scalars_last (Nat.mod_lt _ (by decide)), Nat.div_add_mod']
  split
  · next wide short =>
      have started : utf8Start (0xE0 + scalar / 0x1000) =
          ([], { codePoint := scalar / 0x1000, needed := 2,
                 lower := if 0xE0 + scalar / 0x1000 = 0xE0 then 0xA0 else 0x80,
                 upper := if 0xE0 + scalar / 0x1000 = 0xED then 0x9F else 0xBF }) := by
        rw [utf8Start, if_neg (by omega), if_neg (by omega), if_pos (by omega), Nat.add_sub_cancel_left]
      rw [List.cons_append, List.cons_append, List.singleton_append, utf8Scalars_first started,
        utf8Scalars_more (Nat.le_refl 2) (by simp only; split <;> omega) (by simp only; split <;> omega)]
      change utf8Scalars { codePoint := scalar / 0x1000 * 0x40 + scalar / 0x40 % 0x40, needed := 1 } _ = _
      rw [utf8Scalars_last (Nat.mod_lt _ (by decide))]
      congr 1
      omega
  · next wide =>
      have started : utf8Start (0xF0 + scalar / 0x40000) =
          ([], { codePoint := scalar / 0x40000, needed := 3,
                 lower := if 0xF0 + scalar / 0x40000 = 0xF0 then 0x90 else 0x80,
                 upper := if 0xF0 + scalar / 0x40000 = 0xF4 then 0x8F else 0xBF }) := by
        rw [utf8Start, if_neg (by omega), if_neg (by omega), if_neg (by omega), if_pos (by omega),
          Nat.add_sub_cancel_left]
      rw [List.cons_append, List.cons_append, List.cons_append, List.singleton_append, utf8Scalars_first started,
        utf8Scalars_more (Nat.le_succ 2) (by simp only; split <;> omega) (by simp only; split <;> omega),
        utf8Scalars_more (Nat.le_refl 2) (by simp only; omega) (by simp only; omega)]
      change utf8Scalars
        { codePoint := (scalar / 0x40000 * 0x40 + scalar / 0x1000 % 0x40) * 0x40 + scalar / 0x40 % 0x40
          needed := 1 } _ = _
      rw [utf8Scalars_last (Nat.mod_lt _ (by decide))]
      congr 1
      omega

theorem utf8OfScalar_byte (valid : IsScalar scalar) {byte : Nat} (inside : byte ∈ utf8OfScalar scalar) : byte < 256 := by
  unfold IsScalar at valid
  unfold utf8OfScalar at inside
  split at inside
  · simp only [List.mem_singleton] at inside
    omega
  split at inside
  · simp only [List.mem_cons, List.not_mem_nil, or_false] at inside
    omega
  split at inside
  · simp only [List.mem_cons, List.not_mem_nil, or_false] at inside
    omega
  · simp only [List.mem_cons, List.not_mem_nil, or_false] at inside
    omega

end Scalars

/-- The decoder reads scalar values back from their bytes. -/
theorem utf8Scalars_flatMap {values : List Nat} (valid : ∀ scalar ∈ values, IsScalar scalar) :
    utf8Scalars {} (values.flatMap utf8OfScalar) = values := by
  induction values with
  | nil => rfl
  | cons scalar rest ih =>
      rw [List.flatMap_cons, utf8Scalars_utf8OfScalar (valid scalar List.mem_cons_self),
        ih fun other inside => valid other (List.mem_cons_of_mem scalar inside)]

/-- Buffer reads a text back from its bytes with U+FFFD for each lone surrogate. -/
theorem utf8Decode_utf8Encode (content : CodeUnits) : utf8Decode (utf8Encode content) = toWellFormed content := by
  have bytes : (utf8Encode content).map UInt8.toNat = (scalars content).flatMap utf8OfScalar := by
    rw [utf8Encode, List.map_map]
    refine (List.map_congr_left fun byte inside => ?_).trans (List.map_id _)
    obtain ⟨scalar, listed, among⟩ := List.mem_flatMap.mp inside
    exact UInt8.toNat_ofNat_of_lt' (utf8OfScalar_byte (isScalar_of_mem listed) among)
  rw [utf8Decode, bytes, utf8Scalars_flatMap fun scalar => isScalar_of_mem, toWellFormed]

/-- A surrogate is not U+FFFD. -/
theorem wellFormedUnit_eq_iff {unit : UInt16} :
    (if isHighSurrogate unit || isLowSurrogate unit then 0xFFFD else unit) = unit ↔
      (!(isHighSurrogate unit || isLowSurrogate unit)) = true := by
  split
  · next surrogate =>
      rw [surrogate]
      refine iff_of_false ?_ Bool.false_ne_true
      rintro rfl
      revert surrogate
      decide
  · next other =>
      rw [Bool.not_eq_true'] 
      exact iff_of_true rfl (Bool.eq_false_iff.mpr other)

theorem toWellFormed_eq_iff (content : CodeUnits) : toWellFormed content = content ↔ isWellFormed content = true := by
  induction content using isWellFormed.induct with
  | case1 => exact iff_of_true rfl rfl
  | case2 unit =>
      rw [toWellFormed, scalars, List.flatMap_singleton, unitsOfScalar_scalarOfUnit, List.cons.injEq, isWellFormed,
        ← wellFormedUnit_eq_iff]
      exact and_iff_left rfl
  | case3 high low rest pair ih =>
      obtain ⟨first, second⟩ := Bool.and_eq_true_iff.mp pair
      rw [toWellFormed, scalars_pair pair, List.flatMap_cons, unitsOfScalar_scalarOfPair first second, isWellFormed,
        if_pos pair, ← ih]
      exact List.append_right_inj [high, low]
  | case4 high low rest alone ih =>
      rw [toWellFormed, scalars, if_neg alone, List.flatMap_cons, unitsOfScalar_scalarOfUnit, List.singleton_append,
        List.cons.injEq, isWellFormed, if_neg alone, Bool.and_eq_true, ← ih, wellFormedUnit_eq_iff, toWellFormed]

end Messinger
