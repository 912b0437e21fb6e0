import Messinger.Proof.UuidText
import Messinger.Proof.TextEncoding
import Messinger.Model.ConversationService

namespace Messinger.ConversationService
open Messinger

theorem textLe_total (first second : Text) : textLe first second = true ∨ textLe second first = true := by
  unfold textLe
  rw [decide_eq_true_iff, decide_eq_true_iff]
  exact List.le_total _ _

theorem textLe_antisymm {first second : Text} (left : textLe first second = true)
    (right : textLe second first = true) : first = second :=
  codeUnits_inj (Std.le_antisymm (of_decide_eq_true left) (of_decide_eq_true right))

/-- The order of the two strings does not matter for the key. -/
theorem sortTexts_pair (first second : Text) : sortTexts [first, second] = sortTexts [second, first] := by
  simp only [sortTexts, List.insertionSort_cons, List.insertionSort_nil, List.orderedInsert_cons,
    List.orderedInsert_nil]
  by_cases same : first = second
  · rw [same]
  · obtain left | right := textLe_total first second
    · have other : ¬ textLe second first = true := fun right => same (textLe_antisymm left right)
      rw [if_pos left, if_neg other]
    · have other : ¬ textLe first second = true := fun left => same (textLe_antisymm left right)
      rw [if_pos right, if_neg other]

theorem normalizeMembers_same (creatorId : Text) : normalizeMembers creatorId [creatorId] = [creatorId] := by
  simp [normalizeMembers, List.zipIdx]

theorem normalizeMembers_pair {creatorId receiverId : Text} (different : creatorId ≠ receiverId) :
    normalizeMembers creatorId [receiverId] = [creatorId, receiverId] := by
  simp [normalizeMembers, List.zipIdx, different]

theorem mem_normalizeMembers {creatorId receiverId text : Text} :
    text ∈ normalizeMembers creatorId [receiverId] ↔ text = creatorId ∨ text = receiverId := by
  by_cases same : creatorId = receiverId
  · subst same
    rw [normalizeMembers_same, List.mem_singleton, or_self]
  · rw [normalizeMembers_pair same, List.mem_cons, List.mem_singleton]

/-- The key of a pair of strings is the key of the pair in the other order. -/
theorem generatePrivateKey_comm (platform : Platform) (first second : Text) :
    generatePrivateKey platform (normalizeMembers first [second]) =
      generatePrivateKey platform (normalizeMembers second [first]) := by
  by_cases same : first = second
  · rw [same]
  · rw [normalizeMembers_pair same, normalizeMembers_pair (Ne.symm same), generatePrivateKey, sortTexts_pair]
    rfl

theorem perm_sortTexts (texts : List Text) : (sortTexts texts).Perm texts := List.perm_insertionSort _ texts

/-- Without collisions of the hash, a key belongs to the same strings in some order. -/
theorem perm_of_generatePrivateKey {platform : Platform} (injective : Function.Injective platform.sha256)
    {texts others : List Text} (filled : texts ≠ []) (nonempty : others ≠ [])
    (left : ∀ text ∈ texts, ':' ∉ text) (right : ∀ text ∈ others, ':' ∉ text)
    (same : generatePrivateKey platform texts = generatePrivateKey platform others) : texts.Perm others := by
  have separated {list : List Text} (filled : list ≠ []) (plain : ∀ text ∈ list, ':' ∉ text) :
      ([':'].intercalate (sortTexts list)).splitOn ':' = sortTexts list := by
    apply List.splitOn_intercalate
    · exact fun text inside => plain text ((perm_sortTexts list).mem_iff.mp inside)
    · intro empty
      exact filled (List.perm_nil.mp (empty ▸ (perm_sortTexts list).symm))
  have sorted : sortTexts texts = sortTexts others := by
    rw [← separated filled left, ← separated nonempty right, injective same]
  have first := perm_sortTexts texts
  rw [sorted] at first
  exact first.symm.trans (perm_sortTexts others)

/-- A key text has the colons of its parts, and one between each two of them. -/
theorem count_intercalate (texts : List Text) (filled : texts ≠ []) :
    ([':'].intercalate texts).count ':' + 1 = texts.flatten.count ':' + texts.length := by
  induction texts with
  | nil => exact absurd rfl filled
  | cons text rest ih =>
      cases rest with
      | nil => simp
      | cons other others =>
          have tail := ih (List.cons_ne_nil other others)
          rw [List.intercalate_cons_cons]
          simp only [List.count_append, List.flatten_cons, List.length_cons] at tail ⊢
          have separator : List.count ':' [':'] = 1 := rfl
          omega

/-- A key of strings without colons is not the key of as many strings with colons. -/
theorem plain_of_generatePrivateKey {platform : Platform} (injective : Function.Injective platform.sha256)
    {texts others : List Text} (filled : texts ≠ []) (nonempty : others ≠ [])
    (plain : ∀ text ∈ others, ':' ∉ text) (many : others.length ≤ texts.length)
    (same : generatePrivateKey platform texts = generatePrivateKey platform others) :
    ∀ text ∈ texts, ':' ∉ text := by
  have counted {list : List Text} (filled : list ≠ []) :
      ([':'].intercalate (sortTexts list)).count ':' + 1 = list.flatten.count ':' + list.length := by
    have perm := perm_sortTexts list
    rw [count_intercalate _ fun empty => filled (List.perm_nil.mp (empty ▸ perm.symm)), perm.length_eq,
      perm.flatten.count_eq]
  have none : others.flatten.count ':' = 0 := by
    rw [List.count_eq_zero, List.mem_flatten]
    rintro ⟨text, listed, inside⟩
    exact plain text listed inside
  have left := counted filled
  rw [injective same, counted nonempty, none] at left
  have empty : texts.flatten.count ':' = 0 := by omega
  intro text listed inside
  exact List.count_eq_zero.mp empty (List.mem_flatten.mpr ⟨text, listed, inside⟩)

end Messinger.ConversationService
