import Mathlib.Data.Set.Insert
import Messinger.Library.NormalForms
import Messinger.Proof.PrivatePairs

namespace Messinger
open Library ConversationService ConversationRepository

namespace ConversationService

/-- This is the key that `getOrCreatePrivateConversation` computes. -/
def privateKeyOf (platform : Platform) (creatorId : Text) (members : List Text) : Text :=
  generatePrivateKey platform (normalizeMembers creatorId members)

theorem textLe_trans {first second third : Text} (left : textLe first second = true)
    (right : textLe second third = true) : textLe first third = true :=
  decide_eq_true (List.le_trans (of_decide_eq_true left) (of_decide_eq_true right))

instance : Std.Total fun first second : Text => textLe first second = true := ⟨textLe_total⟩

instance : IsTrans Text fun first second => textLe first second = true := ⟨fun _ _ _ => textLe_trans⟩

theorem normalizeMembers_eq (creatorId : Text) (members : List Text) :
    normalizeMembers creatorId members = firstOccurrences (creatorId :: members) := rfl

/-- The sorted texts do not depend on the order in which they come. -/
theorem sortTexts_eq_of_perm {texts others : List Text} (perm : texts.Perm others) :
    sortTexts texts = sortTexts others :=
  insertionSort_eq_of_perm _ (fun _ _ => textLe_antisymm) perm

/-- The key depends on the set of the identifiers. -/
theorem privateKeyOf_congr (platform : Platform) {creatorId otherId : Text} {members others : List Text}
    (same : ∀ text, text ∈ creatorId :: members ↔ text ∈ otherId :: others) :
    privateKeyOf platform creatorId members = privateKeyOf platform otherId others := by
  unfold privateKeyOf generatePrivateKey
  rw [normalizeMembers_eq, normalizeMembers_eq, sortTexts_eq_of_perm (firstOccurrences_perm same)]

/-- A private conversation is found or opened under this key. -/
theorem getOrCreatePrivateConversation_key {platform : Platform} {env : Env} {params : CreateConversationParams}
    (isPrivate : params.type = .privateType) {store next : Store} {conversation : Conversation}
    (done : getOrCreatePrivateConversation platform env params store = (.ok conversation, next)) :
    conversation.privateKey = some (privateKeyOf platform params.creatorId params.members) := by
  obtain ⟨exception, failed⟩ | ⟨privateKey, found, last, rfl, returned, kind⟩ :=
    getOrCreatePrivateConversation_cases platform env params isPrivate store
  · rw [failed] at done
    cases done
  · rw [returned] at done
    cases done
    obtain ⟨-, present⟩ | ⟨-, rfl, -⟩ := kind
    · exact (lookup_mem Conversation.privateKey present).2
    · rfl

end ConversationService

/-- Two pairs of uuids have one key exactly when they are the same set, and the key of any list of identifiers
depends on their set. -/
structure NamesSets (platform : Platform) : Prop where
  pairs : ∀ first second third fourth, isUuid first = true → isUuid second = true → isUuid third = true →
    isUuid fourth = true →
      (privateKeyOf platform first [second] = privateKeyOf platform third [fourth] ↔
        ({first, second} : Set Text) = {third, fourth})
  lists : ∀ (creatorId : Text) (members : List Text) (otherId : Text) (others : List Text),
    {text | text ∈ creatorId :: members} = {text | text ∈ otherId :: others} →
      privateKeyOf platform creatorId members = privateKeyOf platform otherId others

theorem private_key_names_sets {platform : Platform} (injective : Function.Injective platform.sha256) :
    NamesSets platform where
  pairs first second third fourth one two three four := by
    have plain {creatorId memberId : Text} (creator : isUuid creatorId = true) (member : isUuid memberId = true) :
        ∀ text ∈ normalizeMembers creatorId [memberId], ':' ∉ text := by
      intro text inside
      obtain rfl | rfl := mem_normalizeMembers.mp inside
      · exact colon_not_mem_of_isUuid creator
      · exact colon_not_mem_of_isUuid member
    have filled (creatorId memberId : Text) : normalizeMembers creatorId [memberId] ≠ [] :=
      List.ne_nil_of_mem (mem_normalizeMembers.mpr (.inl rfl))
    constructor
    · intro same
      have perm := perm_of_generatePrivateKey injective (filled _ _) (filled _ _) (plain one two) (plain three four)
        same
      ext text
      rw [Set.mem_insert_iff, Set.mem_singleton_iff, Set.mem_insert_iff, Set.mem_singleton_iff,
        ← mem_normalizeMembers, ← mem_normalizeMembers]
      exact perm.mem_iff
    · intro same
      apply privateKeyOf_congr
      intro text
      have listed := Set.ext_iff.mp same text
      rw [Set.mem_insert_iff, Set.mem_singleton_iff, Set.mem_insert_iff, Set.mem_singleton_iff] at listed
      rw [List.mem_cons, List.mem_singleton, List.mem_cons, List.mem_singleton]
      exact listed
  lists creatorId members otherId others same :=
    privateKeyOf_congr platform (Set.ext_iff.mp same)

theorem plainPlatform_names_sets : NamesSets plainPlatform :=
  private_key_names_sets Function.injective_id

end Messinger
