import QuotaRing.Limit.Counter
import QuotaRing.Proofs.Store.Forms
import QuotaRing.Proofs.Text.Digits

/-!
# Keys of counters

The key of a counter is a text of four parts between colons.  Names that are
accepted have no colon and neither has a digest, so the parts can be told from
the whole text; and the text of accepted names is always a key.
-/

namespace QuotaRing.Limit

open QuotaRing.Store (IsKey IsShort Key)
open QuotaRing.Text (isControl)
open QuotaRing.Text.Hexadecimal (fixed lowerDigits plain_of_mem_lowerDigits)

/-! ## Digests -/

theorem length_digest (subject : String) : (digest subject).length = 32 := by
  simp [digest, Text.Hexadecimal.length_fixed]

theorem digest_subset (subject : String) :
    ∀ character ∈ digest subject, character ∈ lowerDigits := by
  intro character member
  rw [digest] at member
  rcases List.mem_append.1 member with first | second
  · exact Text.Hexadecimal.fixed_subset _ _ character first
  · exact Text.Hexadecimal.fixed_subset _ _ character second

theorem colon_notMem_digest (subject : String) : ':' ∉ digest subject := by
  intro member
  exact (plain_of_mem_lowerDigits (digest_subset subject ':' member)).2.1 rfl

/-- The 128 bits that a digest spells. -/
def fingerprint (subject : String) : UInt64 × UInt64 :=
  (XxHash.hash 0 (Text.Utf8.encode subject),
    XxHash.hash 1 (Text.Utf8.encode subject))

theorem digest_eq_fingerprint (subject : String) :
    digest subject =
      fixed 16 (fingerprint subject).1.toNat ++
        fixed 16 (fingerprint subject).2.toNat := by
  rw [digest]
  rfl

theorem digest_eq_iff {subject other : String} :
    digest subject = digest other ↔ fingerprint subject = fingerprint other := by
  rw [digest_eq_fingerprint, digest_eq_fingerprint]
  constructor
  · intro same
    have lengths : (fixed 16 (fingerprint subject).1.toNat).length =
        (fixed 16 (fingerprint other).1.toNat).length := by
      rw [Text.Hexadecimal.length_fixed, Text.Hexadecimal.length_fixed]
    rcases List.append_inj same lengths with ⟨first, second⟩
    have fits : ∀ word : UInt64, word.toNat < 16 ^ 16 := fun word => word.toNat_lt
    exact Prod.ext
      (UInt64.toNat_inj.1 (Text.Hexadecimal.fixed_inj (fits _) (fits _) first))
      (UInt64.toNat_inj.1 (Text.Hexadecimal.fixed_inj (fits _) (fits _) second))
  · intro same
    rw [same]

/-- A text takes four bytes for a character at most, and one for a digit. -/
theorem utf8ByteSize_ofList_of_digits
    {characters : List Char}
    (digits : ∀ character ∈ characters, character ∈ lowerDigits) :
    (String.ofList characters).utf8ByteSize = characters.length := by
  induction characters with
  | nil => rfl
  | cons first rest ih =>
      have one : (String.ofList [first]).utf8ByteSize = 1 := by
        rw [← String.singleton_eq_ofList, String.utf8ByteSize_singleton]
        exact (plain_of_mem_lowerDigits (digits first List.mem_cons_self)).2.2
      have others := ih fun character member =>
        digits character (List.mem_cons_of_mem first member)
      rw [← List.singleton_append, String.ofList_append,
        String.utf8ByteSize_append, one, others, List.length_append,
        List.length_singleton]

/-! ## The parts of a key -/

theorem toList_counterText (subject group limit : String) :
    (counterText subject group limit).toList =
      "ratelimit".toList ++ ':' :: (group.toList ++ ':' ::
        (limit.toList ++ ':' :: digest subject)) := by
  unfold counterText
  -- a digest is not to be computed
  generalize digest subject = digits
  rw [String.toList_ofList]
  simp only [List.append_assoc, List.cons_append, List.nil_append]

theorem count_colon_counterText (subject group limit : String) :
    (counterText subject group limit).toList.count ':' =
      3 + group.toList.count ':' + limit.toList.count ':' := by
  have none : (digest subject).count ':' = 0 :=
    List.count_eq_zero.2 (colon_notMem_digest subject)
  have first : "ratelimit".toList.count ':' = 0 := by simp
  rw [toList_counterText]
  simp only [List.count_append, List.count_cons_self, none, first]
  omega

/-- What stands before the first colon, and what behind it. -/
theorem append_colon_inj
    {left right leftRest rightRest : List Char}
    (leftFree : ':' ∉ left)
    (rightFree : ':' ∉ right)
    (same : left ++ ':' :: leftRest = right ++ ':' :: rightRest) :
    left = right ∧ leftRest = rightRest := by
  induction left generalizing right with
  | nil =>
      cases right with
      | nil => exact ⟨rfl, List.tail_eq_of_cons_eq same⟩
      | cons first rest =>
          rw [List.nil_append, List.cons_append] at same
          rw [← List.head_eq_of_cons_eq same] at rightFree
          exact absurd List.mem_cons_self rightFree
  | cons first rest ih =>
      cases right with
      | nil =>
          rw [List.nil_append, List.cons_append] at same
          rw [List.head_eq_of_cons_eq same] at leftFree
          exact absurd List.mem_cons_self leftFree
      | cons other others =>
          rw [List.cons_append, List.cons_append, List.cons.injEq] at same
          rcases same with ⟨rfl, same⟩
          have tails := ih (fun member => leftFree (List.mem_cons_of_mem _ member))
            (fun member => rightFree (List.mem_cons_of_mem _ member)) same
          exact ⟨congrArg (List.cons first) tails.1, tails.2⟩

/--
A counter of names without colons shares its text with no counter of other
names, with or without colons.
-/
theorem counterText_inj
    {subject group limit otherSubject otherGroup otherLimit : String}
    (groupFree : ':' ∉ group.toList)
    (limitFree : ':' ∉ limit.toList)
    (same : counterText otherSubject otherGroup otherLimit =
      counterText subject group limit) :
    otherGroup = group ∧ otherLimit = limit ∧
      digest otherSubject = digest subject := by
  have counts := congrArg (fun text : String => text.toList.count ':') same
  simp only [count_colon_counterText, List.count_eq_zero.2 groupFree,
    List.count_eq_zero.2 limitFree] at counts
  have otherGroupFree : ':' ∉ otherGroup.toList := by
    apply List.count_eq_zero.1
    omega
  have otherLimitFree : ':' ∉ otherLimit.toList := by
    apply List.count_eq_zero.1
    omega
  have parts := congrArg String.toList same
  rw [toList_counterText, toList_counterText] at parts
  have behindFirst := (append_colon_inj (by decide) (by decide) parts).2
  rcases append_colon_inj otherGroupFree groupFree behindFirst with
    ⟨groups, behindGroup⟩
  rcases append_colon_inj otherLimitFree limitFree behindGroup with
    ⟨limits, digests⟩
  exact ⟨String.toList_inj.1 groups, String.toList_inj.1 limits, digests⟩

/-! ## When a counter has a key -/

theorem counterKey_eq_ok_iff
    {subject group limit : String}
    {key : Key} :
    counterKey subject group limit = .ok key ↔
      key.text = counterText subject group limit := by
  rw [← Key.ofText?_eq_some_iff]
  rw [counterKey]
  cases Key.ofText? (counterText subject group limit) with
  | none => simp
  | some found => simp

/-- A counter keeps its key where its subject gives way to one of the same digest. -/
theorem counterKey_congr
    {subject other : String}
    (same : digest subject = digest other)
    (group limit : String) :
    counterKey subject group limit = counterKey other group limit := by
  have texts : counterText subject group limit = counterText other group limit := by
    unfold counterText
    rw [same]
  rw [counterKey, counterKey, texts]

/-- The key of plain names is that of no other names, however they are spelled. -/
theorem counterKey_inj
    {subject group limit otherSubject otherGroup otherLimit : String}
    {key : Key}
    (groupFree : ':' ∉ group.toList)
    (limitFree : ':' ∉ limit.toList)
    (named : counterKey subject group limit = .ok key)
    (otherNamed : counterKey otherSubject otherGroup otherLimit = .ok key) :
    otherGroup = group ∧ otherLimit = limit ∧
      digest otherSubject = digest subject := by
  rw [counterKey_eq_ok_iff] at named otherNamed
  exact counterText_inj groupFree limitFree (otherNamed.symm.trans named)

theorem utf8ByteSize_counterText (subject group limit : String) :
    (counterText subject group limit).utf8ByteSize =
      44 + group.utf8ByteSize + limit.utf8ByteSize := by
  have colon : (String.ofList [':']).utf8ByteSize = 1 := by decide
  have word : "ratelimit".utf8ByteSize = 9 := rfl
  have size := utf8ByteSize_ofList_of_digits (digest_subset subject)
  rw [length_digest] at size
  unfold counterText
  generalize digest subject = digits at size ⊢
  simp only [String.ofList_append, String.utf8ByteSize_append,
    String.ofList_toList, colon, word, size]
  omega

/-- The name of a limit that has counters is short. -/
theorem isShort_of_named
    {subject group : String}
    {definition : Definition}
    {key : Key}
    (named : counterKey subject group definition.id = .ok key) :
    IsShort definition.quota := by
  have size := key.valid.2.1
  rw [counterKey_eq_ok_iff.1 named, utf8ByteSize_counterText] at size
  have capacious : 512 < Wire.capacity Wire.Width.eight.bytes := by decide
  simp only [IsShort, Definition.quota, Store.maxKeyBytes] at *
  omega

end QuotaRing.Limit
