import QuotaRing.Text.Control
import QuotaRing.Text.Utf8

/-!
# Keys of stored objects

A key is a text that is not empty, has at most 512 bytes and no control
character.  The bound and the exclusion belong to the type, so that whoever
holds a key need not check it again.
-/

namespace QuotaRing.Store

def maxKeyBytes : Nat := 512

/-- What makes a text a key. -/
def IsKey (text : String) : Prop :=
  text.isEmpty = false ∧ text.utf8ByteSize ≤ maxKeyBytes ∧
    text.toList.any Text.isControl = false

instance (text : String) : Decidable (IsKey text) :=
  inferInstanceAs (Decidable (_ ∧ _ ∧ _))

/-- The name of a stored object. -/
structure Key where
  text : String
  valid : IsKey text

namespace Key

def ofText? (text : String) : Option Key :=
  if valid : IsKey text then some ⟨text, valid⟩ else none

/-- The bytes that decide where a key is placed. -/
def bytes (key : Key) : List UInt8 :=
  Text.Utf8.encode key.text

theorem ext {left right : Key} (same : left.text = right.text) : left = right := by
  cases left
  cases right
  cases same
  rfl

instance : DecidableEq Key := fun left right =>
  if same : left.text = right.text then
    isTrue (ext same)
  else
    isFalse fun equal => same (congrArg text equal)

theorem ofText?_text (key : Key) : ofText? key.text = some key := by
  unfold ofText?
  rw [dif_pos key.valid]

theorem ofText?_eq_some_iff
    {text : String}
    {key : Key} :
    ofText? text = some key ↔ key.text = text := by
  constructor
  · intro found
    unfold ofText? at found
    split at found
    · cases found
      rfl
    · cases found
  · intro same
    subst same
    exact ofText?_text key

end Key

end QuotaRing.Store
