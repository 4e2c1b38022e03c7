import QuotaRing.Proofs.Checks
import QuotaRing.Proofs.Wire.RoundTrip

/-!
# Lengths that are not there

The length of a text or of a sequence stands before it.  A reader takes all bytes
of a text and at least one for each value of a sequence, so a length that tells of
more than is left is refused.  The form of a number tells where it ends, so the
reader of a length leaves what is behind it, whatever that is.
-/

namespace QuotaRing.Wire

/-- Whether bytes are not the form of any value of a type. -/
def IsNoForm (α : Type) [Coded α] (bytes : List UInt8) : Prop :=
  ∃ fault, (decode bytes : Except DecodeError α) = .error fault

theorem isNoForm_of_decodePrefix
    {α : Type}
    [Coded α]
    {bytes : List UInt8}
    {fault : DecodeError}
    (refused :
      (decodePrefix bytes : Except DecodeError (α × List UInt8)) = .error fault) :
    IsNoForm α bytes :=
  ⟨fault, by simp only [decode, refused, bind, Except.bind]⟩

/-! ## Forms of numbers -/

theorem encodeNat_ne_nil (number : Nat) : encodeNat number ≠ [] := by
  rw [encodeNat]
  repeat' split
  all_goals exact List.cons_ne_nil _ _

/-- A reader of wide numbers takes the form of any number and leaves the rest. -/
theorem exists_decodeNat (number : Nat) (rest : List UInt8) :
    ∃ read, decodeNat .eight (encodeNat number ++ rest) = .ok (read, rest) := by
  by_cases bound : number < capacity Width.eight.bytes
  · exact ⟨number, decodeNat_encodeNat bound rest⟩
  · -- the form of a number that is too large keeps its lowest eight bytes
    have large : 0x100000000 ≤ number := by
      simp only [Width.bytes, capacity] at bound
      omega
    have form : encodeNat number = 253 :: littleEndian 8 number := by
      rw [encodeNat, if_neg (by omega), if_neg (by omega), if_neg (by omega)]
    refine ⟨ofLittleEndian (littleEndian 8 number), ?_⟩
    rw [form]
    rfl

theorem length_le_of_splitExactly
    {count : Nat}
    {bytes taken rest : List UInt8}
    (split : splitExactly count bytes = .ok (taken, rest)) :
    rest.length ≤ bytes.length := by
  rw [splitExactly] at split
  split at split
  · cases split
    rw [List.length_drop]
    exact Nat.sub_le _ _
  · cases split

theorem length_lt_of_decodeNat
    {width : Width}
    {bytes rest : List UInt8}
    {number : Nat}
    (read : decodeNat width bytes = .ok (number, rest)) :
    rest.length < bytes.length := by
  cases bytes with
  | nil => cases read
  | cons first behind =>
      simp only [decodeNat] at read
      split at read
      · cases read
        exact Nat.lt_succ_self _
      · split at read
        · cases read
        · split at read
          · cases read
          · rcases Checks.bind_eq_ok read with ⟨⟨form, left⟩, taken, same⟩
            cases same
            exact Nat.lt_succ_of_le (length_le_of_splitExactly taken)

/-! ## Lengths -/

theorem splitExactly_of_short
    {count : Nat}
    {bytes : List UInt8}
    (short : bytes.length < count) :
    splitExactly count bytes = .error .unexpectedEnd := by
  have taken : (bytes.take count).length ≠ count := by
    rw [List.length_take]
    omega
  simp only [splitExactly, if_neg taken]

/-- A text of which not all bytes are there is refused for the end of its bytes. -/
theorem decodePrefix_text_of_short
    {bytes rest : List UInt8}
    {length : Nat}
    (read : decodeNat .eight bytes = .ok (length, rest))
    (short : rest.length < length) :
    (decodePrefix bytes : Except DecodeError (String × List UInt8)) =
      .error .unexpectedEnd := by
  simp only [decodePrefix, read, splitExactly_of_short short, bind, Except.bind]

theorem length_lt_of_int64
    {bytes rest : List UInt8}
    {number : Int64}
    (read : decodePrefix bytes = .ok (number, rest)) :
    rest.length < bytes.length := by
  rcases Checks.bind_eq_ok read with ⟨⟨folded, behind⟩, told, same⟩
  cases same
  exact length_lt_of_decodeNat told

variable {α : Type} [Coded α]

/-- More values than there are bytes cannot be read, if each takes one at least. -/
theorem decodeMany_of_short
    (takes : ∀ {bytes rest : List UInt8} {value : α},
      decodePrefix bytes = .ok (value, rest) → rest.length < bytes.length)
    {count : Nat}
    {bytes : List UInt8}
    (short : bytes.length < count)
    (reversed : List α) :
    ∃ fault, decodeMany count reversed bytes = .error fault := by
  induction count generalizing bytes reversed with
  | zero => cases short
  | succ count ih =>
      rw [decodeMany]
      cases read : (decodePrefix bytes : Except DecodeError (α × List UInt8)) with
      | error fault => exact ⟨fault, rfl⟩
      | ok pair =>
          have fewer := takes read
          exact ih (by omega) (pair.1 :: reversed)

theorem exists_decodePrefix_list_of_short
    (takes : ∀ {bytes rest : List UInt8} {value : α},
      decodePrefix bytes = .ok (value, rest) → rest.length < bytes.length)
    {bytes rest : List UInt8}
    {count : Nat}
    (read : decodeNat .eight bytes = .ok (count, rest))
    (short : rest.length < count) :
    ∃ fault,
      (decodePrefix bytes : Except DecodeError (List α × List UInt8)) =
        .error fault := by
  rcases decodeMany_of_short takes short [] with ⟨fault, refused⟩
  refine ⟨fault, ?_⟩
  simp only [decodePrefix, read, bind, Except.bind]
  exact refused

end QuotaRing.Wire
