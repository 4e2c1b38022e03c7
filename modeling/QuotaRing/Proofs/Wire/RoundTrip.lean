import QuotaRing.Limit.Method
import QuotaRing.Limit.TimeUnit
import QuotaRing.Wire.Codec

/-!
# Reading what was written

A value reads back if its reader, given the form of the value and any bytes
behind it, returns the value and those bytes.  Numbers, truth values and names
of a list read back without condition; texts and sequences do if their length
can be written in eight bytes.
-/

namespace QuotaRing.Wire

/-- Whether the reader of a type gives a value back, whatever follows it. -/
def Reads {α : Type} [Coded α] (value : α) : Prop :=
  ∀ rest, decodePrefix (encode value ++ rest) = .ok (value, rest)

theorem Reads.decode
    {α : Type}
    [Coded α]
    {value : α}
    (reads : Reads value) :
    decode (encode value) = .ok value := by
  have prefixed := reads []
  rw [List.append_nil] at prefixed
  simp [Wire.decode, prefixed, bind, Except.bind]

/-! ## Natural numbers -/

theorem splitExactly_append (bytes rest : List UInt8) :
    splitExactly bytes.length (bytes ++ rest) = .ok (bytes, rest) := by
  simp [splitExactly]

/-- A number behind the marker of its width. -/
theorem decodeNat_marked
    {width : Width}
    {marker : UInt8}
    {count number : Nat}
    (large : ¬ marker < 251)
    (marks : payload? marker = some count)
    (allowed : count ≤ width.bytes)
    (bound : number < capacity count)
    (rest : List UInt8) :
    decodeNat width (marker :: (littleEndian count number ++ rest)) =
      .ok (number, rest) := by
  have split := splitExactly_append (littleEndian count number) rest
  rw [length_littleEndian] at split
  simp only [decodeNat, if_neg large, marks, if_neg (Nat.not_lt.2 allowed),
    split, bind, Except.bind, ofLittleEndian_littleEndian bound]

theorem decodeNat_encodeNat
    {width : Width}
    {number : Nat}
    (bound : number < capacity width.bytes)
    (rest : List UInt8) :
    decodeNat width (encodeNat number ++ rest) = .ok (number, rest) := by
  have widest : number < 0x10000000000000000 ∧
      (0x100000000 ≤ number → width = .eight) := by
    cases width <;> simp [Width.bytes, capacity] at bound <;> simp <;> omega
  rw [encodeNat]
  split
  · next small =>
      have same : (UInt8.ofNat number).toNat = number := by
        rw [UInt8.toNat_ofNat']
        omega
      have below : UInt8.ofNat number < 251 := by
        rw [UInt8.lt_iff_toNat_lt, same]
        exact small
      simp only [List.cons_append, List.nil_append, decodeNat, if_pos below,
        same]
  · split
    · next middle =>
        exact decodeNat_marked (by decide) rfl
          (by cases width <;> decide) middle rest
    · split
      · next middle =>
          exact decodeNat_marked (by decide) rfl
            (by cases width <;> decide) middle rest
      · next large =>
          rw [widest.2 (Nat.not_lt.1 large)]
          exact decodeNat_marked (by decide) rfl (by decide) widest.1 rest

/-! ## The types that the forms of others are made of -/

theorem reads_uint32 (number : UInt32) : Reads number := by
  intro rest
  have bound : number.toNat < capacity Width.four.bytes := number.toNat_lt
  simp only [encode, decodePrefix, decodeNat_encodeNat bound, bind, Except.bind,
    UInt32.ofNat_toNat]

theorem zigzag_lt (number : Int64) :
    zigzag number.toInt < capacity Width.eight.bytes := by
  have lower := number.le_toInt
  have upper := number.toInt_lt
  simp only [Width.bytes, capacity, zigzag]
  split <;> omega

theorem reads_int64 (number : Int64) : Reads number := by
  intro rest
  simp only [encode, decodePrefix, decodeNat_encodeNat (zigzag_lt number), bind,
    Except.bind, unzigzag_zigzag, Int64.ofInt_toInt]

theorem reads_bool (truth : Bool) : Reads truth := by
  intro rest
  cases truth <;> rfl

/-- A name reads back by its place in the list of all names. -/
theorem decodeIndex_encodeIndex
    {α : Type}
    [BEq α]
    [LawfulBEq α]
    {all : List α}
    {value : α}
    (member : value ∈ all)
    (few : all.length < capacity Width.four.bytes)
    (rest : List UInt8) :
    decodeIndex all (encodeIndex all value ++ rest) = .ok (value, rest) := by
  have place : all.idxOf value < all.length := List.idxOf_lt_length_of_mem member
  have found : all[all.idxOf value]? = some value := by
    rw [List.getElem?_eq_getElem place, List.getElem_idxOf place]
  simp only [decodeIndex, encodeIndex, decodeNat_encodeNat (Nat.lt_trans place few),
    bind, Except.bind, found]

theorem reads_method (method : Limit.Method) : Reads method :=
  decodeIndex_encodeIndex (Limit.Method.mem_all method) (by decide)

theorem reads_timeUnit (unit : Limit.TimeUnit) : Reads unit :=
  decodeIndex_encodeIndex (Limit.TimeUnit.mem_all unit) (by decide)

theorem length_utf8 (text : String) :
    (Text.Utf8.encode text).length = text.utf8ByteSize := by
  simp [Text.Utf8.encode]

theorem reads_string
    {text : String}
    (short : text.utf8ByteSize < capacity Width.eight.bytes) :
    Reads text := by
  intro rest
  have split := splitExactly_append (Text.Utf8.encode text) rest
  rw [length_utf8] at split
  simp only [encode, decodePrefix, List.append_assoc,
    decodeNat_encodeNat short, split, bind, Except.bind,
    Text.Utf8.decode?_encode]

/-- The values that are still to be read join those already read. -/
theorem decodeMany_flatMap
    {α : Type}
    [Coded α]
    {values : List α}
    (reads : ∀ value ∈ values, Reads value)
    (reversed : List α)
    (rest : List UInt8) :
    decodeMany values.length reversed (values.flatMap encode ++ rest) =
      .ok (reversed.reverse ++ values, rest) := by
  induction values generalizing reversed with
  | nil => simp [decodeMany]
  | cons value values ih =>
      have first := reads value List.mem_cons_self
        (values.flatMap encode ++ rest)
      have others := ih (fun other member =>
        reads other (List.mem_cons_of_mem value member)) (value :: reversed)
      simp only [List.length_cons, List.flatMap_cons, List.append_assoc,
        decodeMany, first, others, List.reverse_cons, List.nil_append,
        List.cons_append]

theorem reads_list
    {α : Type}
    [Coded α]
    {values : List α}
    (short : values.length < capacity Width.eight.bytes)
    (reads : ∀ value ∈ values, Reads value) :
    Reads values := by
  intro rest
  have many := decodeMany_flatMap reads [] rest
  simp only [encode, decodePrefix, List.append_assoc,
    decodeNat_encodeNat short, bind, Except.bind] at many ⊢
  exact many

end QuotaRing.Wire
