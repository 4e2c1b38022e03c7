import Mathlib.Data.List.TakeWhile
import QuotaRing.Http.Request
import QuotaRing.Proofs.Http.Fields

/-!
# Paths that end in one segment

Bytes that are written as a segment of a path hold no slash and nothing that
would end the path, so the whole segment is found behind the last slash and
stands for those bytes.
-/

namespace QuotaRing.Http

open QuotaRing.Http.Percent (ascii encode encodeByte)

theorem splitAtSlashes_ne_nil (bytes : List UInt8) : splitAtSlashes bytes ≠ [] := by
  cases bytes with
  | nil => exact List.cons_ne_nil _ _
  | cons first rest =>
      rw [splitAtSlashes, List.foldr_cons]
      split
      · exact List.cons_ne_nil _ _
      · split
        · exact List.cons_ne_nil _ _
        · exact List.cons_ne_nil _ _

theorem splitAtSlashes_slash (bytes : List UInt8) :
    splitAtSlashes (0x2f :: bytes) = [] :: splitAtSlashes bytes :=
  rfl

theorem splitAtSlashes_cons
    {byte : UInt8}
    (other : byte ≠ 0x2f)
    {bytes : List UInt8}
    {part : List UInt8}
    {parts : List (List UInt8)}
    (split : splitAtSlashes bytes = part :: parts) :
    splitAtSlashes (byte :: bytes) = (byte :: part) :: parts := by
  unfold splitAtSlashes at split ⊢
  rw [List.foldr_cons, split]
  simp [other]

theorem splitAtSlashes_of_free
    {bytes : List UInt8}
    (free : ∀ byte ∈ bytes, byte ≠ 0x2f) :
    splitAtSlashes bytes = [bytes] := by
  induction bytes with
  | nil => rfl
  | cons first rest ih =>
      exact splitAtSlashes_cons (free first List.mem_cons_self)
        (ih fun byte member => free byte (List.mem_cons_of_mem first member))

/-- What stands behind the last slash is the last part. -/
theorem splitAtSlashes_append
    (bytes : List UInt8)
    {segment : List UInt8}
    (free : ∀ byte ∈ segment, byte ≠ 0x2f) :
    splitAtSlashes (bytes ++ 0x2f :: segment) =
      splitAtSlashes bytes ++ [segment] := by
  induction bytes with
  | nil =>
      rw [List.nil_append, splitAtSlashes_slash, splitAtSlashes_of_free free]
      rfl
  | cons first rest ih =>
      rw [List.cons_append]
      by_cases slash : first = 0x2f
      · subst slash
        rw [splitAtSlashes_slash, splitAtSlashes_slash, ih]
        rfl
      · cases split : splitAtSlashes rest with
        | nil => exact absurd split (splitAtSlashes_ne_nil rest)
        | cons part parts =>
            rw [split] at ih
            rw [splitAtSlashes_cons slash split, splitAtSlashes_cons slash ih]
            rfl

/-- Whether a byte neither divides a path nor ends it. -/
def staysInside (byte : UInt8) : Bool :=
  byte != 0x2f && byte != 0x23 && byte != 0x3f

/-- What is written for a byte is ASCII, stays inside a segment and is not empty. -/
theorem encodeByte_fits (byte : UInt8) :
    (∀ character ∈ encodeByte byte,
        IsAscii character ∧
          staysInside (UInt8.ofNat character.toNat) = true) ∧
      encodeByte byte ≠ [] := by
  have every : ∀ byte : Fin 256,
      ((encodeByte (UInt8.ofNat byte)).all fun character =>
        decide (IsAscii character) &&
          staysInside (UInt8.ofNat character.toNat)) = true ∧
        (encodeByte (UInt8.ofNat byte)).isEmpty = false := by
    decide +kernel
  have found := every ⟨byte.toNat, byte.toNat_lt⟩
  rw [UInt8.ofNat_toNat, List.all_eq_true] at found
  constructor
  · intro character member
    have fits := found.1 character member
    rw [Bool.and_eq_true, decide_eq_true_iff] at fits
    exact fits
  · intro empty
    rw [empty] at found
    cases found.2

theorem encode_fits (bytes : List UInt8) :
    ∀ character ∈ encode bytes,
      IsAscii character ∧ staysInside (UInt8.ofNat character.toNat) = true := by
  intro character member
  rcases List.mem_flatMap.1 member with ⟨byte, _, written⟩
  exact (encodeByte_fits byte).1 character written

theorem encode_ne_nil {bytes : List UInt8} (nonempty : bytes ≠ []) :
    encode bytes ≠ [] := by
  cases bytes with
  | nil => exact absurd rfl nonempty
  | cons first rest =>
      intro empty
      exact (encodeByte_fits first).2 (List.append_eq_nil_iff.1 empty).1

theorem ascii_append (left right : List Char) :
    ascii (left ++ right) = ascii left ++ ascii right :=
  List.map_append

/-- The path of a uri of ASCII characters none of which ends it. -/
theorem path_of_ascii
    {request : Request}
    {characters : List Char}
    (uri : request.uri = String.ofList characters)
    (fits : ∀ character ∈ characters,
      IsAscii character ∧ UInt8.ofNat character.toNat ≠ 0x23 ∧
        UInt8.ofNat character.toNat ≠ 0x3f) :
    request.path = ascii characters := by
  have bytes : ∀ byte ∈ ascii characters, byte ≠ 0x23 ∧ byte ≠ 0x3f := by
    intro byte member
    rcases List.mem_map.1 member with ⟨character, held, rfl⟩
    exact (fits character held).2
  have sent : request.sent = ascii characters := by
    rw [Request.sent, uri,
      encode_ofList_of_ascii fun character member => (fits character member).1]
    apply List.takeWhile_eq_self_iff.2
    intro byte member
    exact bne_iff_ne.2 (bytes byte member).1
  rw [Request.path, sent]
  apply List.takeWhile_eq_self_iff.2
  intro byte member
  exact bne_iff_ne.2 (bytes byte member).2

end QuotaRing.Http
