import QuotaRing.Http.Headers
import QuotaRing.Http.Percent

/-!
# Texts in fields

A character of ASCII takes one byte, its own number, so texts of such characters
can be read byte by byte.  A visible text is read from a field as it was sent.
-/

namespace QuotaRing.Http

open QuotaRing.Http.Percent (ascii)
open QuotaRing.Text (Utf8.encode)

/-- Whether a character has one byte. -/
def IsAscii (character : Char) : Prop :=
  character.toNat < 0x80

instance (character : Char) : Decidable (IsAscii character) :=
  inferInstanceAs (Decidable (_ < _))

theorem encode_ofList (characters : List Char) :
    Utf8.encode (String.ofList characters) =
      characters.flatMap String.utf8EncodeChar := by
  simp [Text.Utf8.encode, List.utf8Encode]

theorem utf8EncodeChar_of_ascii
    {character : Char}
    (one : IsAscii character) :
    String.utf8EncodeChar character = [UInt8.ofNat character.toNat] := by
  have size : character.utf8Size = 1 := by
    rw [Char.utf8Size, if_pos]
    exact UInt32.le_iff_toNat_le.2 (Nat.le_of_lt_succ one)
  rw [String.utf8EncodeChar_eq_singleton size]
  congr 1

theorem encode_ofList_of_ascii
    {characters : List Char}
    (all : ∀ character ∈ characters, IsAscii character) :
    Utf8.encode (String.ofList characters) = ascii characters := by
  rw [encode_ofList]
  induction characters with
  | nil => rfl
  | cons first rest ih =>
      rw [List.flatMap_cons, utf8EncodeChar_of_ascii (all first List.mem_cons_self),
        ih fun character member => all character (List.mem_cons_of_mem first member)]
      rfl

/-- Whether a character may stand in a field that is read as text. -/
def IsVisible (character : Char) : Prop :=
  (0x20 ≤ character.toNat ∧ character.toNat < 0x7f) ∨ character.toNat = 0x09

instance (character : Char) : Decidable (IsVisible character) :=
  inferInstanceAs (Decidable (_ ∨ _))

theorem IsVisible.isAscii
    {character : Char}
    (visible : IsVisible character) :
    IsAscii character := by
  rw [IsAscii]
  rcases visible with ⟨_, below⟩ | tab
  · omega
  · omega

/-- The byte of a visible character is visible and gives the character back. -/
theorem IsVisible.byte
    {character : Char}
    (visible : IsVisible character) :
    isVisible (UInt8.ofNat character.toNat) = true ∧
      isAllowed (UInt8.ofNat character.toNat) = true ∧
      Char.ofNat (UInt8.ofNat character.toNat).toNat = character := by
  have ascii := visible.isAscii
  have same : (UInt8.ofNat character.toNat).toNat = character.toNat := by
    rw [UInt8.toNat_ofNat']
    rw [IsAscii] at ascii
    omega
  refine ⟨?_, ?_, ?_⟩
  · rcases visible with ⟨above, below⟩ | tab
    · simp only [isVisible, UInt8.le_iff_toNat_le, UInt8.lt_iff_toNat_lt, same]
      simp [above, below]
    · rw [tab]
      decide
  · rcases visible with ⟨above, below⟩ | tab
    · have other : UInt8.ofNat character.toNat ≠ 0x7f := by
        intro equal
        rw [equal] at same
        simp at same
        omega
      simp only [isAllowed, UInt8.le_iff_toNat_le, same]
      simp [above, other]
    · rw [tab]
      decide
  · rw [same, Char.ofNat_toNat]

/-- A text that may stand in a field. -/
def IsFieldText (text : String) : Prop :=
  ∀ character ∈ text.toList, IsVisible character

instance (text : String) : Decidable (IsFieldText text) :=
  List.decidableBAll IsVisible text.toList

namespace IsFieldText

variable {text : String}

theorem encode (fits : IsFieldText text) :
    Utf8.encode text = ascii text.toList := by
  have bytes := encode_ofList_of_ascii fun character member =>
    (fits character member).isAscii
  rw [String.ofList_toList] at bytes
  exact bytes

/-- A visible text may be sent. -/
theorem allowed (fits : IsFieldText text) :
    (Utf8.encode text).all isAllowed = true := by
  rw [fits.encode, ascii, List.all_map, List.all_eq_true]
  intro character member
  exact (fits character member).byte.2.1

/-- A visible text is read as it was sent. -/
theorem visibleText?_encode (fits : IsFieldText text) :
    visibleText? (Utf8.encode text) = some text := by
  have visible : (Utf8.encode text).all isVisible = true := by
    rw [fits.encode, ascii, List.all_map, List.all_eq_true]
    intro character member
    exact (fits character member).byte.1
  rw [visibleText?, if_pos visible, fits.encode, ascii, List.map_map]
  have same : text.toList.map
      ((fun byte : UInt8 => Char.ofNat byte.toNat) ∘
        fun character : Char => UInt8.ofNat character.toNat) =
      text.toList.map id :=
    List.map_congr_left fun character member => (fits character member).byte.2.2
  rw [same, List.map_id, String.ofList_toList]

end IsFieldText

namespace Headers

theorem first?_cons_self
    (headers : Headers)
    (name : String)
    (value : List UInt8) :
    first? ((name, value) :: headers) name = some value := by
  have found : List.find? (fun field : String × List UInt8 =>
        field.1.toLower == name.toLower) ((name, value) :: headers) =
      some (name, value) :=
    List.find?_cons_of_pos (beq_self_eq_true _)
  rw [first?, found]
  rfl

theorem first?_cons_of_ne
    (headers : Headers)
    {name other : String}
    (value : List UInt8)
    (different : (other.toLower == name.toLower) = false) :
    first? ((other, value) :: headers) name = first? headers name := by
  have passed : List.find? (fun field : String × List UInt8 =>
        field.1.toLower == name.toLower) ((other, value) :: headers) =
      headers.find? fun field => field.1.toLower == name.toLower :=
    List.find?_cons_of_neg (by simp [different])
  rw [first?, passed, first?]

end Headers

end QuotaRing.Http
