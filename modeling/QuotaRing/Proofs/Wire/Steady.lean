import QuotaRing.Proofs.Checks
import QuotaRing.Proofs.Wire.RoundTrip

/-!
# Readers that do not look ahead

What a reader says of bytes stands when more bytes follow, unless it says that
they end before the value does.  Reading one value after another keeps that, so
it holds of every reader of a record, a choice or a sequence.  Main statement:
if a value reads back, then its form with bytes behind it is refused for those,
and its form cut short anywhere is refused for its end.
-/

namespace QuotaRing.Wire

/-- Whether a reader abides by what it says of bytes when more bytes follow. -/
structure IsSteady {α : Type} (read : Decoder α) : Prop where
  taken : ∀ {bytes rest : List UInt8} {value : α},
    read bytes = .ok (value, rest) →
      ∀ more, read (bytes ++ more) = .ok (value, rest ++ more)
  refused : ∀ {bytes : List UInt8} {error : DecodeError},
    read bytes = .error error → error ≠ .unexpectedEnd →
      ∀ more, read (bytes ++ more) = .error error

variable {α β : Type}

/-! ## Putting readers together -/

theorem isSteady_ok (value : α) : IsSteady fun bytes => .ok (value, bytes) where
  taken said more := by
    cases said
    rfl
  refused said := by cases said

theorem isSteady_error (error : DecodeError) :
    IsSteady (fun _ => .error error : Decoder α) where
  taken said := by cases said
  refused said _ _ := said

/-- A reader that goes on, by the value that another one has read, behind it. -/
theorem IsSteady.andThen
    {read : Decoder α}
    {next : α × List UInt8 → Except DecodeError (β × List UInt8)}
    (first : IsSteady read)
    (others : ∀ value, IsSteady fun rest => next (value, rest)) :
    IsSteady fun bytes => read bytes >>= next where
  taken {bytes rest value} said more := by
    rcases Checks.bind_eq_ok said with ⟨⟨found, behind⟩, told, said⟩
    simp only [first.taken told more, bind, Except.bind]
    exact (others found).taken said more
  refused {bytes error} said early more := by
    cases told : read bytes with
    | error fault =>
        simp only [told, bind, Except.bind] at said
        cases said
        simp only [first.refused told early more, bind, Except.bind]
    | ok pair =>
        simp only [told, bind, Except.bind] at said
        simp only [first.taken told more, bind, Except.bind]
        exact (others pair.1).refused said early more

/-- A reader that looks at one byte and then reads on accordingly. -/
theorem isSteady_of_cons
    {read : Decoder α}
    (atEnd : read [] = .error .unexpectedEnd)
    (behind : ∀ first, IsSteady fun bytes => read (first :: bytes)) :
    IsSteady read where
  taken {bytes rest value} said more := by
    cases bytes with
    | nil =>
        rw [atEnd] at said
        cases said
    | cons first bytes => exact (behind first).taken said more
  refused {bytes error} said early more := by
    cases bytes with
    | nil =>
        rw [atEnd] at said
        cases said
        exact absurd rfl early
    | cons first bytes => exact (behind first).refused said early more

/-! ## Numbers, truth values, names and texts -/

theorem isSteady_splitExactly (count : Nat) : IsSteady (splitExactly count) where
  taken {bytes rest value} said more := by
    simp only [splitExactly] at said ⊢
    split at said
    · next enough =>
        cases said
        have short : count ≤ bytes.length := by
          rw [List.length_take] at enough
          omega
        rw [List.take_append_of_le_length short,
          List.drop_append_of_le_length short, if_pos enough]
    · cases said
  refused {bytes error} said early := by
    simp only [splitExactly] at said
    split at said
    · cases said
    · cases said
      exact absurd rfl early

theorem isSteady_decodeNat (width : Width) : IsSteady (decodeNat width) := by
  refine isSteady_of_cons rfl fun first => ?_
  simp only [decodeNat]
  by_cases small : first < 251
  · simp only [if_pos small]
    exact isSteady_ok first.toNat
  · simp only [if_neg small]
    cases payload? first with
    | none => exact isSteady_error .invalidInteger
    | some count =>
        by_cases tooWide : width.bytes < count
        · simp only [if_pos tooWide]
          exact isSteady_error .invalidInteger
        · simp only [if_neg tooWide]
          exact (isSteady_splitExactly count).andThen
            fun form => isSteady_ok (ofLittleEndian form)

theorem isSteady_uint32 : IsSteady (decodePrefix : Decoder UInt32) :=
  (isSteady_decodeNat .four).andThen fun number =>
    isSteady_ok (UInt32.ofNat number)

theorem isSteady_int64 : IsSteady (decodePrefix : Decoder Int64) :=
  (isSteady_decodeNat .eight).andThen fun folded =>
    isSteady_ok (Int64.ofInt (unzigzag folded))

theorem isSteady_bool : IsSteady (decodePrefix : Decoder Bool) := by
  refine isSteady_of_cons rfl fun first => ?_
  simp only [decodePrefix]
  by_cases zero : (first == 0) = true
  · simp only [if_pos zero]
    exact isSteady_ok false
  · simp only [if_neg zero]
    by_cases one : (first == 1) = true
    · simp only [if_pos one]
      exact isSteady_ok true
    · simp only [if_neg one]
      exact isSteady_error .invalidBoolean

theorem isSteady_decodeIndex (all : List α) : IsSteady (decodeIndex all) := by
  refine (isSteady_decodeNat .four).andThen fun index => ?_
  dsimp only
  cases all[index]? with
  | none => exact isSteady_error .invalidVariant
  | some value => exact isSteady_ok value

theorem isSteady_string : IsSteady (decodePrefix : Decoder String) := by
  refine (isSteady_decodeNat .eight).andThen fun length =>
    (isSteady_splitExactly length).andThen fun form => ?_
  dsimp only
  cases Text.Utf8.decode? form with
  | none => exact isSteady_error .invalidText
  | some text => exact isSteady_ok text

/-! ## Sequences -/

theorem isSteady_decodeMany
    [Coded α]
    (steady : IsSteady (decodePrefix : Decoder α))
    (count : Nat)
    (reversed : List α) :
    IsSteady (decodeMany count reversed) := by
  induction count generalizing reversed with
  | zero => exact isSteady_ok reversed.reverse
  | succ count ih =>
      have inTurn : decodeMany (count + 1) reversed = fun bytes =>
          decodePrefix bytes >>= fun read =>
            decodeMany count (read.1 :: reversed) read.2 := by
        funext bytes
        rw [decodeMany]
        cases (decodePrefix bytes : Except DecodeError (α × List UInt8)) with
        | error error => rfl
        | ok pair => rfl
      rw [inTurn]
      exact steady.andThen fun value => ih (value :: reversed)

theorem isSteady_list
    [Coded α]
    (steady : IsSteady (decodePrefix : Decoder α)) :
    IsSteady (decodePrefix : Decoder (List α)) :=
  (isSteady_decodeNat .eight).andThen fun count =>
    isSteady_decodeMany steady count []

/-! ## Exact forms -/

/--
Whether the form of a value is read as that value, but not with bytes behind it
and not when some of its last bytes are missing.
-/
structure IsExact [Coded α] (value : α) : Prop where
  whole : decode (encode value) = .ok value
  longer : ∀ rest, rest ≠ [] →
    (decode (encode value ++ rest) : Except DecodeError α) =
      .error (.trailing rest.length)
  shorter : ∀ form, form <+: encode value → form ≠ encode value →
    (decode form : Except DecodeError α) = .error .unexpectedEnd

/-- What reads back by a reader that does not look ahead has an exact form. -/
theorem Reads.isExact
    [Coded α]
    {value : α}
    (reads : Reads value)
    (steady : IsSteady (decodePrefix : Decoder α)) :
    IsExact value where
  whole := reads.decode
  longer rest some := by
    cases rest with
    | nil => exact absurd rfl some
    | cons first rest =>
        simp only [Wire.decode, reads (first :: rest), bind, Except.bind]
  shorter form cut proper := by
    rcases cut with ⟨missing, parts⟩
    have whole : decodePrefix (form ++ missing) =
        (.ok (value, []) : Except DecodeError (α × List UInt8)) := by
      rw [parts, ← List.append_nil (encode value)]
      exact reads []
    have ended : decodePrefix form =
        (.error .unexpectedEnd : Except DecodeError (α × List UInt8)) := by
      cases told : (decodePrefix form : Except DecodeError (α × List UInt8)) with
      | ok pair =>
          -- what is missing would be left over behind the value
          have same := (steady.taken told missing).symm.trans whole
          have left := congrArg Prod.snd (Except.ok.inj same)
          have none : missing = [] := (List.append_eq_nil_iff.1 left).2
          rw [none, List.append_nil] at parts
          exact absurd parts proper
      | error fault =>
          by_cases early : fault = .unexpectedEnd
          · rw [early]
          · have same := (steady.refused told early missing).symm.trans whole
            cases same
    simp only [Wire.decode, ended, bind, Except.bind]

end QuotaRing.Wire
