import QuotaRing.Pattern.Reader

/-!
# Readers of texts that are closed

An anchored pattern goes on after the pattern with the closing of a group.  A
reader is local if it reads a text with this closing as it reads the text alone,
unless it has gone on into the closing, and then nothing but the last character
of it can be left.  Local readers are composed of local readers.  Those that
take steps as long as they are allowed to are compared with each other at any
two numbers of steps that are enough.
-/

namespace QuotaRing.Pattern.Reader

/-- What follows a pattern in the anchored one. -/
def closing : List Char :=
  [')', '$']

variable
    {α β : Type}
    {reader : Reader α}
    {more : α → Reader β}

/-! ## What is left -/

/-- Whether a reader leaves an end of every text. -/
def Leaves (reader : Reader α) : Prop :=
  ∀ text read rest, reader text = some (read, rest) → rest <:+ text

theorem leaves_pure (read : α) : Leaves (pure read) := by
  rintro text _ _ ⟨⟩
  exact List.suffix_rfl

theorem leaves_failure : Leaves (failure : Reader α) := by
  rintro text read rest ⟨⟩

theorem leaves_lift (read? : Option α) : Leaves (liftM read?) := by
  cases read? with
  | none => exact leaves_failure
  | some read => exact leaves_pure read

theorem bind_eq_some
    {text rest : List Char}
    {read : β}
    (found : (reader >>= more) text = some (read, rest)) :
    ∃ first middle, reader text = some (first, middle) ∧
      more first middle = some (read, rest) := by
  rcases Option.bind_eq_some_iff.1 found with ⟨⟨first, middle⟩, started, ended⟩
  exact ⟨first, middle, started, ended⟩

theorem Leaves.bind
    (leaves : Leaves reader)
    (onward : ∀ read, Leaves (more read)) :
    Leaves (reader >>= more) := by
  intro text read rest found
  rcases bind_eq_some found with ⟨first, middle, started, ended⟩
  exact (onward first middle read rest ended).trans
    (leaves text first middle started)

/-- What holds of two readers holds of the one that is chosen. -/
theorem of_ite
    {property : Reader α → Prop}
    {condition : Prop}
    [Decidable condition]
    {other : Reader α}
    (holds : property reader)
    (otherwise : property other) :
    property (if condition then reader else other) := by
  split
  · exact holds
  · exact otherwise

theorem leaves_next : Leaves Reader.next := by
  intro text read rest found
  cases text with
  | nil => cases found
  | cons first others =>
      cases found
      exact List.suffix_cons _ _

theorem leaves_takes (marks : List Char) : Leaves (takes marks) := by
  intro text read rest found
  rw [takes] at found
  split at found
  · cases found
    exact List.drop_suffix marks.length text
  · cases found
    exact List.suffix_rfl

theorem leaves_takeIf? (test : Char → Bool) : Leaves (takeIf? test) := by
  intro text read rest found
  cases text with
  | nil =>
      cases found
      exact List.suffix_rfl
  | cons first others =>
      rw [takeIf?] at found
      split at found
      · cases found
        exact List.suffix_cons _ _
      · cases found
        exact List.suffix_rfl

theorem leaves_peeks (test : List Char → Bool) : Leaves (peeks test) := by
  rintro text _ _ ⟨⟩
  exact List.suffix_rfl

theorem leaves_upTo (marks : List Char) : Leaves (upTo marks) := by
  intro text
  induction text with
  | nil =>
      rintro read rest ⟨⟩
  | cons first others ih =>
      intro read rest found
      rw [upTo] at found
      split at found
      · cases found
        exact List.drop_suffix marks.length (first :: others)
      · rcases Option.map_eq_some_iff.1 found with ⟨⟨before, after⟩, later, same⟩
        cases same
        exact (ih _ _ later).trans (List.suffix_cons first others)

theorem Leaves.attempt (leaves : Leaves reader) : Leaves (attempt reader) := by
  intro text read rest found
  rw [Reader.attempt] at found
  split at found
  · next succeeded =>
      cases found
      exact leaves text _ _ succeeded
  · cases found
    exact List.suffix_rfl

theorem leaves_pass
    {change : List Char → List Char}
    (suffix : ∀ text, change text <:+ text) :
    Leaves (pass change) := by
  rintro text _ _ ⟨⟩
  exact suffix text

theorem leaves_sized
    {reader : Nat → Reader α}
    (leaves : ∀ fuel, Leaves (reader fuel)) :
    Leaves (sized reader) :=
  fun text => leaves (text.length + 1) text

/-- Whether a reader passes over a character at least. -/
def Shortens (reader : Reader α) : Prop :=
  ∀ text read rest, reader text = some (read, rest) → rest.length < text.length

theorem shortens_next : Shortens Reader.next := by
  intro text read rest found
  cases text with
  | nil => cases found
  | cons first others =>
      cases found
      exact Nat.lt_succ_self _

theorem Shortens.bind
    (shortens : Shortens reader)
    (leaves : ∀ read, Leaves (more read)) :
    Shortens (reader >>= more) := by
  intro text read rest found
  rcases bind_eq_some found with ⟨first, middle, started, ended⟩
  exact Nat.lt_of_le_of_lt (leaves first middle read rest ended).length_le
    (shortens text first middle started)

theorem takes_shortens
    {marks text rest : List Char}
    (nonempty : marks ≠ [])
    (found : takes marks text = some (true, rest)) :
    rest.length < text.length := by
  rw [takes] at found
  split at found
  · next present =>
      cases found
      have := (List.isPrefixOf_iff_prefix.1 present).length_le
      have := List.length_pos_iff.2 nonempty
      rw [List.length_drop]
      omega
  · cases found

theorem takeIf?_shortens
    {test : Char → Bool}
    {first : Char}
    {text rest : List Char}
    (found : takeIf? test text = some (some first, rest)) :
    rest.length < text.length := by
  cases text with
  | nil => cases found
  | cons character others =>
      rw [takeIf?] at found
      split at found
      · cases found
        exact Nat.lt_succ_self _
      · cases found

/-- Marks may be found, or else more must be passed over. -/
theorem shortens_takes
    {marks : List Char}
    {found missed : Reader β}
    (nonempty : marks ≠ [])
    (leaves : Leaves found)
    (shortens : Shortens missed) :
    Shortens (takes marks >>= fun taken => if taken = true then found else missed) := by
  intro text read rest result
  rcases bind_eq_some result with ⟨taken, middle, started, ended⟩
  have stays := (leaves_takes marks text taken middle started).length_le
  cases taken with
  | true =>
      have := (leaves middle read rest ended).length_le
      have := takes_shortens nonempty started
      omega
  | false => exact Nat.lt_of_lt_of_le (shortens middle read rest ended) stays

/-! ## What is read -/

/--
Whether a text was read with its closing as it was alone, or nothing but the
last character of the closing can be left.
-/
def Agrees (alone within : Option (α × List Char)) : Prop :=
  (within = alone.map fun (read, rest) => (read, rest ++ closing)) ∨
    ∀ read rest, within = some (read, rest) → rest <:+ ['$']

/-- Whether two readers agree on the texts that are not too long. -/
structure Alike (size : Nat) (alone within : Reader α) : Prop where
  leaves : Leaves within
  agrees : ∀ text, text.length < size →
    Agrees (alone text) (within (text ++ closing))

structure Local (reader : Reader α) : Prop where
  leaves : Leaves reader
  agrees : ∀ text, Agrees (reader text) (reader (text ++ closing))

/-- Whether a reader never goes on into what closes a text. -/
structure Exact (reader : Reader α) : Prop where
  leaves : Leaves reader
  same : ∀ text, reader (text ++ closing) =
    (reader text).map fun (read, rest) => (read, rest ++ closing)

theorem Local.alike (isLocal : Local reader) (size : Nat) :
    Alike size reader reader where
  leaves := isLocal.leaves
  agrees text _ := isLocal.agrees text

theorem Exact.isLocal (isExact : Exact reader) : Local reader where
  leaves := isExact.leaves
  agrees text := .inl (isExact.same text)

section Alike

variable
    {size : Nat}
    {within other : Reader α}
    {onward : α → Reader β}

/-- Readers that agree are composed of readers that agree. -/
theorem Alike.bind
    (alike : Alike size reader within)
    (leaves : ∀ read, Leaves (onward read))
    (thenAgrees : ∀ {text read rest}, text.length < size →
      reader text = some (read, rest) →
        Agrees (more read rest) (onward read (rest ++ closing))) :
    Alike size (reader >>= more) (within >>= onward) where
  leaves := alike.leaves.bind leaves
  agrees text short := by
    show Agrees ((reader text).bind _) ((within (text ++ closing)).bind _)
    rcases alike.agrees text short with same | spent
    · rw [same]
      cases found : reader text with
      | none => exact .inl rfl
      | some result => exact thenAgrees short found
    · refine .inr ?_
      intro read rest found
      rcases bind_eq_some found with ⟨first, middle, started, ended⟩
      exact (leaves first middle read rest ended).trans
        (spent first middle started)

/-- What is read first may say how much shorter the text has become. -/
theorem Alike.bind_below
    (alike : Alike size reader within)
    (below : α → Nat)
    (shorter : ∀ text read rest, text.length < size →
      reader text = some (read, rest) → rest.length < below read)
    (thenAlike : ∀ read, Alike (below read) (more read) (onward read)) :
    Alike size (reader >>= more) (within >>= onward) := by
  refine alike.bind (fun read => (thenAlike read).leaves) ?_
  intro text read rest short found
  exact (thenAlike read).agrees rest (shorter text read rest short found)

theorem Alike.bind_alike
    (alike : Alike size reader within)
    (leaves : Leaves reader)
    (thenAlike : ∀ read, Alike size (more read) (onward read)) :
    Alike size (reader >>= more) (within >>= onward) := by
  refine alike.bind_below (fun _ => size) ?_ thenAlike
  intro text read rest short found
  exact Nat.lt_of_le_of_lt (leaves text read rest found).length_le short

theorem Alike.bind_left
    (isLocal : Local reader)
    (alike : ∀ read, Alike size (more read) (onward read)) :
    Alike size (reader >>= more) (reader >>= onward) :=
  (isLocal.alike size).bind_alike isLocal.leaves alike

theorem Alike.bind_right
    (alike : Alike size reader within)
    (isLocal : ∀ read, Local (more read)) :
    Alike size (reader >>= more) (within >>= more) :=
  alike.bind (fun read => (isLocal read).leaves)
    fun {_ read rest} _ _ => (isLocal read).agrees rest

theorem Alike.bind_shorter
    (isLocal : Local reader)
    (shortens : Shortens reader)
    (alike : ∀ read, Alike size (more read) (onward read)) :
    Alike (size + 1) (reader >>= more) (reader >>= onward) := by
  refine (isLocal.alike (size + 1)).bind_below (fun _ => size) ?_ alike
  intro text read rest short found
  have := shortens text read rest found
  omega

theorem Alike.ite
    {condition : Prop}
    [Decidable condition]
    {beyond : Reader α}
    (alike : Alike size reader within)
    (otherwise : Alike size other beyond) :
    Alike size (if condition then reader else other)
      (if condition then within else beyond) := by
  split
  · exact alike
  · exact otherwise

theorem alike_zero (leaves : Leaves within) : Alike 0 reader within where
  leaves := leaves
  agrees _ short := absurd short (Nat.not_lt_zero _)

end Alike

theorem Local.bind
    (isLocal : Local reader)
    (thenLocal : ∀ read, Local (more read)) :
    Local (reader >>= more) where
  leaves := isLocal.leaves.bind fun read => (thenLocal read).leaves
  agrees text :=
    ((isLocal.alike (text.length + 1)).bind_right thenLocal).agrees text
      (Nat.lt_succ_self _)

/-- The next character may be that which closes a group. -/
theorem local_next : Local Reader.next where
  leaves := leaves_next
  agrees text := by
    cases text with
    | nil =>
        refine .inr ?_
        rintro _ _ ⟨⟩
        exact List.suffix_rfl
    | cons first rest => exact .inl rfl

/-- As many steps as there are characters, and one more, are enough. -/
theorem local_sized
    {reader : Nat → Reader α}
    (leaves : ∀ fuel, Leaves (reader fuel))
    (alike : ∀ fuel larger, fuel + 2 ≤ larger →
      Alike fuel (reader fuel) (reader larger)) :
    Local (sized reader) where
  leaves := leaves_sized leaves
  agrees text := by
    have enough : text.length + 1 + 2 ≤ (text ++ closing).length + 1 := by
      rw [List.length_append]
      exact Nat.le_refl _
    exact (alike _ _ enough).agrees text (Nat.lt_succ_self _)

/-! ## Readers that never go on into what closes a text -/

theorem exact_pure (read : α) : Exact (pure read) where
  leaves := leaves_pure read
  same _ := rfl

theorem exact_failure : Exact (failure : Reader α) where
  leaves := leaves_failure
  same _ := rfl

theorem exact_lift (read? : Option α) : Exact (liftM read?) where
  leaves := leaves_lift read?
  same text := by
    cases read? with
    | none => rfl
    | some read => rfl

theorem Exact.bind
    (isExact : Exact reader)
    (thenExact : ∀ read, Exact (more read)) :
    Exact (reader >>= more) where
  leaves := isExact.leaves.bind fun read => (thenExact read).leaves
  same text := by
    show (reader (text ++ closing)).bind _ = ((reader text).bind _).map _
    rw [isExact.same]
    cases reader text with
    | none => rfl
    | some result => exact (thenExact result.1).same result.2

theorem local_pure (read : α) : Local (pure read) :=
  (exact_pure read).isLocal

theorem local_failure : Local (failure : Reader α) :=
  exact_failure.isLocal

theorem local_lift (read? : Option α) : Local (liftM read?) :=
  (exact_lift read?).isLocal

/-- Marks of which none closes a text are found where they stand in the text. -/
theorem isPrefixOf_append_closing
    {marks : List Char}
    (apart : marks.any closing.contains = false)
    (text : List Char) :
    marks.isPrefixOf (text ++ closing) = marks.isPrefixOf text := by
  induction marks generalizing text with
  | nil => rfl
  | cons mark others ih =>
      rw [List.any_cons, Bool.or_eq_false_iff] at apart
      rcases apart with ⟨first, rest⟩
      cases text with
      | nil =>
          have differs : (mark == ')') = false := by
            rw [closing, List.contains_cons, Bool.or_eq_false_iff] at first
            exact first.1
          show (mark == ')' && _) = false
          rw [differs, Bool.false_and]
      | cons character text =>
          rw [List.cons_append, List.isPrefixOf, List.isPrefixOf, ih rest]

theorem drop_append_closing
    {marks text : List Char}
    (found : marks.isPrefixOf text = true) :
    (text ++ closing).drop marks.length = text.drop marks.length ++ closing :=
  List.drop_append_of_le_length (List.isPrefixOf_iff_prefix.1 found).length_le

theorem exact_takes
    {marks : List Char}
    (apart : marks.any closing.contains = false) :
    Exact (takes marks) where
  leaves := leaves_takes marks
  same text := by
    rw [takes, takes, isPrefixOf_append_closing apart]
    split
    · next found =>
        rw [drop_append_closing found]
        rfl
    · rfl

theorem local_takes
    {marks : List Char}
    (apart : marks.any closing.contains = false) :
    Local (takes marks) :=
  (exact_takes apart).isLocal

theorem exact_takeIf?
    {test : Char → Bool}
    (fails : test ')' = false) :
    Exact (takeIf? test) where
  leaves := leaves_takeIf? test
  same text := by
    cases text with
    | nil =>
        rw [List.nil_append, closing, takeIf?, takeIf?, fails]
        rfl
    | cons first rest =>
        rw [List.cons_append, takeIf?, takeIf?]
        split
        · rfl
        · rfl

theorem exact_peeks
    {test : List Char → Bool}
    (same : ∀ text, test (text ++ closing) = test text) :
    Exact (peeks test) where
  leaves := leaves_peeks test
  same text := by
    rw [peeks, peeks, same]
    rfl

theorem exact_upTo
    {mark : Char}
    (apart : closing.contains mark = false) :
    Exact (upTo [mark]) where
  leaves := leaves_upTo [mark]
  same text := by
    have alone : [mark].any closing.contains = false := by
      rw [List.any_cons, apart]
      rfl
    induction text with
    | nil =>
        have first := isPrefixOf_append_closing alone []
        have last : [mark].isPrefixOf ['$'] = false := by
          rw [closing, List.contains_cons, Bool.or_eq_false_iff, List.contains_cons,
            Bool.or_eq_false_iff] at apart
          show (mark == '$' && _) = false
          rw [apart.2.1, Bool.false_and]
        rw [List.nil_append, closing] at first ⊢
        rw [upTo, upTo, first, upTo, last]
        rfl
    | cons first rest ih =>
        have found := isPrefixOf_append_closing alone (first :: rest)
        rw [List.cons_append] at found ⊢
        rw [upTo, upTo, found]
        split
        · rfl
        · rw [ih, Option.map_map, Option.map_map]
          rfl

theorem Exact.attempt (isExact : Exact reader) : Exact (attempt reader) where
  leaves := isExact.leaves.attempt
  same text := by
    rw [Reader.attempt, Reader.attempt, isExact.same]
    cases reader text with
    | none => rfl
    | some result => rfl

theorem exact_pass
    {change : List Char → List Char}
    (suffix : ∀ text, change text <:+ text)
    (same : ∀ text, change (text ++ closing) = change text ++ closing) :
    Exact (pass change) where
  leaves := leaves_pass suffix
  same text := by
    rw [pass, pass, same]
    rfl

/-- What is passed over may go on to the end of all. -/
theorem local_pass
    {change : List Char → List Char}
    (suffix : ∀ text, change text <:+ text)
    (same : ∀ text, change (text ++ closing) = change text ++ closing ∨
      change (text ++ closing) = []) :
    Local (pass change) where
  leaves := leaves_pass suffix
  agrees text := by
    rcases same text with kept | swallowed
    · refine .inl ?_
      rw [pass, pass, kept]
      rfl
    · refine .inr ?_
      rintro _ _ ⟨⟩
      rw [swallowed]
      exact List.nil_suffix

end QuotaRing.Pattern.Reader
