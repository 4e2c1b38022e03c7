import QuotaRing.Pattern.Syntax
import QuotaRing.Proofs.Pattern.Readers

/-!
# Patterns in groups

All readers that patterns are read with are local.  Blanks and comments may go
on beyond a pattern, and an escape or a set may take the parenthesis after it,
but then no parenthesis is left to close the group.  Main statement: a pattern
with the closing of a group after it is read as it is read alone, unless the
group is not closed.
-/

namespace QuotaRing.Pattern

open Reader

/-! ## Blanks and comments -/

theorem dropComment_suffix (text : List Char) : dropComment text <:+ text := by
  fun_induction dropComment text with
  | case1 => exact List.suffix_rfl
  | case2 rest => exact List.suffix_cons _ rest
  | case3 first rest _ ih => exact ih.trans (List.suffix_cons first rest)

theorem dropSpace_suffix (text : List Char) : dropSpace text <:+ text := by
  fun_induction dropSpace text with
  | case1 => exact List.suffix_rfl
  | case2 first rest blank ih => exact ih.trans (List.suffix_cons first rest)
  | case3 first rest _ comment ih =>
      exact ih.trans ((dropComment_suffix rest).trans (List.suffix_cons first rest))
  | case4 => exact List.suffix_rfl

theorem Flags.skip_suffix (flags : Flags) (text : List Char) :
    flags.skip text <:+ text := by
  rw [skip]
  split
  · exact dropSpace_suffix text
  · exact List.suffix_rfl

theorem dropComment_append (text : List Char) :
    dropComment (text ++ closing) = dropComment text ++ closing ∨
      dropComment text = [] ∧ dropComment (text ++ closing) = [] := by
  fun_induction dropComment text with
  | case1 => exact .inr ⟨rfl, rfl⟩
  | case2 rest => exact .inl rfl
  | case3 first rest other ih =>
      rw [List.cons_append, dropComment]
      · exact ih
      · exact other

theorem dropSpace_append (text : List Char) :
    dropSpace (text ++ closing) = dropSpace text ++ closing ∨
      dropSpace text = [] ∧ dropSpace (text ++ closing) = [] := by
  fun_induction dropSpace text with
  | case1 =>
      refine .inl ?_
      rw [List.nil_append, closing, dropSpace]
      rfl
  | case2 first rest blank ih =>
      rw [List.cons_append, dropSpace, if_pos blank]
      exact ih
  | case3 first rest notBlank comment ih =>
      rw [List.cons_append, dropSpace, if_neg notBlank, if_pos comment]
      rcases dropComment_append rest with same | ⟨nothing, swallowed⟩
      · rw [same]
        exact ih
      · rw [nothing, swallowed, dropSpace]
        exact .inr ⟨rfl, rfl⟩
  | case4 first rest notBlank noComment =>
      rw [List.cons_append, dropSpace, if_neg notBlank, if_neg noComment]
      exact .inl rfl

/-- A comment may go on to the end of all, and then nothing is left. -/
theorem Flags.skip_append (flags : Flags) (text : List Char) :
    flags.skip (text ++ closing) = flags.skip text ++ closing ∨
      flags.skip text = [] ∧ flags.skip (text ++ closing) = [] := by
  rw [skip, skip]
  split
  · exact dropSpace_append text
  · exact .inl rfl

theorem Flags.local_skip (flags : Flags) : Local (pass flags.skip) :=
  local_pass flags.skip_suffix fun text =>
    (flags.skip_append text).imp_right And.right

namespace Syntax

variable
    (flags : Flags)

/-! ## Escapes -/

theorem local_fixedDigits (count : Nat) : Local (fixedDigits flags count) := by
  induction count with
  | zero => exact local_pure []
  | succ count ih =>
      rw [fixedDigits]
      refine local_next.bind fun first => of_ite local_failure ?_
      exact flags.local_skip.bind fun _ => ih.bind fun others => local_pure _

theorem leaves_braced (fuel : Nat) : Leaves (braced flags fuel) := by
  induction fuel with
  | zero => exact leaves_failure
  | succ fuel ih =>
      rw [braced]
      refine flags.local_skip.leaves.bind fun _ => leaves_next.bind fun first => ?_
      exact of_ite (leaves_pure []) (ih.bind fun others => leaves_pure _)

theorem local_braced : Local (sized (braced flags)) := by
  refine local_sized (leaves_braced flags) fun fuel => ?_
  induction fuel with
  | zero => exact fun larger _ => alike_zero (leaves_braced flags larger)
  | succ fuel ih =>
      rintro (_ | larger) enough
      · cases enough
      · rw [braced, braced]
        refine .bind_left flags.local_skip fun _ => ?_
        refine .bind_shorter local_next shortens_next fun first => ?_
        refine .ite ((local_pure []).alike fuel) ?_
        exact (ih larger (Nat.le_of_succ_le_succ enough)).bind_right
          fun others => local_pure _

theorem local_hexadecimal (count : Nat) : Local (hexadecimal flags count) := by
  rw [hexadecimal]
  refine flags.local_skip.bind fun _ => (local_takes rfl).bind fun taken => ?_
  refine of_ite ?_ ?_
  · refine (local_braced flags).bind fun digits => flags.local_skip.bind fun _ => ?_
    exact (local_lift _).bind fun character => local_pure _
  · refine (local_fixedDigits flags count).bind fun digits => ?_
    exact (local_lift _).bind fun character => local_pure _

theorem local_propertySet : Local (propertySet flags) := by
  rw [propertySet]
  refine (local_takes rfl).bind fun taken => of_ite ?_ ?_
  · exact (local_braced flags).bind fun name => local_lift _
  · refine local_next.bind fun letter => of_ite local_failure ?_
    refine flags.local_skip.bind fun _ => (local_lift _).bind fun named => ?_
    exact local_pure _

theorem local_property (isNegated : Bool) : Local (property flags isNegated) := by
  rw [property]
  refine flags.local_skip.bind fun _ => (local_propertySet flags).bind fun set => ?_
  exact of_ite (local_pure _) local_failure

theorem leaves_run (test : Char → Bool) (fuel : Nat) :
    Leaves (run flags test fuel) := by
  induction fuel with
  | zero => exact leaves_failure
  | succ fuel ih =>
      rw [run]
      refine (leaves_takeIf? test).bind fun first? => ?_
      cases first? with
      | none => exact leaves_pure []
      | some first =>
          exact flags.local_skip.leaves.bind fun _ =>
            ih.bind fun others => leaves_pure _

theorem local_run {test : Char → Bool} (fails : test ')' = false) :
    Local (sized (run flags test)) := by
  refine local_sized (leaves_run flags test) fun fuel => ?_
  induction fuel with
  | zero => exact fun larger _ => alike_zero (leaves_run flags test larger)
  | succ fuel ih =>
      rintro (_ | larger) enough
      · cases enough
      · rw [run, run]
        refine ((exact_takeIf? fails).isLocal.alike _).bind_below
          (fun first? => first?.elim (fuel + 1) fun _ => fuel) ?_ fun first? => ?_
        · intro text first? rest short found
          cases first? with
          | none =>
              have stays := (leaves_takeIf? test text none rest found).length_le
              exact Nat.lt_of_le_of_lt stays short
          | some first =>
              exact Nat.lt_of_lt_of_le (takeIf?_shortens found)
                (Nat.le_of_lt_succ short)
        · cases first? with
          | none => exact (local_pure []).alike _
          | some first =>
              refine .bind_left flags.local_skip fun _ => ?_
              exact (ih larger (Nat.le_of_succ_le_succ enough)).bind_right
                fun others => local_pure _

/-- What comes after a mark is not asked of what closes a text. -/
theorem exact_precedes
    {mark : Char}
    {test : Char → Bool}
    (apart : (')' == mark) = false)
    (fails : test ')' = false) :
    Exact (peeks (precedes flags mark test)) := by
  refine exact_peeks fun text => ?_
  cases text with
  | nil =>
      show (')' == mark && _) = false
      rw [apart, Bool.false_and]
  | cons first rest =>
      rw [List.cons_append, precedes, precedes]
      rcases flags.skip_append rest with same | ⟨nothing, swallowed⟩
      · rw [same]
        cases flags.skip rest with
        | nil =>
            show (_ && test ')') = (_ && false)
            rw [fails]
        | cons second others => rfl
      · rw [nothing, swallowed]

theorem local_boundary : Local (boundary flags) := by
  rw [boundary]
  refine (exact_precedes flags rfl rfl).isLocal.bind fun opens => ?_
  refine of_ite (local_pure _) ?_
  refine (local_takes rfl).bind fun taken => of_ite ?_ (local_pure _)
  refine flags.local_skip.bind fun _ => (local_run flags rfl).bind fun name => ?_
  refine (local_takes rfl).bind fun taken => of_ite ?_ local_failure
  exact (local_lift _).bind fun demand => local_pure _

theorem local_escape : Local (escape flags) := by
  have kind (kind : Kind) (isNegated : Bool) :
      Local (do return Escape.set (← kindSet flags kind isNegated)) :=
    (local_lift _).bind fun set => local_pure _
  rw [escape]
  refine local_next.bind fun first => ?_
  unfold escapeAt
  dsimp only
  split
  all_goals first
    | exact local_hexadecimal flags _
    | exact local_property flags _
    | exact kind _ _
    | exact local_boundary flags
    | exact of_ite (local_pure _) local_failure
    | exact local_pure _

/-! ## Bracketed sets -/

theorem exact_asciiClass : Exact asciiClass := by
  rw [asciiClass]
  refine (exact_takes rfl).bind fun taken => of_ite ?_ exact_failure
  refine (exact_upTo rfl).bind fun inner => (exact_lift _).bind fun set => ?_
  exact (exact_takes rfl).bind fun taken => of_ite (exact_pure _) exact_failure

theorem local_literalItem (character : Char) : Local (literalItem flags character) :=
  of_ite local_failure (local_pure _)

theorem local_setItemAt (first : Char) : Local (setItemAt flags first) := by
  rw [setItemAt]
  refine of_ite ?_ (local_literalItem flags first)
  refine (local_escape flags).bind fun escaped => ?_
  cases escaped with
  | literal character isByte => exact local_literalItem flags character
  | set set => exact local_pure _
  | look demand => exact local_failure

theorem local_setItem : Local (setItem flags) :=
  local_next.bind (local_setItemAt flags)

theorem local_setRangeFrom (first : Item) : Local (setRangeFrom flags first) := by
  rw [setRangeFrom]
  refine flags.local_skip.bind fun _ => ?_
  refine (exact_precedes flags rfl rfl).isLocal.bind fun ends => ?_
  refine of_ite (local_pure _) ?_
  refine (local_takes rfl).bind fun taken => of_ite ?_ (local_pure _)
  refine flags.local_skip.bind fun _ => (local_setItem flags).bind fun last => ?_
  cases first with
  | literal first =>
      cases last with
      | literal last => exact of_ite (local_pure _) local_failure
      | set set => exact local_failure
  | set set => exact local_failure

theorem local_setRange : Local (setRange flags) :=
  (local_setItem flags).bind (local_setRangeFrom flags)

theorem shortens_setRange : Shortens (setRange flags) :=
  (shortens_next.bind fun first => (local_setItemAt flags first).leaves).bind
    fun item => (local_setRangeFrom flags item).leaves

theorem local_openSet : Local (openSet flags) := by
  rw [openSet]
  refine flags.local_skip.bind fun _ => (local_takes rfl).bind fun isNegated => ?_
  refine flags.local_skip.bind fun _ => (local_run flags rfl).bind fun hyphens => ?_
  refine of_ite ?_ (local_pure _)
  refine (local_takes rfl).bind fun taken => of_ite ?_ (local_pure _)
  exact flags.local_skip.bind fun _ => local_pure _

theorem local_setLexeme : Local (setLexeme flags) := by
  rw [setLexeme]
  refine (local_takes rfl).bind fun closes => of_ite (local_pure _) ?_
  refine (local_takes rfl).bind fun taken => of_ite (local_pure _) ?_
  refine (local_takes rfl).bind fun taken => of_ite (local_pure _) ?_
  refine (local_takes rfl).bind fun taken => of_ite (local_pure _) ?_
  refine (local_takes rfl).bind fun opens => of_ite ?_ ?_
  · refine exact_asciiClass.attempt.isLocal.bind fun set? => ?_
    cases set? with
    | none => exact local_pure _
    | some set => exact local_pure _
  · exact (local_setRange flags).bind fun set => local_pure _

theorem shortens_setLexeme : Shortens (setLexeme flags) := by
  rw [setLexeme]
  refine shortens_takes (List.cons_ne_nil _ _) (leaves_pure _) ?_
  refine shortens_takes (List.cons_ne_nil _ _) (leaves_pure _) ?_
  refine shortens_takes (List.cons_ne_nil _ _) (leaves_pure _) ?_
  refine shortens_takes (List.cons_ne_nil _ _) (leaves_pure _) ?_
  refine shortens_takes (List.cons_ne_nil _ _) ?_ ?_
  · refine exact_asciiClass.attempt.leaves.bind fun set? => ?_
    cases set? with
    | none => exact leaves_pure _
    | some set => exact leaves_pure _
  · exact (shortens_setRange flags).bind fun set => leaves_pure _

theorem leaves_setBody
    (isNegated : Bool)
    (fuel : Nat)
    (before? : Option (SetOp × CharClass × Nat))
    (items : Items) :
    Leaves (setBody flags isNegated fuel before? items) := by
  induction fuel generalizing isNegated before? items with
  | zero => exact leaves_failure
  | succ fuel ih =>
      rw [setBody]
      refine flags.local_skip.leaves.bind fun _ => ?_
      refine (local_setLexeme flags).leaves.bind fun lexeme => ?_
      cases lexeme with
      | close => exact leaves_lift _
      | operation op => exact ih _ _ _
      | bracket =>
          refine (local_openSet flags).leaves.bind fun opened => ?_
          exact (ih _ _ _).bind fun inner => ih _ _ _
      | part set => exact ih _ _ _

theorem alike_setBody
    (isNegated : Bool)
    (fuel larger : Nat)
    (enough : fuel + 2 ≤ larger)
    (before? : Option (SetOp × CharClass × Nat))
    (items : Items) :
    Alike fuel (setBody flags isNegated fuel before? items)
      (setBody flags isNegated larger before? items) := by
  induction fuel generalizing isNegated larger before? items with
  | zero => exact alike_zero (leaves_setBody flags isNegated larger before? items)
  | succ fuel ih =>
      rcases larger with _ | larger
      · cases enough
      · have enough := Nat.le_of_succ_le_succ enough
        rw [setBody, setBody]
        refine .bind_left flags.local_skip fun _ => ?_
        refine .bind_shorter (local_setLexeme flags) (shortens_setLexeme flags)
          fun lexeme => ?_
        cases lexeme with
        | close => exact (local_lift _).alike fuel
        | operation op => exact ih _ larger enough _ _
        | bracket =>
            refine .bind_left (local_openSet flags) fun opened => ?_
            exact (ih _ larger enough _ _).bind_alike
              (leaves_setBody flags _ fuel none _) fun inner => ih _ larger enough _ _
        | part set => exact ih _ larger enough _ _

theorem local_bracketed : Local (bracketed flags) := by
  rw [bracketed]
  refine (local_openSet flags).bind fun opened => ?_
  exact local_sized (fun fuel => leaves_setBody flags _ fuel none _)
    fun fuel larger enough => alike_setBody flags _ fuel larger enough none _

/-! ## Expressions -/

theorem dropBlanks_append (text : List Char) :
    Text.dropBlanks (text ++ closing) = Text.dropBlanks text ++ closing := by
  induction text with
  | nil => rfl
  | cons first rest ih =>
      rw [List.cons_append, Text.dropBlanks, Text.dropBlanks, List.dropWhile_cons,
        List.dropWhile_cons]
      split
      · exact ih
      · rfl

theorem exact_dropBlanks : Exact (pass Text.dropBlanks) :=
  exact_pass (fun _ => List.dropWhile_suffix Text.isBlank) dropBlanks_append

theorem local_count : Local (count flags) := by
  rw [count]
  refine exact_dropBlanks.isLocal.bind fun _ => ?_
  refine (local_run flags rfl).bind fun digits => ?_
  refine exact_dropBlanks.isLocal.bind fun _ => flags.local_skip.bind fun _ => ?_
  exact (local_lift _).bind fun number => of_ite (local_pure _) local_failure

theorem local_bounds : Local (bounds flags) := by
  rw [bounds]
  refine flags.local_skip.bind fun _ => (local_count flags).bind fun least => ?_
  refine (local_takes rfl).bind fun comma => of_ite ?_ ?_
  · refine flags.local_skip.bind fun _ => ?_
    refine (local_takes rfl).bind fun ends => of_ite ?_ ?_
    · exact flags.local_skip.bind fun _ => local_pure _
    · refine (local_count flags).bind fun most => ?_
      refine (local_takes rfl).bind fun ends => of_ite ?_ local_failure
      exact flags.local_skip.bind fun _ => of_ite (local_pure _) local_failure
  · refine (local_takes rfl).bind fun ends => of_ite ?_ local_failure
    exact flags.local_skip.bind fun _ => local_pure _

theorem local_groupName : Local groupName := by
  rw [groupName]
  refine (exact_upTo rfl).isLocal.bind fun name => ?_
  cases name with
  | nil => exact local_failure
  | cons first others => exact of_ite (local_pure _) local_failure

theorem leaves_flagLetters (isNegated : Bool) (seen : List Char) :
    Leaves (flagLetters flags isNegated seen) := by
  intro text
  induction text generalizing flags isNegated seen with
  | nil =>
      rintro read rest ⟨⟩
  | cons first others ih =>
      intro read rest found
      have tail := List.suffix_cons first others
      rw [flagLetters] at found
      split at found
      · split at found
        · cases found
        · cases found
          exact List.suffix_cons _ _
      · split at found
        · cases found
        · split at found
          · exact (ih _ _ _ _ _ found).trans tail
          · rcases Option.bind_eq_some_iff.1 found with ⟨set, _, found⟩
            exact (ih _ _ _ _ _ found).trans tail

theorem local_flagLetters (isNegated : Bool) (seen : List Char) :
    Local (flagLetters flags isNegated seen) := by
  refine ⟨leaves_flagLetters flags isNegated seen, fun text => ?_⟩
  induction text generalizing flags isNegated seen with
  | nil =>
      refine .inr fun read rest found => ?_
      rw [List.nil_append, closing, flagLetters, if_pos (.inr rfl)] at found
      split at found
      · cases found
      · cases found
        exact List.suffix_rfl
  | cons first others ih =>
      rw [List.cons_append, flagLetters, flagLetters]
      split
      · split
        · exact .inl rfl
        · exact .inl rfl
      · split
        · exact .inl rfl
        · split
          · exact ih _ _ _
          · cases flags.set? first (!isNegated) with
            | none => exact .inl rfl
            | some set => exact ih _ _ _

theorem local_opening : Local (opening flags) := by
  rw [opening]
  refine flags.local_skip.bind fun _ => ?_
  refine (local_takes rfl).bind fun special => of_ite ?_ (local_pure _)
  refine (local_takes rfl).bind fun named => of_ite ?_ ?_
  · exact local_groupName.bind fun name => local_pure _
  · refine (local_takes rfl).bind fun named => of_ite ?_ ?_
    · exact local_groupName.bind fun name => local_pure _
    · refine (local_flagLetters flags false []).bind fun letters => ?_
      exact of_ite (local_pure _) (of_ite (local_pure _) local_failure)

theorem local_lexemeAt (first : Char) : Local (lexemeAt flags first) := by
  unfold lexemeAt
  split
  all_goals first
    | exact (local_opening flags).bind fun opening => local_pure _
    | exact (local_bracketed flags).bind fun set => local_pure _
    | exact (local_bounds flags).bind fun bounds => local_pure _
    | exact (local_escape flags).bind fun escape => local_lift _
    | exact local_lift _
    | exact local_pure _

theorem local_lexeme : Local (lexeme flags) :=
  local_next.bind (local_lexemeAt flags)

theorem shortens_lexeme : Shortens (lexeme flags) :=
  shortens_next.bind fun first => (local_lexemeAt flags first).leaves

theorem exact_isAtEnd : Exact (peeks isAtEnd) := by
  refine exact_peeks fun text => ?_
  cases text with
  | nil => rfl
  | cons first rest => rfl

theorem leaves_level
    (fuel : Nat)
    (context : Context)
    (alternatives parts : List Part) :
    Leaves (level fuel context alternatives parts) := by
  induction fuel generalizing context alternatives parts with
  | zero => exact leaves_failure
  | succ fuel ih =>
      rw [level]
      dsimp only
      refine context.flags.local_skip.leaves.bind fun _ => ?_
      refine (leaves_peeks isAtEnd).bind fun ends => of_ite (leaves_pure _) ?_
      refine (local_lexeme context.flags).leaves.bind fun lexeme => ?_
      cases lexeme with
      | bar => exact ih _ _ _
      | part part => exact ih _ _ _
      | repetition least most? =>
          refine (leaves_lift _).bind fun parts => ?_
          exact (leaves_takes _).bind fun reluctant => ih _ _ _
      | opening opening =>
          cases opening with
          | setFlags inner => exact ih _ _ _
          | group inner name? =>
              refine (leaves_lift _).bind fun names => (ih _ _ _).bind fun group => ?_
              exact leaves_next.bind fun _ => ih _ _ _

/--
A group is read with what closes it as it is read alone, with any numbers of
steps that are enough.
-/
theorem alike_level
    {fuel larger : Nat}
    (enough : fuel + 2 ≤ larger)
    (context : Context)
    (alternatives parts : List Part) :
    Alike fuel (level fuel context alternatives parts)
      (level larger context alternatives parts) := by
  induction fuel generalizing larger context alternatives parts with
  | zero => exact alike_zero (leaves_level larger context alternatives parts)
  | succ fuel ih =>
      rcases larger with _ | larger
      · cases enough
      · have ih := @ih larger (Nat.le_of_succ_le_succ enough)
        rw [level, level]
        dsimp only
        refine .bind_left context.flags.local_skip fun _ => ?_
        refine .bind_left exact_isAtEnd.isLocal fun ends => ?_
        refine .ite ((local_pure _).alike _) ?_
        -- a lexeme shortens the text, so for the rest one step less is enough
        refine .bind_shorter (local_lexeme context.flags)
          (shortens_lexeme context.flags) fun lexeme => ?_
        cases lexeme with
        | bar => exact ih _ _ _
        | part part => exact ih _ _ _
        | repetition least most? =>
            refine .bind_left (local_lift _) fun parts => ?_
            exact .bind_left (local_takes rfl) fun reluctant => ih _ _ _
        | opening opening =>
            cases opening with
            | setFlags inner => exact ih _ _ _
            | group inner name? =>
                refine .bind_left (local_lift _) fun names => ?_
                refine (ih _ _ _).bind_alike (leaves_level fuel _ [] []) fun group => ?_
                exact .bind_left local_next fun _ => ih _ _ _

end Syntax

end QuotaRing.Pattern
