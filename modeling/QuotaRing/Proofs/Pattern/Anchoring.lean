import QuotaRing.Proofs.Pattern.Enclosed
import QuotaRing.Proofs.Pattern.Spans

/-!
# Anchored patterns

A pattern is anchored by putting it in a group between the ends of the text.
Main statements: an anchored pattern that is accepted consists of the pattern
between these ends and so matches just the texts that the pattern matches as a
whole, unless a parenthesis of the pattern closes the group; and then the pattern
alone is refused.
-/

namespace QuotaRing.Pattern

open Reader

namespace Syntax

/-- A group or the whole pattern is read to its end or to a closing parenthesis. -/
theorem isAtEnd_of_level
    {fuel : Nat}
    {context : Context}
    {alternatives parts : List Part}
    {text rest : List Char}
    {read : Part × Context}
    (found : level fuel context alternatives parts text = some (read, rest)) :
    isAtEnd rest = true := by
  induction fuel generalizing context alternatives parts text rest read with
  | zero => cases found
  | succ fuel ih =>
      rw [level] at found
      dsimp only at found
      rcases bind_eq_some found with ⟨_, skipped, passed, found⟩
      rcases bind_eq_some found with ⟨ends, same, peeked, found⟩
      cases peeked
      split at found
      · next ends =>
          cases found
          exact ends
      · rcases bind_eq_some found with ⟨lexeme, later, _, found⟩
        cases lexeme with
        | bar => exact ih found
        | part part => exact ih found
        | repetition least most? =>
            rcases bind_eq_some found with ⟨parts, after, _, found⟩
            rcases bind_eq_some found with ⟨reluctant, last, _, found⟩
            exact ih found
        | opening opening =>
            cases opening with
            | setFlags inner => exact ih found
            | group inner name? =>
                rcases bind_eq_some found with ⟨names, after, _, found⟩
                rcases bind_eq_some found with ⟨group, closed, _, found⟩
                rcases bind_eq_some found with ⟨_, last, _, found⟩
                exact ih found

/-- What stands before the pattern in the anchored one opens a group. -/
theorem level_opened (fuel : Nat) (text : List Char) :
    level (fuel + 2) {} [] [] ('^' :: '(' :: '?' :: ':' :: text) =
      (level fuel {} [] [] >>= fun (part, after) => do
        let _ ← next
        level fuel { names := after.names } []
          [{ regex := part.regex, depth := part.depth + 1 },
            { regex := .look .textStart, depth := 0 }]) text :=
  rfl

/-- What is read when only the end of the anchored pattern is left. -/
theorem level_closed (fuel : Nat) (names : List String) (part : Part) :
    level (fuel + 2) { names := names } []
        [part, { regex := .look .textStart, depth := 0 }] ['$'] =
      some
        (({ regex := .seq (.look .textStart) (.seq part.regex (.look .textEnd))
            depth := 1 + max (max 0 part.depth) 0 },
          { names := names }), []) :=
  rfl

/-- Whether a parenthesis of a pattern closes a group that it did not open. -/
def closesEarly (pattern : List Char) : Bool :=
  match level (pattern.length + 1) {} [] [] pattern with
  | some (_, ')' :: _) => true
  | _ => false

/-- The pattern alone is read as it is read in the group that it is put in. -/
theorem level_of_enclosed
    {pattern rest : List Char}
    {read : Part × Context}
    {last : Char}
    (found : level (pattern.length + 5) {} [] [] (pattern ++ closing) =
      some (read, last :: rest)) :
    (closesEarly pattern = true ∧ ∃ right,
      level (pattern.length + 1) {} [] [] pattern = some (read, ')' :: right)) ∨
    (closesEarly pattern = false ∧
      level (pattern.length + 1) {} [] [] pattern = some (read, []) ∧
      rest = ['$']) := by
  have enough : pattern.length + 1 + 2 ≤ pattern.length + 5 := by omega
  have alike := alike_level enough {} [] []
  rw [closesEarly]
  rcases alike.agrees pattern (Nat.lt_succ_self _) with same | spent
  · rw [found] at same
    cases alone : level (pattern.length + 1) {} [] [] pattern with
    | none =>
        rw [alone] at same
        cases same
    | some result =>
        rcases result with ⟨part, left⟩
        have ends := isAtEnd_of_level alone
        rw [alone] at same
        cases left with
        | nil =>
            cases same
            exact .inr ⟨rfl, rfl, rfl⟩
        | cons first right =>
            cases beq_iff_eq.1 (show (first == ')') = true from ends)
            cases same
            exact .inl ⟨rfl, right, rfl⟩
  · have tail := spent read (last :: rest) found
    have ends := isAtEnd_of_level found
    cases beq_iff_eq.1 (show (last == ')') = true from ends)
    have member := List.mem_singleton.1 (tail.subset List.mem_cons_self)
    exact absurd member (by decide)

end Syntax

theorem anchored_eq (pattern : String) :
    anchored pattern = '^' :: '(' :: '?' :: ':' :: (pattern.toList ++ closing) := by
  rw [anchored, List.append_assoc]
  rfl

namespace Regex

theorem ofPattern?_eq_some
    {pattern : List Char}
    {regex : Regex} :
    ofPattern? pattern = some regex ↔
      ∃ part context,
        Syntax.level (pattern.length + 1) {} [] [] pattern =
          some ((part, context), []) ∧
        part.depth ≤ Syntax.maxDepth ∧
        Syntax.weight part.regex ≤ Syntax.maxWeight ∧
        part.regex = regex := by
  rw [ofPattern?]
  constructor
  · intro found
    rcases Option.bind_eq_some_iff.1 found with ⟨⟨⟨part, context⟩, rest⟩, read, found⟩
    cases rest with
    | nil =>
        dsimp only at found
        split at found
        · next fits =>
            exact ⟨part, context, read, fits.1, fits.2, Option.some.inj found⟩
        · cases found
    | cons first rest => cases found
  · rintro ⟨part, context, read, shallow, light, rfl⟩
    rw [read]
    exact if_pos ⟨shallow, light⟩

/--
An anchored pattern that is accepted consists of the pattern between the ends of
the text, unless the pattern itself closes the group that it is put in.
-/
theorem ofPattern?_anchored
    {pattern : String}
    {regex : Regex}
    (accepted : ofPattern? (anchored pattern) = some regex) :
    (Syntax.closesEarly pattern.toList = true ∧ ofPattern? pattern.toList = none) ∨
    (Syntax.closesEarly pattern.toList = false ∧
      ∃ inner, ofPattern? pattern.toList = some inner ∧
        regex = .seq (.look .textStart) (.seq inner (.look .textEnd))) := by
  rcases ofPattern?_eq_some.1 accepted with ⟨whole, context, read, shallow, light, rfl⟩
  have length : (anchored pattern).length + 1 = pattern.toList.length + 5 + 2 := by
    rw [anchored_eq, List.length_cons, List.length_cons, List.length_cons,
      List.length_cons, List.length_append]
    rfl
  rw [length, anchored_eq, Syntax.level_opened] at read
  rcases bind_eq_some read with ⟨⟨part, after⟩, left, found, outside⟩
  rcases bind_eq_some outside with ⟨last, rest, closed, ended⟩
  cases left with
  | nil => cases closed
  | cons first others =>
      cases closed
      rcases Syntax.level_of_enclosed found with
        ⟨early, right, alone⟩ | ⟨whole, alone, same⟩
      · refine .inl ⟨early, ?_⟩
        rw [ofPattern?, alone]
        rfl
      · subst same
        rw [Syntax.level_closed] at ended
        cases ended
        refine .inr ⟨whole, part.regex, ?_, rfl⟩
        dsimp only at shallow
        simp only [Syntax.weight] at light
        exact ofPattern?_eq_some.2
          ⟨part, after, alone, by omega, by omega, rfl⟩

/-- Whether an expression matches a text from its start to its end. -/
def MatchesWhole (regex : Regex) (text : List Char) : Prop :=
  regex.Spans text 0 text.length

theorem matchesIn_anchored_iff
    {regex : Regex}
    {text : List Char} :
    (seq (.look .textStart) (.seq regex (.look .textEnd))).matchesIn text = true ↔
      regex.MatchesWhole text := by
  rw [matchesIn_iff]
  constructor
  · rintro ⟨first, inside, finish, _, ⟨rfl, _, opens⟩, last, spans, rfl, within, closes⟩
    have atStart : first = 0 := by
      cases first with
      | zero => rfl
      | succ place =>
          have outside := List.getElem?_eq_none_iff.1 (Option.isNone_iff_eq_none.1 opens)
          exact absurd inside (Nat.not_le_of_gt (Nat.lt_succ_of_le outside))
    have outside := List.getElem?_eq_none_iff.1 (Option.isNone_iff_eq_none.1 closes)
    have atEnd : last = text.length := Nat.le_antisymm within outside
    rw [atStart, atEnd] at spans
    exact spans
  · intro spans
    refine ⟨0, Nat.zero_le _, text.length, 0, ⟨rfl, Nat.zero_le _, rfl⟩, text.length,
      spans, rfl, Nat.le_refl _, ?_⟩
    rw [Look.holds, List.getElem?_eq_none (Nat.le_refl _)]
    rfl

end Regex

end QuotaRing.Pattern
