import Mathlib.Data.Nat.Bitwise
import QuotaRing.Pattern.Regex

/-!
# What expressions match

An expression matches a text from one place to another by what it consists of.
Main statement: the matching of a text by sets of places finds out whether there
are two places between which the expression matches.  A repetition without an
upper bound is followed only so far as there are characters, and no more is
needed, since whoever stays at a place need not be counted.
-/

namespace QuotaRing.Pattern

/-! ## Moves between places -/

/-- Whether so many moves in succession lead from a place to another. -/
def Leads (moves : Nat → Nat → Prop) : Nat → Nat → Nat → Prop
  | 0, first, last => first = last
  | count + 1, first, last =>
      ∃ next, moves first next ∧ Leads moves count next last

/-- Whether a function of sets of places follows the moves from their members. -/
def Follows (move : Nat → Nat) (moves : Nat → Nat → Prop) : Prop :=
  ∀ places last, (move places).testBit last = true ↔
    ∃ first, places.testBit first = true ∧ moves first last

variable
    {move : Nat → Nat}
    {moves : Nat → Nat → Prop}
    {first last : Nat}

theorem leads_add
    {count more : Nat} :
    Leads moves (count + more) first last ↔
      ∃ middle, Leads moves count first middle ∧ Leads moves more middle last := by
  induction count generalizing first with
  | zero =>
      rw [Nat.zero_add]
      constructor
      · intro leads
        exact ⟨first, rfl, leads⟩
      · rintro ⟨_, rfl, leads⟩
        exact leads
  | succ count ih =>
      rw [Nat.succ_add]
      constructor
      · rintro ⟨next, moved, leads⟩
        rcases ih.1 leads with ⟨middle, before, after⟩
        exact ⟨middle, ⟨next, moved, before⟩, after⟩
      · rintro ⟨middle, ⟨next, moved, before⟩, after⟩
        exact ⟨next, moved, ih.2 ⟨middle, before, after⟩⟩

theorem leads_then
    {allowed : Nat → Prop}
    {count : Nat} :
    (∃ middle, Leads moves count first middle ∧
      ∃ more, allowed more ∧ Leads moves more middle last) ↔
      ∃ more, allowed more ∧ Leads moves (count + more) first last := by
  constructor
  · rintro ⟨middle, before, more, fits, after⟩
    exact ⟨more, fits, leads_add.2 ⟨middle, before, after⟩⟩
  · rintro ⟨more, fits, leads⟩
    rcases leads_add.1 leads with ⟨middle, before, after⟩
    exact ⟨middle, before, more, fits, after⟩

/-- Moves that stay at a place can be left out. -/
theorem Leads.shorten
    {count : Nat}
    (forward : ∀ {first last}, moves first last → first ≤ last)
    (leads : Leads moves count first last) :
    first ≤ last ∧ ∃ fewer ≤ last - first, Leads moves fewer first last := by
  induction count generalizing first with
  | zero =>
      rcases leads
      exact ⟨Nat.le_refl _, 0, Nat.zero_le _, rfl⟩
  | succ count ih =>
      rcases leads with ⟨next, moved, leads⟩
      rcases ih leads with ⟨after, fewer, short, shortened⟩
      have before := forward moved
      refine ⟨Nat.le_trans before after, ?_⟩
      by_cases stays : first = next
      · subst stays
        exact ⟨fewer, short, shortened⟩
      · exact ⟨fewer + 1, by omega, next, moved, shortened⟩

namespace Follows

theorem comp
    {other : Nat → Nat}
    {others : Nat → Nat → Prop}
    (follows : Follows move moves)
    (onward : Follows other others) :
    Follows (fun places => other (move places))
      (fun first last => ∃ middle, moves first middle ∧ others middle last) := by
  intro places last
  rw [onward]
  constructor
  · rintro ⟨middle, reached, leads⟩
    rcases (follows _ _).1 reached with ⟨first, member, moved⟩
    exact ⟨first, member, middle, moved, leads⟩
  · rintro ⟨first, member, middle, moved, leads⟩
    exact ⟨middle, (follows _ _).2 ⟨first, member, moved⟩, leads⟩

/-- Nothing is reached from nowhere. -/
theorem zero (follows : Follows move moves) : move 0 = 0 := by
  apply Nat.eq_of_testBit_eq
  intro last
  rw [Nat.zero_testBit, Bool.eq_false_iff]
  intro reached
  rcases (follows 0 last).1 reached with ⟨first, member, _⟩
  rw [Nat.zero_testBit] at member
  cases member

theorem iterate (follows : Follows move moves) (count : Nat) :
    Follows (iterate move count) (Leads moves count) := by
  induction count with
  | zero =>
      intro places last
      constructor
      · intro member
        exact ⟨last, member, rfl⟩
      · rintro ⟨_, member, rfl⟩
        exact member
  | succ count ih =>
      have same : Pattern.iterate move (count + 1) =
          fun places => Pattern.iterate move count (move places) := by
        funext places
        rw [Pattern.iterate]
        split
        · next nowhere =>
            have still : Pattern.iterate move count 0 = 0 := ih.zero
            rw [nowhere, follows.zero, still]
        · rfl
      rw [same]
      exact follows.comp ih

/-! ## Spreading -/

/--
Whether every move from the places in `reached` ends at one of them or at one of
those in `fresh`.
-/
def Closed (moves : Nat → Nat → Prop) (reached fresh : Nat) : Prop :=
  ∀ ⦃first last⦄, reached.testBit first = true → moves first last →
    reached.testBit last = true ∨ fresh.testBit last = true

/--
Whether a place is among those reached, or so many moves at most lead to it from
one of the fresh ones.
-/
def Reaches
    (moves : Nat → Nat → Prop)
    (count reached fresh last : Nat) :
    Prop :=
  reached.testBit last = true ∨
    ∃ fewer ≤ count, ∃ start, fresh.testBit start = true ∧
      Leads moves fewer start last

/-- Moves from places reached lead no farther than those from the fresh ones. -/
theorem Closed.leads
    {reached fresh count : Nat}
    (closed : Closed moves reached fresh)
    (member : reached.testBit first = true)
    (leads : Leads moves count first last) :
    Reaches moves count reached fresh last := by
  induction count generalizing first with
  | zero =>
      rcases leads
      exact .inl member
  | succ count ih =>
      rcases leads with ⟨next, moved, leads⟩
      rcases closed member moved with inside | outside
      · rcases ih inside leads with stays | ⟨fewer, few, start, fresh, onward⟩
        · exact .inl stays
        · exact .inr ⟨fewer, Nat.le_succ_of_le few, start, fresh, onward⟩
      · exact .inr ⟨count, Nat.le_succ count, next, outside, leads⟩

section Round

variable
    {reached fresh : Nat}
    (follows : Follows move moves)
    (closed : Closed moves reached fresh)

include follows closed

/-- After a round the fresh places have been reached, and the moves from them are fresh. -/
theorem Closed.next :
    Closed moves (reached ||| fresh)
      ((reached ||| fresh ||| move fresh) ^^^ (reached ||| fresh)) := by
  intro first last member moved
  have landed : (reached ||| fresh ||| move fresh).testBit last = true := by
    rw [Nat.testBit_or, Bool.or_eq_true, Nat.testBit_or, Bool.or_eq_true]
    rw [Nat.testBit_or, Bool.or_eq_true] at member
    rcases member with old | new
    · exact .inl (closed old moved)
    · exact .inr ((follows _ _).2 ⟨first, new, moved⟩)
  rw [Nat.testBit_xor, landed, Bool.true_xor]
  cases (reached ||| fresh).testBit last with
  | true => exact .inl rfl
  | false => exact .inr rfl

/-- A round takes one of the moves that are left. -/
theorem Closed.reaches_succ_iff {count : Nat} :
    Reaches moves (count + 1) reached fresh last ↔
      Reaches moves count (reached ||| fresh)
        ((reached ||| fresh ||| move fresh) ^^^ (reached ||| fresh)) last := by
  have next := closed.next follows
  constructor
  · rintro (old | ⟨fewer, few, start, new, leads⟩)
    · refine .inl ?_
      rw [Nat.testBit_or, old, Bool.true_or]
    · have member : (reached ||| fresh).testBit start = true := by
        rw [Nat.testBit_or, new, Bool.or_true]
      cases fewer with
      | zero =>
          rcases leads
          exact .inl member
      | succ fewer =>
          -- the first of the moves ends at a place that was reached or is fresh now
          rcases leads with ⟨onward, step, leads⟩
          rcases next member step with inside | outside
          · rcases next.leads inside leads with
              stays | ⟨least, short, origin, fresh, rest⟩
            · exact .inl stays
            · exact .inr ⟨least, by omega, origin, fresh, rest⟩
          · exact .inr ⟨fewer, by omega, onward, outside, leads⟩
  · rintro (member | ⟨fewer, few, start, member, leads⟩)
    · rw [Nat.testBit_or, Bool.or_eq_true] at member
      rcases member with old | new
      · exact .inl old
      · exact .inr ⟨0, Nat.zero_le _, last, new, rfl⟩
    · rw [Nat.testBit_xor, Nat.testBit_or (reached ||| fresh)] at member
      have moved : (move fresh).testBit start = true := by
        revert member
        cases (reached ||| fresh).testBit start with
        | true => simp
        | false => simp
      rcases (follows _ _).1 moved with ⟨earlier, new, step⟩
      exact .inr ⟨fewer + 1, Nat.succ_le_succ few, earlier, new, start, step, leads⟩

/-- Spreading goes by rounds until nothing is fresh or no move is left. -/
theorem spread_iff (count : Nat) :
    (spread move count reached fresh).testBit last = true ↔
      Reaches moves count reached fresh last := by
  induction count generalizing reached fresh with
  | zero =>
      rw [spread, Nat.testBit_or, Bool.or_eq_true]
      refine or_congr_right ⟨fun member => ⟨0, Nat.le_refl 0, last, member, rfl⟩, ?_⟩
      rintro ⟨fewer, few, start, member, leads⟩
      rcases Nat.le_zero.1 few
      rcases leads
      exact member
  | succ count ih =>
      rw [spread]
      split
      · next nothing =>
          refine ⟨.inl, ?_⟩
          rintro (old | ⟨_, _, start, member, _⟩)
          · exact old
          · rw [nothing, Nat.zero_testBit] at member
            cases member
      · exact (ih (closed.next follows)).trans (closed.reaches_succ_iff follows).symm

end Round

theorem spread (follows : Follows move moves) (count : Nat) :
    Follows (spread move count 0)
      (fun first last => ∃ more ≤ count, Leads moves more first last) := by
  intro places last
  have closed : Closed moves 0 places := by
    intro first last member
    rw [Nat.zero_testBit] at member
    cases member
  rw [follows.spread_iff closed, Reaches, Nat.zero_testBit]
  constructor
  · rintro (never | ⟨fewer, few, start, member, leads⟩)
    · cases never
    · exact ⟨start, member, fewer, few, leads⟩
  · rintro ⟨start, member, fewer, few, leads⟩
    exact .inr ⟨fewer, few, start, member, leads⟩

end Follows

/-! ## Sets of places -/

theorem testBit_bits (truths : List Bool) (index : Nat) :
    (bits truths).testBit index = truths[index]?.getD false := by
  induction truths generalizing index with
  | nil => exact Nat.zero_testBit index
  | cons truth rest ih =>
      have shape : bits (truth :: rest) = 2 * bits rest + truth.toNat := by
        cases truth with
        | true => rfl
        | false => rfl
      have small : truth.toNat < 2 := Bool.toNat_lt truth
      rw [shape]
      cases index with
      | zero =>
          cases truth with
          | true => simp
          | false => simp
      | succ index =>
          have half : (2 * bits rest + truth.toNat) / 2 = bits rest := by omega
          rw [Nat.testBit_succ, half, ih, List.getElem?_cons_succ]

/-- A place is in the set of those where something holds of what is there. -/
theorem testBit_bits_map
    {α : Type}
    {holds : α → Bool}
    {items : List α}
    {place : Nat} :
    (bits (items.map holds)).testBit place = true ↔
      ∃ item, items[place]? = some item ∧ holds item = true := by
  rw [testBit_bits, List.getElem?_map]
  cases items[place]? with
  | none => simp
  | some item => simp

/-- The character before a place. -/
def characterBefore? (text : List Char) : Nat → Option Char
  | 0 => none
  | place + 1 => text[place]?

theorem neighbours_getElem?
    (last? : Option Char)
    (text : List Char)
    (place : Nat) :
    (neighbours last? text)[place]? =
      if place ≤ text.length then
        some (if place = 0 then last? else characterBefore? text place, text[place]?)
      else none := by
  induction text generalizing last? place with
  | nil =>
      cases place with
      | zero => rfl
      | succ place => rfl
  | cons character rest ih =>
      cases place with
      | zero => rfl
      | succ place =>
          rw [neighbours, List.getElem?_cons_succ, ih, List.length_cons]
          simp only [Nat.succ_le_succ_iff, Nat.succ_ne_zero, if_false,
            List.getElem?_cons_succ]
          cases place with
          | zero => rfl
          | succ place => rfl

theorem neighbours_getElem?_eq_some
    {text : List Char}
    {place : Nat}
    {around : Option Char × Option Char} :
    (neighbours none text)[place]? = some around ↔
      place ≤ text.length ∧ (characterBefore? text place, text[place]?) = around := by
  have before : (if place = 0 then none else characterBefore? text place) =
      characterBefore? text place := by
    cases place with
    | zero => rfl
    | succ place => rfl
  rw [neighbours_getElem?, before]
  split
  · next inside => simp [inside]
  · next outside => simp [outside]

/-! ## Expressions -/

namespace Regex

/--
Whether an expression matches a text from one place to another.  What is
repeated comes `least` times, and then as often as the upper bound still allows.
-/
def Spans (text : List Char) : Regex → Nat → Nat → Prop
  | empty, first, last => first = last
  | one set, first, last =>
      last = first + 1 ∧
        ∃ character, text[first]? = some character ∧
          set.contains character = true
  | .look demand, first, last =>
      first = last ∧ first ≤ text.length ∧
        demand.holds (characterBefore? text first) text[first]? = true
  | seq former latter, first, last =>
      ∃ middle, former.Spans text first middle ∧ latter.Spans text middle last
  | alt left right, first, last =>
      left.Spans text first last ∨ right.Spans text first last
  | times inner least most?, first, last =>
      ∃ more, (∀ most ∈ most?, more ≤ most - least) ∧
        Leads (inner.Spans text) (least + more) first last

variable
    {text : List Char}
    {regex : Regex}

/-- Whatever an expression matches, its place moves on within the text or stays. -/
theorem Spans.forward (spans : regex.Spans text first last) :
    first = last ∨ first < last ∧ last ≤ text.length := by
  induction regex generalizing first last with
  | empty => exact .inl spans
  | one set =>
      rcases spans with ⟨rfl, character, found, _⟩
      rcases List.getElem?_eq_some_iff.1 found with ⟨inside, _⟩
      exact .inr ⟨Nat.lt_succ_self first, inside⟩
  | look demand => exact .inl spans.1
  | seq former latter ihFormer ihLatter =>
      rcases spans with ⟨middle, before, after⟩
      have := ihFormer before
      have := ihLatter after
      omega
  | alt left right ihLeft ihRight =>
      rcases spans with spans | spans
      · exact ihLeft spans
      · exact ihRight spans
  | times inner least most? ih =>
      rcases spans with ⟨more, _, leads⟩
      generalize least + more = count at leads
      induction count generalizing first with
      | zero => exact .inl leads
      | succ count ihCount =>
          rcases leads with ⟨next, moved, leads⟩
          have := ih moved
          have := ihCount leads
          omega

theorem spans_bounded_iff {least most : Nat} :
    (times regex least (some most)).Spans text first last ↔
      ∃ more, more ≤ most - least ∧
        Leads (regex.Spans text) (least + more) first last := by
  constructor
  · rintro ⟨more, bound, leads⟩
    exact ⟨more, bound most rfl, leads⟩
  · rintro ⟨more, bound, leads⟩
    refine ⟨more, fun other same => ?_, leads⟩
    rcases same
    exact bound

/-- Without an upper bound no more repetitions are needed than there are characters. -/
theorem spans_unbounded_iff {least : Nat} :
    (times regex least none).Spans text first last ↔
      ∃ more, more ≤ text.length + 1 ∧
        Leads (regex.Spans text) (least + more) first last := by
  constructor
  · rintro ⟨more, _, leads⟩
    rcases leads_add.1 leads with ⟨middle, before, after⟩
    rcases after.shorten (fun spans => spans.forward.elim Nat.le_of_eq
        fun onward => Nat.le_of_lt onward.1) with
      ⟨onward, fewer, few, shortened⟩
    have repeats : (times regex more none).Spans text middle last :=
      ⟨0, fun _ never => absurd never (Option.not_mem_none _), after⟩
    have := repeats.forward
    exact ⟨fewer, by omega, leads_add.2 ⟨middle, before, shortened⟩⟩
  · rintro ⟨more, _, leads⟩
    exact ⟨more, fun _ never => absurd never (Option.not_mem_none _), leads⟩

/-- Matching by sets of places follows what the expression matches. -/
theorem follows_ends (text : List Char) (regex : Regex) :
    Follows ((regex.locate text).ends text.length) (regex.Spans text) := by
  induction regex with
  | empty =>
      intro places last
      constructor
      · intro member
        exact ⟨last, member, rfl⟩
      · rintro ⟨_, member, rfl⟩
        exact member
  | one set =>
      intro places last
      rw [locate, Located.ends, Nat.testBit_shiftLeft, Bool.and_eq_true,
        decide_eq_true_iff, Nat.testBit_and, Bool.and_eq_true, testBit_bits_map]
      constructor
      · rintro ⟨later, member, held⟩
        exact ⟨last - 1, member, (Nat.sub_add_cancel later).symm, held⟩
      · rintro ⟨first, member, rfl, held⟩
        exact ⟨Nat.le_add_left 1 first, member, held⟩
  | look demand =>
      intro places last
      rw [locate, Located.ends, Nat.testBit_and, Bool.and_eq_true,
        testBit_bits_map]
      constructor
      · rintro ⟨member, around, found, held⟩
        rcases neighbours_getElem?_eq_some.1 found with ⟨inside, rfl⟩
        exact ⟨last, member, rfl, inside, held⟩
      · rintro ⟨_, member, rfl, inside, held⟩
        exact ⟨member, _, neighbours_getElem?_eq_some.2 ⟨inside, rfl⟩, held⟩
  | seq former latter ihFormer ihLatter => exact ihFormer.comp ihLatter
  | alt left right ihLeft ihRight =>
      intro places last
      rw [locate, Located.ends, Nat.testBit_or, Bool.or_eq_true, ihLeft, ihRight]
      constructor
      · rintro (⟨first, member, spans⟩ | ⟨first, member, spans⟩)
        · exact ⟨first, member, .inl spans⟩
        · exact ⟨first, member, .inr spans⟩
      · rintro ⟨first, member, spans | spans⟩
        · exact .inl ⟨first, member, spans⟩
        · exact .inr ⟨first, member, spans⟩
  | times inner least most? ih =>
      intro places last
      cases most? with
      | none =>
          have bounded := (ih.iterate least).comp (ih.spread (text.length + 1))
          rw [locate, Located.ends, bounded]
          refine exists_congr fun first => and_congr_right fun _ => ?_
          exact leads_then.trans spans_unbounded_iff.symm
      | some most =>
          have bounded := (ih.iterate least).comp (ih.spread (most - least))
          rw [locate, Located.ends, bounded]
          refine exists_congr fun first => and_congr_right fun _ => ?_
          exact leads_then.trans spans_bounded_iff.symm

/-- What matching by sets of places finds out. -/
theorem matchesIn_iff {text : List Char} {regex : Regex} :
    regex.matchesIn text = true ↔
      ∃ first ≤ text.length, ∃ last, regex.Spans text first last := by
  have everywhere : ∀ place, ((1 <<< (text.length + 1)) - 1).testBit place = true ↔
      place ≤ text.length := by
    intro place
    rw [Nat.one_shiftLeft, Nat.testBit_two_pow_sub_one, decide_eq_true_iff,
      Nat.lt_succ_iff]
  rw [matchesIn, bne_iff_ne]
  constructor
  · intro somewhere
    rcases Nat.exists_testBit_of_ne_zero somewhere with ⟨last, reached⟩
    rcases (follows_ends text regex _ _).1 reached with ⟨first, member, spans⟩
    exact ⟨first, (everywhere first).1 member, last, spans⟩
  · rintro ⟨first, inside, last, spans⟩ nowhere
    have reached := (follows_ends text regex _ _).2
      ⟨first, (everywhere first).2 inside, spans⟩
    rw [nowhere, Nat.zero_testBit] at reached
    cases reached

end Regex

end QuotaRing.Pattern
