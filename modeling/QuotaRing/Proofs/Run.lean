import QuotaRing.Time.Span

/-!
# Runs

A system answers events one after another, each at a reading of its clock, and
changes its state.  The passing of time is not an event: it shows in the
readings.  A run is a list of events with their readings; its history tells for
every event the state it met and how it was answered.  What every step keeps
holds throughout a run, and what every step hides cannot be seen in a run.
-/

namespace QuotaRing

/-- An event and what the clock reads when it happens. -/
structure Moment (ε : Type) where
  now : Int64
  event : ε

/-- An event with the state it met and its answer. -/
structure Record (σ ε α : Type) where
  before : σ
  moment : Moment ε
  answer : α

namespace Run

variable
    {σ ε α : Type}
    (step : Int64 → ε → StateM σ α)

/-- The state after a run. -/
def after (state : σ) : List (Moment ε) → σ
  | [] => state
  | moment :: rest => after (step moment.now moment.event state).2 rest

/-- The events of a run with the states they met and their answers. -/
def history (state : σ) : List (Moment ε) → List (Record σ ε α)
  | [] => []
  | moment :: rest =>
      { before := state
        moment := moment
        answer := (step moment.now moment.event state).1 } ::
        history (step moment.now moment.event state).2 rest

theorem after_append
    (state : σ)
    (earlier later : List (Moment ε)) :
    after step state (earlier ++ later) =
      after step (after step state earlier) later := by
  induction earlier generalizing state with
  | nil => rfl
  | cons moment rest ih => exact ih _

/-- Whether the clock never goes back in a run. -/
def InOrder (moments : List (Moment ε)) : Prop :=
  moments.Pairwise fun earlier later => earlier.now ≤ later.now

instance (moments : List (Moment ε)) : Decidable (InOrder moments) :=
  inferInstanceAs (Decidable (List.Pairwise _ _))

/-- Whether a clock that never goes back reads so before, in and after a run. -/
def Spans (start last : Int64) : List (Moment ε) → Prop
  | [] => start ≤ last
  | moment :: rest => start ≤ moment.now ∧ Spans moment.now last rest

theorem spans_of_inOrder
    {start last : Int64}
    {moments : List (Moment ε)}
    (ordered : InOrder moments)
    (whole : start ≤ last)
    (above : ∀ moment ∈ moments, start ≤ moment.now)
    (below : ∀ moment ∈ moments, moment.now ≤ last) :
    Spans start last moments := by
  induction moments generalizing start with
  | nil => exact whole
  | cons moment rest ih =>
      rcases List.pairwise_cons.1 ordered with ⟨first, others⟩
      refine ⟨above moment List.mem_cons_self, ?_⟩
      exact ih others (below moment List.mem_cons_self) first
        fun later member => below later (List.mem_cons_of_mem moment member)

theorem le_of_spans
    {start last : Int64}
    {moments : List (Moment ε)}
    (spans : Spans start last moments) :
    start ≤ last := by
  induction moments generalizing start with
  | nil => exact spans
  | cons moment rest ih => exact Int64.le_trans spans.1 (ih spans.2)

/-- Every run in order fits between the ends of the range. -/
theorem spans_of_le
    {last : Int64}
    {moments : List (Moment ε)}
    (ordered : InOrder moments)
    (below : ∀ moment ∈ moments, moment.now ≤ last) :
    Spans Int64.minValue last moments :=
  spans_of_inOrder ordered (Int64.minValue_le last)
    (fun moment _ => Int64.minValue_le moment.now) below

/-- What every step keeps holds after every run and at every event of it. -/
theorem keeps
    (keeps : σ → Prop)
    {moments : List (Moment ε)}
    (kept : ∀ moment ∈ moments, ∀ state, keeps state →
      keeps (step moment.now moment.event state).2)
    (state : σ)
    (start : keeps state) :
    keeps (after step state moments) ∧
      ∀ record ∈ history step state moments, keeps record.before := by
  induction moments generalizing state with
  | nil => exact ⟨start, fun record member => by cases member⟩
  | cons moment rest ih =>
      have next := kept moment List.mem_cons_self state start
      have others := ih
        (fun other member => kept other (List.mem_cons_of_mem moment member))
        (step moment.now moment.event state).2 next
      refine ⟨others.1, ?_⟩
      intro record member
      rcases List.mem_cons.1 member with rfl | later
      · exact start
      · exact others.2 record later

/-- A record of a run tells how an event of it is answered in the state it met. -/
theorem of_mem_history
    {state : σ}
    {moments : List (Moment ε)}
    {record : Record σ ε α}
    (member : record ∈ history step state moments) :
    record.moment ∈ moments ∧
      record.answer =
        (step record.moment.now record.moment.event record.before).1 := by
  induction moments generalizing state with
  | nil => cases member
  | cons moment rest ih =>
      rcases List.mem_cons.1 member with rfl | later
      · exact ⟨List.mem_cons_self, rfl⟩
      · rcases ih later with ⟨held, answered⟩
        exact ⟨List.mem_cons_of_mem moment held, answered⟩

/-! ## Runs that leave events out -/

/-- The events of a run that someone sees, each with its answer. -/
def seen (sees : ε → Bool) (state : σ) (moments : List (Moment ε)) :
    List (Moment ε × α) :=
  ((history step state moments).filter (sees ·.moment.event)).map
    fun record => (record.moment, record.answer)

variable {step}

theorem seen_cons
    (sees : ε → Bool)
    (state : σ)
    (moment : Moment ε)
    (rest : List (Moment ε)) :
    seen step sees state (moment :: rest) =
      (if sees moment.event then
          [(moment, (step moment.now moment.event state).1)]
        else []) ++
        seen step sees (step moment.now moment.event state).2 rest := by
  rw [seen, history, List.filter_cons]
  split
  · rfl
  · rfl

/--
Events whose absence is not seen.  At every reading the states of a run and of
the part of it that keeps some events are related; an event that is left out
does not break the relation, and one that is kept neither breaks it nor, if it
is seen, is answered differently.
-/
structure Hides
    (step : Int64 → ε → StateM σ α)
    (keeps sees : ε → Bool)
    (related : Int64 → σ → σ → Prop)
    (moments : List (Moment ε)) :
    Prop where
  seesKept : ∀ event, sees event = true → keeps event = true
  /-- The relation outlasts the time between any two events of the run. -/
  waits : moments.Pairwise fun earlier later =>
    ∀ whole part, related earlier.now whole part → related later.now whole part
  leftOut : ∀ moment ∈ moments, keeps moment.event = false →
    ∀ whole part, related moment.now whole part →
      related moment.now (step moment.now moment.event whole).2 part
  kept : ∀ moment ∈ moments, keeps moment.event = true →
    ∀ whole part, related moment.now whole part →
      related moment.now (step moment.now moment.event whole).2
          (step moment.now moment.event part).2 ∧
        (sees moment.event = true →
          (step moment.now moment.event whole).1 =
            (step moment.now moment.event part).1)

/-- What is seen of a run is the same without the events whose absence is hidden. -/
theorem Hides.seen_filter
    {keeps sees : ε → Bool}
    {related : Int64 → σ → σ → Prop}
    {moments : List (Moment ε)}
    (hides : Hides step keeps sees related moments)
    {whole part : σ}
    (start : ∀ moment ∈ moments, related moment.now whole part) :
    seen step sees whole moments =
      seen step sees part (moments.filter (keeps ·.event)) := by
  induction moments generalizing whole part with
  | nil => rfl
  | cons moment rest ih =>
      have waits := List.pairwise_cons.1 hides.waits
      have others : Hides step keeps sees related rest :=
        { seesKept := hides.seesKept
          waits := waits.2
          leftOut := fun other member =>
            hides.leftOut other (List.mem_cons_of_mem moment member)
          kept := fun other member =>
            hides.kept other (List.mem_cons_of_mem moment member) }
      have now := start moment List.mem_cons_self
      cases keep : keeps moment.event with
      | true =>
          have next := hides.kept moment List.mem_cons_self keep whole part now
          rw [List.filter_cons, if_pos keep, seen_cons, seen_cons,
            ih others fun later member => waits.1 later member _ _ next.1]
          congr 1
          split
          · next sees => rw [next.2 sees]
          · rfl
      | false =>
          have next := hides.leftOut moment List.mem_cons_self keep whole part now
          have unseen : sees moment.event = false := by
            cases sees : sees moment.event with
            | false => rfl
            | true => exact (hides.seesKept _ sees).symm.trans keep
          rw [List.filter_cons, if_neg (by simp [keep]), seen_cons, unseen,
            ih others fun later member => waits.1 later member _ _ next]
          rfl

end Run

end QuotaRing
