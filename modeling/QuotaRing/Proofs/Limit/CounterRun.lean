import QuotaRing.Proofs.Limit.Accepted
import QuotaRing.Proofs.Limit.Charging
import QuotaRing.Proofs.Run

/-!
# Runs of counters in one table

Hits on counters, views of counters and sweeps happen one after another at
readings of one clock.  Main statement: every hit is answered exactly as the
stamps of the earlier allowed hits on its counter dictate, however the run has
gone for other counters, however late sweeps come and however often the entry
has been written, forgotten or viewed.
-/

namespace QuotaRing.Limit

open QuotaRing.Run (InOrder Spans after history)
open QuotaRing.Store (Key Table readable?)

/-- What can happen to the counters in a table. -/
inductive CounterEvent where
  | hit (method : Method) (subject group : String) (definition : Definition)
  | view (subject group : String) (definition : Definition)
  | sweep

/-- How it is answered. -/
inductive CounterAnswer where
  | hit (result : Except Error Verdict)
  | view (result : Except Error (Option Window))
  | sweep (count : Nat)

/-- What happens to the counters in a table at `now`. -/
def counterStep (now : Int64) : CounterEvent → StateM Table CounterAnswer
  | .hit method subject group definition => fun table =>
      (Limit.hit (Datastore.ofTable now) now method subject group definition
        table).map .hit id
  | .view subject group definition => fun table =>
      (current (Datastore.ofTable now) now subject group definition table).map
        .view id
  | .sweep => fun table => (table.sweep now).map .sweep id

/-- The names under which hits are counted together. -/
structure CounterName where
  subject : String
  group : String
  limit : String
  deriving DecidableEq

/-- The counter and the definition of an event that is a hit. -/
def CounterEvent.hit? : CounterEvent → Option (CounterName × Definition)
  | .hit _ subject group definition =>
      some ({ subject, group, limit := definition.id }, definition)
  | _ => none

/-- Whether an answer allows a hit. -/
def CounterAnswer.allows : CounterAnswer → Bool
  | .hit (.ok verdict) => verdict.allowed
  | _ => false

/-- Whether an event is a hit on a counter. -/
def CounterEvent.isHitOn (event : CounterEvent) (name : CounterName) : Bool :=
  (event.hit?.map Prod.fst) == some name

/-- The stamps of the allowed hits on a counter in the order of a history. -/
def allowedStamps
    (name : CounterName)
    (records : List (Record Table CounterEvent CounterAnswer)) :
    List Int64 :=
  (records.filter fun record =>
    record.moment.event.isHitOn name && record.answer.allows).map
      fun record => record.moment.now

/-- The key of a counter, or the error that reports why it has none. -/
def CounterName.key (name : CounterName) : Except Error Key :=
  counterKey name.subject name.group name.limit

/--
What is asked of the events of a run for the sake of one counter: every reading
is away from the ends of the range, all hits on the counter are against one
unit and value, and hits on other counters have other keys.
-/
structure CounterEvent.Suits
    (moment : Moment CounterEvent)
    (name : CounterName)
    (key : Key)
    (unit : TimeUnit)
    (value : UInt32) :
    Prop where
  margin : HasMargin moment.now
  same : ∀ definition, moment.event.hit? = some (name, definition) →
    definition.unit = unit ∧ definition.value = value
  apart : ∀ other definition, moment.event.hit? = some (other, definition) →
    other ≠ name → other.key ≠ .ok key

variable
    {name : CounterName}
    {key : Key}
    {unit : TimeUnit}
    {value : UInt32}

namespace CounterName

/-- The quota of all hits on a counter. -/
def quota (name : CounterName) (unit : TimeUnit) (value : UInt32) : Quota where
  id := name.limit
  unit := unit
  value := value

end CounterName

/-- One event keeps the account of a counter, and a hit on it is answered by it. -/
theorem Accounts.counterStep
    {stamps : List Int64}
    {moment : Moment CounterEvent}
    {table : Table}
    (accounts : Accounts key (name.quota unit value) stamps moment.now table)
    (named : name.key = .ok key)
    (suits : CounterEvent.Suits moment name key unit value) :
    Accounts key (name.quota unit value)
        (stamps ++
          if moment.event.isHitOn name &&
            (Limit.counterStep moment.now moment.event table).1.allows
          then [moment.now] else [])
        moment.now (Limit.counterStep moment.now moment.event table).2 ∧
      (moment.event.isHitOn name = true →
        ∃ verdict : Verdict,
          (Limit.counterStep moment.now moment.event table).1 =
              .hit (.ok verdict) ∧
            verdict.Follows unit value stamps moment.now) := by
  rcases moment with ⟨now, event⟩
  cases event with
  | hit method subject group definition =>
      by_cases own : ({ subject, group, limit := definition.id } : CounterName) = name
      · subst own
        rcases suits.same definition rfl with ⟨rfl, rfl⟩
        rcases accounts.hit_named suits.margin named rfl method with
          ⟨verdict, next, told, follows, kept⟩
        have isHit : (CounterEvent.hit method subject group definition).isHitOn
            { subject, group, limit := definition.id } = true :=
          beq_self_eq_true _
        simp only [Limit.counterStep, told, isHit, Bool.true_and,
          CounterAnswer.allows]
        exact ⟨kept, fun _ => ⟨verdict, rfl, follows⟩⟩
      · have isNoHit : (CounterEvent.hit method subject group definition).isHitOn
            name = false := by
          apply beq_false_of_ne
          intro same
          exact own (Option.some.inj same)
        have apart : counterKey subject group definition.id ≠ .ok key :=
          suits.apart { subject, group, limit := definition.id } definition rfl own
        rw [isNoHit, Bool.false_and, if_neg Bool.false_ne_true, List.append_nil]
        exact ⟨accounts.hit_other apart method, fun isHit => by cases isHit⟩
  | view subject group definition =>
      have noHit : (CounterEvent.view subject group definition).isHitOn name =
          false := rfl
      rw [noHit, Bool.false_and, if_neg Bool.false_ne_true, List.append_nil]
      refine ⟨?_, fun isHit => by cases isHit⟩
      rw [Limit.counterStep, Prod.map_snd, current_unchanged]
      exact accounts
  | sweep =>
      have noHit : CounterEvent.sweep.isHitOn name = false := rfl
      rw [noHit, Bool.false_and, if_neg Bool.false_ne_true, List.append_nil]
      exact ⟨accounts.sweep, fun isHit => by cases isHit⟩

/-- A run keeps the account of a counter. -/
theorem Accounts.after
    {stamps : List Int64}
    {start last : Int64}
    {table : Table}
    {moments : List (Moment CounterEvent)}
    (accounts : Accounts key (name.quota unit value) stamps start table)
    (named : name.key = .ok key)
    (suits : ∀ moment ∈ moments, CounterEvent.Suits moment name key unit value)
    (spans : Spans start last moments) :
    Accounts key (name.quota unit value)
      (stamps ++
        allowedStamps name (history Limit.counterStep table moments))
      last (Run.after Limit.counterStep table moments) := by
  induction moments generalizing stamps start table with
  | nil =>
      rw [history, allowedStamps, List.filter_nil, List.map_nil, List.append_nil]
      exact accounts.mono spans
  | cons moment rest ih =>
      have now := accounts.mono spans.1
      have next := (now.counterStep named (suits moment List.mem_cons_self)).1
      have rested := ih next
        (fun later member => suits later (List.mem_cons_of_mem moment member))
        spans.2
      rw [List.append_assoc] at rested
      rw [history, allowedStamps, List.filter_cons]
      split
      · next holds =>
          rw [if_pos holds] at rested
          exact rested
      · next fails =>
          rw [if_neg fails] at rested
          exact rested

/--
Every hit on a counter is answered exactly as the stamps of the earlier allowed
hits dictate, in every run from a table in which nothing can be read under the
key of the counter.
-/
theorem hit_follows_log
    (name : CounterName)
    (key : Key)
    (unit : TimeUnit)
    (value : UInt32)
    (table : Table)
    (earlier : List (Moment CounterEvent))
    (now : Int64)
    (method : Method)
    (definition : Definition)
    (named : name.key = .ok key)
    (unreadable : ∀ entry, table.find? key = some entry →
      (readable? (some entry.value) : Option Window) = none)
    (limit : definition.id = name.limit)
    (suits : ∀ moment ∈ earlier ++
      [⟨now, .hit method name.subject name.group definition⟩],
      CounterEvent.Suits moment name key unit value)
    (ordered : InOrder (earlier ++
      [⟨now, .hit method name.subject name.group definition⟩])) :
    ∃ verdict : Verdict,
      (hit (Datastore.ofTable now) now method name.subject name.group definition
          (after counterStep table earlier)).1 = .ok verdict ∧
        verdict.Follows unit value
          (allowedStamps name (history counterStep table earlier)) now := by
  rcases List.pairwise_append.1 ordered with ⟨inOrder, _, past⟩
  have last := suits _ (List.mem_append_right _ List.mem_cons_self)
  have accounts : Accounts key (name.quota unit value) [] Int64.minValue table :=
    .start unreadable
  have kept := accounts.after named
    (fun moment member => suits moment (List.mem_append_left _ member))
    (Run.spans_of_le inOrder
      fun moment member => past moment member _ List.mem_cons_self)
  have isHit : (CounterEvent.hit method name.subject name.group
      definition).isHitOn name = true := by
    simp only [CounterEvent.isHitOn, CounterEvent.hit?, limit, Option.map_some,
      beq_self_eq_true]
  rcases (kept.counterStep named last).2 isHit with ⟨verdict, told, follows⟩
  refine ⟨verdict, ?_, follows⟩
  simpa only [counterStep, Prod.map_fst, CounterAnswer.hit.injEq] using told

/-- A limit of one hit in an hour is hit twice with a sweep between. -/
theorem hit_follows_log_hourly :
    let definition : Definition :=
      { id := "hourly", uri := "*", pattern := ".*", methods := [.any]
        unit := .hour, value := 1 }
    let name : CounterName :=
      { subject := "alice", group := "customers", limit := "hourly" }
    let earlier : List (Moment CounterEvent) :=
      [⟨1700000000000, .hit .get "alice" "customers" definition⟩,
        ⟨1700000001000, .sweep⟩]
    ∃ verdict : Verdict,
      (hit (Datastore.ofTable 1700000002000) 1700000002000 .post "alice"
          "customers" definition (after counterStep .empty earlier)).1 =
          .ok verdict ∧
        verdict.Follows .hour 1
          (allowedStamps name (history counterStep .empty earlier))
          1700000002000 := by
  intro definition name earlier
  have plainGroup : IsPlain "customers" := ⟨by decide, by simp, by simp; decide⟩
  have plainLimit : IsPlain "hourly" := ⟨by decide, by simp, by simp; decide⟩
  rcases plainGroup.named plainLimit "alice" with ⟨key, named⟩
  have suits : ∀ moment ∈ earlier ++
        [⟨1700000002000, .hit .post "alice" "customers" definition⟩],
      CounterEvent.Suits moment name key .hour 1 := by
    intro moment member
    have only : HasMargin moment.now ∧ ∀ hit, moment.event.hit? = some hit →
        hit = (name, definition) := by
      simp only [earlier, List.cons_append, List.nil_append, List.mem_cons,
        List.not_mem_nil, or_false] at member
      rcases member with rfl | rfl | rfl
      · exact ⟨by decide, fun hit found => (Option.some.inj found).symm⟩
      · exact ⟨by decide, fun hit found => by cases found⟩
      · exact ⟨by decide, fun hit found => (Option.some.inj found).symm⟩
    refine ⟨only.1, ?_, ?_⟩
    · intro other found
      cases only.2 _ found
      exact ⟨rfl, rfl⟩
    · intro other otherDefinition found different
      cases only.2 _ found
      exact absurd rfl different
  exact hit_follows_log name key .hour 1 .empty earlier 1700000002000 .post
    definition named (by simp) rfl suits (by decide)

end QuotaRing.Limit
