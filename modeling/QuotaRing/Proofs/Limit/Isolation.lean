import QuotaRing.Proofs.Limit.Forecast

/-!
# Subjects apart

Without shared limits the requests and queries of a subject read and write only
under keys that spell the digest of that subject.  So two tables that agree on
these keys answer the subject alike and agree afterwards, and whoever has another
digest leaves the keys as they are.  Main statement: what a subject is answered
in a run is what it is answered in the run without all requests and queries of
subjects of other digests, whatever the clock reads and however the
configuration is changed.
-/

namespace QuotaRing.Limit

open QuotaRing.Run (Hides seen)
open QuotaRing.Store (Key Table)
open QuotaRing.Wire (encode)

/-- Whether two tables have the same under every key of a counter of a subject. -/
def AgreeOn (subject : String) (left right : Table) : Prop :=
  ∀ group limit key, counterKey subject group limit = .ok key →
    left.find? key = right.find? key

/-- Whether two answers are the same and leave the counters of a subject alike. -/
structure SameFor
    {α : Type}
    (subject : String)
    (left right : α × Table) :
    Prop where
  answer_eq : left.1 = right.1
  agree : AgreeOn subject left.2 right.2

variable
    {subject other : String}
    {left right : Table}

/-- Without shared limits a request is charged to counters of its subject alone. -/
theorem subject_of_mem_charges
    {rules : Rules}
    (unshared : rules.shared = [])
    (subject : String)
    (callers : List String)
    (uri : String)
    (method : Method) :
    ∀ charge ∈ charges rules subject callers uri method,
      charge.subject = subject := by
  intro charge member
  rw [charges, unshared, chargesOf, List.filter_nil, List.map_nil,
    List.append_nil] at member
  cases applies : rules.groupFor? callers with
  | none =>
      rw [applies] at member
      cases member
  | some group =>
      rw [applies] at member
      rcases List.mem_map.1 member with ⟨rule, _, rfl⟩
      rfl

namespace AgreeOn

theorem of_digest
    (agree : AgreeOn subject left right)
    (same : digest other = digest subject) :
    AgreeOn other left right := by
  intro group limit key named
  rw [counterKey_congr same] at named
  exact agree group limit key named

theorem put
    (agree : AgreeOn subject left right)
    (now : Int64)
    (key : Key)
    (value : List UInt8)
    (lifetime : Span) :
    AgreeOn subject (left.put now key value lifetime)
      (right.put now key value lifetime) := by
  intro group limit found named
  rw [Table.find?_put, Table.find?_put]
  split
  · rfl
  · exact agree group limit found named

theorem sweep
    (agree : AgreeOn subject left right)
    (now : Int64) :
    AgreeOn subject (left.sweep now).2 (right.sweep now).2 := by
  intro group limit key named
  rw [Table.find?_sweep, Table.find?_sweep, agree group limit key named]

/-! ## What the subject does -/

theorem hit
    (agree : AgreeOn subject left right)
    (now : Int64)
    (method : Method)
    (group : String)
    (definition : Definition) :
    SameFor subject
      (Limit.hit (Datastore.ofTable now) now method subject group definition left)
      (Limit.hit (Datastore.ofTable now) now method subject group definition
        right) := by
  cases named : counterKey subject group definition.id with
  | error error =>
      rw [hit_ofTable_of_error left named, hit_ofTable_of_error right named]
      exact ⟨rfl, agree⟩
  | ok key =>
      have same : counted left now method key definition.quota =
          counted right now method key definition.quota := by
        rw [counted, counted,
          Table.get?_congr (agree group definition.id key named)]
      rw [hit_ofTable left named, hit_ofTable right named, same]
      exact ⟨rfl, agree.put now key _ _⟩

theorem chargeAll
    (agree : AgreeOn subject left right)
    (now : Int64)
    (method : Method)
    {charges : List Charge}
    (own : ∀ charge ∈ charges, charge.subject = subject) :
    SameFor subject
      (Limit.chargeAll (Datastore.ofTable now) now method charges left)
      (Limit.chargeAll (Datastore.ofTable now) now method charges right) := by
  induction charges generalizing left right with
  | nil => exact ⟨rfl, agree⟩
  | cons charge rest ih =>
      rcases List.forall_mem_cons.1 own with ⟨first, others⟩
      have same := agree.hit now method charge.group charge.definition
      rw [chargeAll_cons, chargeAll_cons, first]
      cases toldLeft : Limit.hit (Datastore.ofTable now) now method subject
          charge.group charge.definition left with
      | mk result nextLeft =>
          cases toldRight : Limit.hit (Datastore.ofTable now) now method subject
              charge.group charge.definition right with
          | mk result' nextRight =>
              rw [toldLeft, toldRight] at same
              rcases same with ⟨answers, next⟩
              cases answers
              cases result with
              | error error => exact ⟨rfl, next⟩
              | ok verdict =>
                  dsimp only
                  by_cases allowed : verdict.allowed = true
                  · rw [if_pos allowed, if_pos allowed]
                    exact ih next others
                  · rw [if_neg allowed, if_neg allowed]
                    exact ⟨rfl, next⟩

theorem track
    (agree : AgreeOn subject left right)
    {rules : Rules}
    (unshared : rules.shared = [])
    (now : Int64)
    (callers : List String)
    (uri method : String) :
    SameFor subject
      (Limit.track (Datastore.ofTable now) rules now subject callers uri method
        left)
      (Limit.track (Datastore.ofTable now) rules now subject callers uri method
        right) := by
  rw [track_eq, track_eq]
  cases checkSubject subject with
  | error error => exact ⟨rfl, agree⟩
  | ok _ =>
      cases Method.read method with
      | error message => exact ⟨rfl, agree⟩
      | ok read =>
          exact agree.chargeAll now read
            (subject_of_mem_charges unshared subject callers uri read)

theorem query
    (agree : AgreeOn subject left right)
    (rules : Rules)
    (now : Int64)
    (callers : List String) :
    SameFor subject
      (Limit.query (Datastore.ofTable now) rules now subject callers left)
      (Limit.query (Datastore.ofTable now) rules now subject callers right) := by
  have reports : reported left now subject = reported right now subject := by
    funext group definition
    rw [reported, reported]
    cases named : counterKey subject group definition.id with
    | error error => rfl
    | ok key =>
        have same := Table.get?_congr (agree group definition.id key named) now
        simp only [Except.map, same]
  rw [query_ofTable, query_ofTable]
  refine ⟨?_, agree⟩
  simp only [queried, reports]

/-! ## What others do -/

/-- A request of a subject of another digest is charged to other counters. -/
theorem track_left
    (agree : AgreeOn subject left right)
    {rules : Rules}
    {config : Config}
    (isOf : rules.IsOf config)
    (unshared : rules.shared = [])
    (different : digest other ≠ digest subject)
    (now : Int64)
    (callers : List String)
    (uri method : String) :
    AgreeOn subject
      (Limit.track (Datastore.ofTable now) rules now other callers uri method
        left).2
      right := by
  rw [track_eq]
  cases checkSubject other with
  | error error => exact agree
  | ok _ =>
      cases Method.read method with
      | error message => exact agree
      | ok read =>
          intro group limit key named
          have made := chargesMade_subset now read
            (charges rules other callers uri read) left
          rw [← agree group limit key named]
          apply untouched_chargeAll now read _ left key
          intro charge isMade isTo
          have member := made isMade
          have plain := (isOf.has_of_mem_charges member).isPlain isOf.accepted
          have parts := counterKey_inj plain.1.colonFree plain.2.colonFree isTo
            named
          rw [subject_of_mem_charges unshared other callers uri read charge
            member] at parts
          exact different parts.2.2.symm

end AgreeOn

/-- Rules without shared limits. -/
theorem Rules.IsOf.shared_eq_nil
    {rules : Rules}
    {config : Config}
    (isOf : rules.IsOf config)
    (unshared : config.shared = []) :
    rules.shared = [] := by
  apply List.eq_nil_iff_forall_not_mem.2
  intro rule member
  have held := isOf.shared rule member
  rw [unshared] at held
  cases held

namespace Limiter

/-- The subject of a request or a query. -/
def Event.subject? : Event → Option String
  | .track subject _ _ _ => some subject
  | .query subject _ => some subject
  | .sweep => none
  | .update _ => none

/-- Whether an event is a request or a query of a subject. -/
def Event.isBy (subject : String) (event : Event) : Bool :=
  event.subject? == some subject

/-- Whether an event is a request or a query of a subject of another digest. -/
def Event.isByOther (subject : String) (event : Event) : Bool :=
  event.subject?.any fun other => digest other != digest subject

theorem Event.isByOther_eq
    {event : Event}
    (named : event.subject? = some other) :
    event.isByOther subject = (digest other != digest subject) := by
  rw [isByOther, named, Option.any_some]

/--
Whether two limiters are the same to a subject: they have the same rules, without
shared limits, and agree on the counters of the subject.
-/
structure AlikeTo (subject : String) (whole part : Limiter) : Prop where
  rules_eq : whole.rules = part.rules
  agree : AgreeOn subject whole.table part.table
  unshared : ∃ inForce, whole.rules.IsOf inForce ∧ inForce.shared = []

variable
    {dialect : Dialect}
    {whole part : Limiter}

theorem step_track
    (dialect : Dialect)
    (now : Int64)
    (subject : String)
    (callers : List String)
    (uri method : String)
    (limiter : Limiter) :
    step dialect now (.track subject callers uri method) limiter =
      (.track (track (Datastore.ofTable now) limiter.rules now subject callers uri
          method limiter.table).1,
        { limiter with
          table := (track (Datastore.ofTable now) limiter.rules now subject callers
            uri method limiter.table).2 }) :=
  rfl

namespace AlikeTo

/-- What a subject of another digest does to one of two limiters is not seen. -/
theorem step_left
    (alike : AlikeTo subject whole part)
    {event : Event}
    (byOther : event.isByOther subject = true)
    (now : Int64) :
    AlikeTo subject (step dialect now event whole).2 part := by
  rcases alike with ⟨rules, agree, inForce, isOf, unshared⟩
  cases event with
  | track other callers uri method =>
      rw [Event.isByOther_eq rfl, bne_iff_ne] at byOther
      exact
        { rules_eq := rules
          agree := agree.track_left isOf (isOf.shared_eq_nil unshared) byOther
            now callers uri method
          unshared := ⟨inForce, isOf, unshared⟩ }
  | query other callers =>
      rw [step_query]
      exact ⟨rules, agree, inForce, isOf, unshared⟩
  | sweep => cases byOther
  | update config => cases byOther

/--
All other events leave two limiters the same to a subject, and the requests and
queries of the subject are answered alike.
-/
theorem step_both
    (alike : AlikeTo subject whole part)
    {event : Event}
    (notByOther : event.isByOther subject = false)
    (offered : ∀ config, event.offered? = some config →
      accepts dialect config = true → config.shared = [])
    (now : Int64) :
    AlikeTo subject (step dialect now event whole).2
        (step dialect now event part).2 ∧
      (event.isBy subject = true →
        (step dialect now event whole).1 = (step dialect now event part).1) := by
  rcases whole with ⟨rules, whole⟩
  rcases part with ⟨rules', part⟩
  rcases alike with ⟨same, agree, inForce, isOf, unshared⟩
  cases same
  cases event with
  | track other callers uri method =>
      rw [Event.isByOther_eq rfl, bne_eq_false_iff_eq] at notByOther
      have tracked := (agree.of_digest notByOther).track
        (isOf.shared_eq_nil unshared) now callers uri method
      rw [step_track, step_track]
      refine ⟨⟨rfl, tracked.agree.of_digest notByOther.symm, inForce, isOf,
        unshared⟩, fun _ => ?_⟩
      exact congrArg Answer.track tracked.answer_eq
  | query other callers =>
      rw [Event.isByOther_eq rfl, bne_eq_false_iff_eq] at notByOther
      have queried := (agree.of_digest notByOther).query rules now callers
      rw [step_query, step_query]
      refine ⟨⟨rfl, agree, inForce, isOf, unshared⟩, fun _ => ?_⟩
      exact congrArg Answer.query queried.answer_eq
  | sweep => exact ⟨⟨rfl, agree.sweep now, inForce, isOf, unshared⟩, nofun⟩
  | update config =>
      refine ⟨?_, nofun⟩
      simp only [step]
      cases compiled : rules.update dialect config with
      | error fault => exact ⟨rfl, agree, inForce, isOf, unshared⟩
      | ok updated =>
          exact ⟨rfl, agree, config, Rules.isOf_of_compile compiled,
            offered config rfl (accepts_of_compile compiled)⟩

end AlikeTo

/--
In every run of a limiter in which no configuration in force has shared limits,
whatever is stored at its start and whatever the clock reads, a subject is
answered as in the run without the requests and queries of all subjects of other
digests.
-/
theorem subjects_are_isolated
    (dialect : Dialect)
    (config : Config)
    (version : UInt64)
    (limiter : Limiter)
    (moments : List (Moment Event))
    (subject : String)
    (compiled : Rules.compile dialect config version = .ok limiter.rules)
    (unshared : ∀ inForce ∈ accepted dialect config moments,
      inForce.shared = []) :
    seen (step dialect) (·.isBy subject) limiter moments =
      seen (step dialect) (·.isBy subject) limiter
        (moments.filter fun moment => !moment.event.isByOther subject) := by
  have hides : Hides (step dialect) (!·.isByOther subject) (·.isBy subject)
      (fun _ => AlikeTo subject) moments :=
    { seesKept := by
        intro event isBy
        rw [Event.isBy, beq_iff_eq] at isBy
        rw [Event.isByOther_eq isBy, bne_self_eq_false]
        rfl
      waits := List.pairwise_of_forall fun _ _ _ _ alike => alike
      leftOut := by
        intro moment _ byOther whole part alike
        rw [Bool.not_eq_false'] at byOther
        exact alike.step_left byOther moment.now
      kept := by
        intro moment member notByOther whole part alike
        rw [Bool.not_eq_true'] at notByOther
        refine alike.step_both notByOther ?_ moment.now
        intro offered isOffered isAccepted
        apply unshared
        apply List.mem_cons_of_mem
        exact List.mem_filter.2
          ⟨List.mem_filterMap.2 ⟨moment, member, isOffered⟩, isAccepted⟩ }
  have alike : AlikeTo subject limiter limiter :=
    { rules_eq := rfl
      agree := fun _ _ _ _ => rfl
      unshared := ⟨config, Rules.isOf_of_compile compiled,
        unshared config List.mem_cons_self⟩ }
  exact hides.seen_filter fun _ _ => alike

/-- A limit of one hit that two subjects use up, while the clock is set back. -/
theorem subjects_are_isolated_pair :
    let dialect : Dialect := fun _ => some fun _ => true
    let config : Config :=
      { groups := [
          { id := "customers", isDefault := true, callers := []
            limits := [
              { id := "hourly", uri := "*", pattern := ".*", methods := [.any]
                unit := .hour, value := 1 }] }]
        shared? := none }
    let moments : List (Moment Event) :=
      [⟨1700000003000, .track "bob" [] "/orders" "GET"⟩,
        ⟨1700000002000, .track "alice" [] "/orders" "GET"⟩,
        ⟨1700000001000, .update config⟩,
        ⟨1700000005000, .query "bob" []⟩,
        ⟨1700000004000, .track "alice" [] "/orders" "GET"⟩]
    ∃ limiter, start dialect config = .ok limiter ∧
      seen (step dialect) (·.isBy "alice") limiter moments =
        seen (step dialect) (·.isBy "alice") limiter
          [⟨1700000002000, .track "alice" [] "/orders" "GET"⟩,
            ⟨1700000001000, .update config⟩,
            ⟨1700000004000, .track "alice" [] "/orders" "GET"⟩] := by
  intro dialect config moments
  have starts : (Rules.compile dialect config 0).isOk = true := by decide +kernel
  have unshared : ∀ inForce ∈ accepted dialect config moments,
      inForce.shared = [] := by
    intro inForce listed
    rcases List.mem_cons.1 listed with rfl | later
    · rfl
    · have offered := (List.mem_filter.1 later).1
      rw [List.mem_singleton.1 offered]
      rfl
  have different : (digest "bob" != digest "alice") = true := by decide +kernel
  cases compiled : Rules.compile dialect config 0 with
  | error fault =>
      rw [compiled] at starts
      cases starts
  | ok rules =>
      refine ⟨{ rules := rules, table := .empty }, ?_, ?_⟩
      · rw [start, compiled]
        rfl
      · rw [subjects_are_isolated dialect config 0 _ moments "alice" compiled
          unshared]
        simp [moments, Event.isByOther, Event.subject?, different]

end Limiter

end QuotaRing.Limit
