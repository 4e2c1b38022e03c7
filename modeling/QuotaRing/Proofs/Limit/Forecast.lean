import QuotaRing.Proofs.Limit.QuotaSafety
import QuotaRing.Proofs.Limit.Reports
import QuotaRing.Proofs.Limit.Spending

/-!
# Reports as forecasts

A report is computed without a hit, from what is stored and the reading of the
clock.  Main statement: as long as a limit has not been changed, the report on
it says before any hit how the next one will be answered, now and at every
later reading up to the first hit; and the query that asks for it changes
nothing.
-/

namespace QuotaRing.Limit

open QuotaRing.Run (InOrder Spans after history)
open QuotaRing.Store (Key Table readable?)

variable
    {key : Key}
    {quota : Quota}
    {stamps : List Int64}
    {now later : Int64}
    {table : Table}

/-! ## When a log leaves room again -/

/-- The window that keeps the stamps of the window length up to a reading. -/
def Window.ofLog (quota : Quota) (stamps : List Int64) (now : Int64) : Window where
  quota := quota
  hits := within quota.unit stamps now.toInt

namespace Window

/-- A full window has room again when its oldest hit is its length old. -/
theorem nextAvailable_ofLog_of_full
    (margin : HasMargin now)
    (sorted : stamps.Pairwise (· ≤ ·))
    (positive : 0 < quota.value)
    (full : ¬ (within quota.unit stamps now.toInt).length < quota.value.toNat) :
    ∃ oldest ∈ within quota.unit stamps now.toInt,
      (∀ stamp ∈ within quota.unit stamps now.toInt, oldest ≤ stamp) ∧
        ((ofLog quota stamps now).nextAvailable now).toInt =
          oldest.toInt + quota.unit.length := by
  apply @nextAvailable_of_full (ofLog quota stamps now) now margin
  · exact Nat.sub_eq_zero_of_le (Nat.not_lt.1 full)
  · exact sorted_within sorted now.toInt
  · intro stamp member
    exact (mem_within.1 member).2
  · intro empty
    rw [show within quota.unit stamps now.toInt = [] from empty] at full
    exact full (UInt32.lt_iff_toNat_lt.1 positive)

theorem nextAvailable_ofLog_of_room
    (room : (within quota.unit stamps now.toInt).length < quota.value.toNat) :
    (ofLog quota stamps now).nextAvailable now = now :=
  if_pos (Nat.sub_pos_of_lt room)

/-- What the report on a window says is within a day from now. -/
theorem nextAvailable_ofLog_bounds
    (margin : HasMargin now)
    (sorted : stamps.Pairwise (· ≤ ·))
    (positive : 0 < quota.value) :
    now.toInt ≤ ((ofLog quota stamps now).nextAvailable now).toInt ∧
      ((ofLog quota stamps now).nextAvailable now).toInt ≤
        now.toInt + dayMillis := by
  have short := quota.unit.length_le_day
  have long := quota.unit.length_pos
  by_cases room :
      (within quota.unit stamps now.toInt).length < quota.value.toNat
  · rw [nextAvailable_ofLog_of_room room]
    omega
  · rcases nextAvailable_ofLog_of_full margin sorted positive room with
      ⟨oldest, member, _, next⟩
    have inside := (mem_within.1 member).2
    omega

/--
A log leaves room at a later reading, if nothing joins it before, exactly from
the reading on that its window names.
-/
theorem room_iff_nextAvailable_le
    (margin : HasMargin now)
    (sorted : stamps.Pairwise (· ≤ ·))
    (past : ∀ stamp ∈ stamps, stamp ≤ now)
    (bounded :
      (within quota.unit stamps now.toInt).length ≤ quota.value.toNat)
    (positive : 0 < quota.value)
    (ordered : now ≤ later) :
    (within quota.unit stamps later.toInt).length < quota.value.toNat ↔
      ((ofLog quota stamps now).nextAvailable now).toInt ≤ later.toInt := by
  have forward := Int64.le_iff_toInt_le.1 ordered
  -- the later window length takes in some of what the one up to now does
  have fewer : within quota.unit stamps later.toInt =
      within quota.unit (within quota.unit stamps now.toInt) later.toInt :=
    (within_within (fun stamp member => Int64.le_iff_toInt_le.1 (past stamp member))
      forward).symm
  by_cases room :
      (within quota.unit stamps now.toInt).length < quota.value.toNat
  · rw [nextAvailable_ofLog_of_room room, fewer]
    exact iff_of_true
      (Nat.lt_of_le_of_lt (List.length_filter_le _ _) room) forward
  · rcases nextAvailable_ofLog_of_full margin sorted positive room with
      ⟨oldest, member, first, next⟩
    have all : (within quota.unit stamps now.toInt).length = quota.value.toNat :=
      Nat.le_antisymm bounded (Nat.not_lt.1 room)
    rw [next, fewer, ← all, within, List.length_filter_lt_length_iff_exists]
    constructor
    · rintro ⟨stamp, held, gone⟩
      have notLater := (mem_within.1 held).2.2
      have notEarlier := Int64.le_iff_toInt_le.1 (first stamp held)
      simp only [decide_eq_true_eq] at gone
      omega
    · intro reached
      refine ⟨oldest, member, ?_⟩
      simp only [decide_eq_true_eq]
      omega

end Window

/-! ## What a report and a hit make of an account -/

/-- A report prints the definition that it is on. -/
theorem definition_reportOf
    (table : Table)
    (now : Int64)
    (subject group : String)
    (definition : Definition) :
    (reportOf table now subject group definition).definition = definition := by
  rw [reportOf]
  cases (liveWindow table now subject group definition.id).map
      (Window.viewAt · now) with
  | none => rfl
  | some window => rfl

namespace Accounts

variable
    {subject group : String}
    {definition : Definition}

/-- A report says what the stamps of the window length up to now leave. -/
theorem reportOf_eq
    (accounts : Accounts key definition.quota stamps now table)
    (margin : HasMargin now)
    (named : counterKey subject group definition.id = .ok key)
    (positive : 0 < definition.value) :
    reportOf table now subject group definition =
      reportBy definition now
        (some (Window.ofLog definition.quota stamps now)) := by
  rcases accounts.sees (isShort_of_named named) with
    ⟨hits, found, sorted, past, same⟩
  have view : Window.viewAt { quota := definition.quota, hits } now =
      Window.ofLog definition.quota stamps now := by
    rw [Window.viewAt_eq_within margin sorted past]
    exact congrArg (Window.mk definition.quota) same
  rw [reportOf, liveWindow_of_named named]
  cases live : (readable? (table.get? now key) : Option Window) with
  | none =>
      rw [live] at found
      cases found
      rw [← view]
      have fresh : Window.viewAt { quota := definition.quota, hits := [] } now =
          Window.fresh definition.quota := rfl
      have room : 0 < (Window.fresh definition.quota).remaining :=
        UInt32.lt_iff_toNat_lt.1 positive
      rw [fresh, Option.map_none, reportBy, reportBy, Window.nextAvailable,
        if_pos room]
      congr 1
      exact UInt32.ofNat_toNat.symm
  | some window =>
      rw [live] at found
      cases found
      rw [← view]
      rfl

/-- A report tells the room that the stamps of the window length up to now leave. -/
theorem toNat_remaining_reportOf
    (accounts : Accounts key definition.quota stamps now table)
    (margin : HasMargin now)
    (named : counterKey subject group definition.id = .ok key)
    (positive : 0 < definition.value) :
    (reportOf table now subject group definition).remaining.toNat =
      definition.value.toNat - (within definition.unit stamps now.toInt).length := by
  rw [accounts.reportOf_eq margin named positive]
  exact Window.toNat_verdict_remaining (Window.ofLog definition.quota stamps now)
    true now

/-- A report tells the reading from which the stamps so far leave room. -/
theorem millis_nextAvailable_reportOf
    (accounts : Accounts key definition.quota stamps now table)
    (margin : HasCalendarMargin now)
    (named : counterKey subject group definition.id = .ok key)
    (positive : 0 < definition.value) :
    (reportOf table now subject group definition).nextAvailable.millis =
      ((Window.ofLog definition.quota stamps now).nextAvailable now).toInt := by
  have bounds := @Window.nextAvailable_ofLog_bounds definition.quota stamps now
    margin.hasMargin accounts.sorted positive
  have above := margin.above
  have below := margin.below
  have day : 0 ≤ dayMillis := by decide
  rw [accounts.reportOf_eq margin.hasMargin named positive]
  exact millis_ofMillis (by omega) (by omega)

/-- A hit that is refused is told what the report says. -/
theorem nextAvailable_of_refused
    (accounts : Accounts key quota stamps now table)
    (margin : HasMargin now)
    (positive : 0 < quota.value)
    {verdict : Verdict}
    (follows : verdict.Follows quota.unit quota.value stamps now)
    (refused : verdict.allowed ≠ true) :
    verdict.nextAvailable = (Window.ofLog quota stamps now).nextAvailable now := by
  have full := mt follows.allowed_iff.2 refused
  have none : verdict.remaining = 0 := by
    apply UInt32.toNat_inj.1
    rw [follows.remaining_eq, if_neg refused]
    rfl
  rcases Window.nextAvailable_ofLog_of_full margin accounts.sorted positive full
    with ⟨oldest, member, first, next⟩
  rcases follows.next_of_full none positive with
    ⟨other, otherMember, otherFirst, told⟩
  rw [Verdict.logged, if_neg refused, List.append_nil] at otherMember otherFirst
  have same := Int64.le_antisymm (first other otherMember) (otherFirst oldest member)
  apply Int64.toInt_inj.1
  rw [told, next, same]

end Accounts

/-! ## Runs without a hit on a counter -/

/-- The charges that are made of a list of them: those up to the first refusal. -/
def chargesMade (now : Int64) (method : Method) : List Charge → Table → List Charge
  | [], _ => []
  | charge :: rest, table =>
      match hit (Datastore.ofTable now) now method charge.subject charge.group
        charge.definition table with
      | (.error _, _) => [charge]
      | (.ok verdict, next) =>
          charge ::
            if verdict.allowed then chargesMade now method rest next else []

theorem chargesMade_subset
    (now : Int64)
    (method : Method)
    (charges : List Charge)
    (table : Table) :
    chargesMade now method charges table ⊆ charges := by
  induction charges generalizing table with
  | nil => exact List.Subset.refl []
  | cons charge rest ih =>
      rw [chargesMade]
      split
      · exact List.cons_subset_cons charge (List.nil_subset rest)
      · split
        · exact List.cons_subset_cons charge (ih _)
        · exact List.cons_subset_cons charge (List.nil_subset rest)

/-- Charging in order touches the counters of the charges that are made. -/
theorem untouched_chargeAll
    (now : Int64)
    (method : Method)
    (charges : List Charge)
    (table : Table) :
    Untouched (chargesMade now method charges table) table
      (chargeAll (Datastore.ofTable now) now method charges table).2 := by
  induction charges generalizing table with
  | nil => exact fun key _ => rfl
  | cons charge rest ih =>
      have first : Untouched [charge] table
          (hit (Datastore.ofTable now) now method charge.subject charge.group
            charge.definition table).2 :=
        fun key apart => find?_hit_of_ne table (apart charge List.mem_cons_self)
      rw [chargeAll_cons, chargesMade]
      cases told : hit (Datastore.ofTable now) now method charge.subject
          charge.group charge.definition table with
      | mk result next =>
          rw [told] at first
          cases result with
          | error error => exact first
          | ok verdict =>
              dsimp only
              by_cases allowed : verdict.allowed = true
              · rw [if_pos allowed, if_pos allowed]
                exact first.cons (ih next)
              · rw [if_neg allowed, if_neg allowed]
                exact first

namespace Limiter

/-- The charges that are made when an event happens to a limiter. -/
def Event.chargesMade (now : Int64) (limiter : Limiter) : Event → List Charge
  | .track subject callers uri method =>
      match checkSubject subject, Method.read method with
      | .ok _, .ok read =>
          Limit.chargesMade now read
            (charges limiter.rules subject callers uri read) limiter.table
      | _, _ => []
  | _ => []

/-- Whether the counter of given names was hit, be it that the hit was refused. -/
def Hits (subject group limit : String) (record : Answered) : Prop :=
  ∃ charge ∈ record.moment.event.chargesMade record.moment.now record.before,
    ∃ key, counterKey subject group limit = .ok key ∧ charge.IsTo key

/-- An event that makes no charge to a counter keeps its account as it is. -/
theorem accounts_step_of_missed
    (dialect : Dialect)
    {moment : Moment Event}
    {limiter : Limiter}
    (accounts : Accounts key quota stamps moment.now limiter.table)
    (missed : ∀ charge ∈ moment.event.chargesMade moment.now limiter,
      ¬ charge.IsTo key) :
    Accounts key quota stamps moment.now
      (step dialect moment.now moment.event limiter).2.table := by
  rcases moment with ⟨now, event⟩
  cases event with
  | track subject callers uri method =>
      simp only [step, track_eq]
      simp only [Event.chargesMade] at missed
      cases checked : checkSubject subject with
      | error error => exact accounts
      | ok _ =>
          cases spelled : Method.read method with
          | error message => exact accounts
          | ok read =>
              rw [checked, spelled] at missed
              exact accounts.congr (untouched_chargeAll now read _ _ key missed)
  | query subject callers =>
      rw [step, Prod.map_snd, query_ofTable]
      exact accounts
  | sweep => exact accounts.sweep
  | update offered =>
      simp only [step]
      cases limiter.rules.update dialect offered with
      | error fault => exact accounts
      | ok rules => exact accounts

/-- A run without a hit on a counter keeps its account as it is. -/
theorem accounts_after_of_missed
    (dialect : Dialect)
    {subject group limit : String}
    {limiter : Limiter}
    {moments : List (Moment Event)}
    (named : counterKey subject group limit = .ok key)
    (accounts : Accounts key quota stamps now limiter.table)
    (missed : ∀ record ∈ history (step dialect) limiter moments,
      ¬ Hits subject group limit record)
    (spans : Spans now later moments) :
    Accounts key quota stamps later
      (after (step dialect) limiter moments).table := by
  induction moments generalizing now limiter with
  | nil => exact accounts.mono spans
  | cons moment rest ih =>
      have next := accounts_step_of_missed dialect (accounts.mono spans.1)
        fun charge made isTo =>
          missed _ List.mem_cons_self ⟨charge, made, key, named, isTo⟩
      exact ih next
        (fun record member => missed record (List.mem_cons_of_mem _ member))
        spans.2

/-! ## The forecast -/

/--
Whether a report foretells how the next hit on the counter of its limit will be
answered, at the reading of the report and at every later one up to a hit.
-/
structure Foretells
    (dialect : Dialect)
    (limiter : Limiter)
    (now : Int64)
    (subject group : String)
    (limit : Definition)
    (report : Report) :
    Prop where
  /-- At the reading of the report it tells what remains, or when to come again. -/
  atOnce : ∀ method, ∃ verdict : Verdict,
    (hit (Datastore.ofTable now) now method subject group limit
        limiter.table).1 = .ok verdict ∧
      (verdict.allowed = true ↔ 0 < report.remaining) ∧
      (verdict.allowed = true →
        verdict.remaining.toNat + 1 = report.remaining.toNat) ∧
      (verdict.allowed = false →
        report.nextAvailable = Instant.ofMillis verdict.nextAvailable ∧
          report.nextAvailable.millis = verdict.nextAvailable.toInt)
  /-- Whatever happens, hits on the counter apart, it tells when one is allowed. -/
  afterwards : ∀ moments later method,
    Spans now later moments →
    HasCalendarMargin later →
    (∀ record ∈ history (step dialect) limiter moments,
      ¬ Hits subject group limit.id record) →
    ∃ verdict : Verdict,
      (hit (Datastore.ofTable later) later method subject group limit
          (after (step dialect) limiter moments).table).1 = .ok verdict ∧
        (verdict.allowed = true ↔ report.nextAvailable.millis ≤ later.toInt)

variable
    {dialect : Dialect}
    {config : Config}
    {limiter : Limiter}
    {moments : List (Moment Event)}
    {subject group : String}
    {definition : Definition}

/-- A report from the account of a counter foretells the hits on it. -/
theorem foretells_reportOf
    (dialect : Dialect)
    (accounts : Accounts key definition.quota stamps now limiter.table)
    (margin : HasCalendarMargin now)
    (named : counterKey subject group definition.id = .ok key)
    (positive : 0 < definition.value) :
    Foretells dialect limiter now subject group definition
      (reportOf limiter.table now subject group definition) := by
  have inRange := margin.hasMargin
  refine ⟨?_, ?_⟩
  · intro method
    rcases accounts.hit_named inRange named rfl method with
      ⟨verdict, next, told, follows, _⟩
    have left := accounts.toNat_remaining_reportOf inRange named positive
    refine ⟨verdict, congrArg Prod.fst told, ?_, ?_, ?_⟩
    · rw [follows.allowed_iff, UInt32.lt_iff_toNat_lt, left]
      exact Nat.sub_pos_iff_lt.symm
    · intro allowed
      have room := follows.allowed_iff.1 allowed
      rw [follows.remaining_eq, if_pos allowed, left]
      exact Nat.sub_add_cancel (Nat.sub_pos_of_lt room)
    · intro refused
      have same := accounts.nextAvailable_of_refused inRange positive follows
        (by simp [refused])
      rw [accounts.millis_nextAvailable_reportOf margin named positive, same,
        accounts.reportOf_eq inRange named positive]
      exact ⟨rfl, rfl⟩
  · intro moments later method spans laterMargin missed
    have kept := accounts_after_of_missed dialect named accounts missed spans
    rcases kept.hit_named laterMargin.hasMargin named rfl method with
      ⟨verdict, next, told, follows, _⟩
    refine ⟨verdict, congrArg Prod.fst told, ?_⟩
    rw [follows.allowed_iff,
      accounts.millis_nextAvailable_reportOf margin named positive]
    exact Window.room_iff_nextAvailable_le inRange accounts.sorted accounts.past
      (accounts.bounded now.toInt) positive (Run.le_of_spans spans)

/-- A query leaves the limiter as it is. -/
theorem step_query
    (dialect : Dialect)
    (now : Int64)
    (subject : String)
    (callers : List String)
    (limiter : Limiter) :
    step dialect now (.query subject callers) limiter =
      (.query (query (Datastore.ofTable now) limiter.rules now subject callers
        limiter.table).1, limiter) := by
  simp only [step, query_ofTable]
  rfl

/-- A run under which a limit has kept its quota accounts for its counters. -/
theorem exists_accounts_after
    (started : start dialect config = .ok limiter)
    (ordered : InOrder moments)
    (past : ∀ moment ∈ moments, moment.now ≤ now)
    (margins : ∀ moment ∈ moments, HasMargin moment.now)
    (kept : ∀ inForce ∈ accepted dialect config moments, ∀ other,
      inForce.Has group other → other.id = definition.id →
        other.unit = definition.unit ∧ other.value = definition.value)
    (named : counterKey subject group definition.id = .ok key) :
    ∃ stamps : List Int64,
      Accounts key definition.quota stamps now
        (after (step dialect) limiter moments).table := by
  -- which requests have left the stamps does not matter here
  have none : ∀ record ∈ history (step dialect) limiter moments,
      false = true → Charges (·.IsTo key) record :=
    fun _ _ impossible => absurd impossible Bool.false_ne_true
  rcases accounts_after (accounts_of_start started key definition.quota)
      (keeps_of_same started kept named) none margins
      (Run.spans_of_le ordered past) with
    ⟨stamps, accounts, _⟩
  exact ⟨stamps, accounts⟩

/--
A query after any run changes nothing, and the report on a limit that has kept
its unit and value in the run foretells how the next hit on it is answered.
-/
theorem query_foretells_hits
    (dialect : Dialect)
    (config : Config)
    (limiter : Limiter)
    (moments : List (Moment Event))
    (now : Int64)
    (subject : String)
    (callers : List String)
    (group : RuleGroup)
    (limit : Definition)
    (started : start dialect config = .ok limiter)
    (ordered : InOrder moments)
    (past : ∀ moment ∈ moments, moment.now ≤ now)
    (margins : ∀ moment ∈ moments, HasCalendarMargin moment.now)
    (margin : HasCalendarMargin now)
    (nonblank : Text.isBlankText subject = false)
    (applies : (after (step dialect) limiter moments).rules.groupFor? callers =
      some group)
    (listed : limit ∈ group.rules.map Rule.definition)
    (positive : 0 < limit.value)
    (kept : ∀ inForce ∈ accepted dialect config moments, ∀ other,
      inForce.Has group.id other → other.id = limit.id →
        other.unit = limit.unit ∧ other.value = limit.value) :
    ∃ reports : List Report,
      step dialect now (.query subject callers)
          (after (step dialect) limiter moments) =
          (.query (.ok { group? := some group.id, reports := reports }),
            after (step dialect) limiter moments) ∧
        reports.map Report.definition = group.rules.map Rule.definition ∧
        ∀ report ∈ reports, report.definition = limit →
          Foretells dialect (after (step dialect) limiter moments) now subject
            group.id limit report := by
  rcases List.mem_map.1 listed with ⟨rule, held, rfl⟩
  rcases named_of_groupFor started applies held subject with ⟨key, named⟩
  rcases exists_accounts_after started ordered past
      (fun moment member => (margins moment member).hasMargin) kept named with
    ⟨stamps, accounts⟩
  refine ⟨_, (step_query dialect now subject callers _).trans
    (congrArg (fun answer => (Answer.query answer, _))
      (query_after started now nonblank applies)), ?_, ?_⟩
  · rw [List.map_map]
    exact List.map_congr_left fun other _ => definition_reportOf _ now subject _ _
  · intro report member isLimit
    rcases List.mem_map.1 member with ⟨other, _, rfl⟩
    rw [definition_reportOf] at isLimit
    rw [isLimit]
    exact foretells_reportOf dialect accounts margin named positive

/-- The report on a limit of two hits in an hour after one of them and a sweep. -/
theorem query_foretells_hits_hourly :
    let dialect : Dialect := fun _ => some fun _ => true
    let limit : Definition :=
      { id := "hourly", uri := "*", pattern := ".*", methods := [.any]
        unit := .hour, value := 2 }
    let config : Config :=
      { groups := [
          { id := "customers", isDefault := true, callers := []
            limits := [limit] }]
        shared? := none }
    let moments : List (Moment Event) :=
      [⟨1700000000000, .track "alice" [] "/orders" "GET"⟩,
        ⟨1700000001000, .sweep⟩, ⟨1700000002000, .update config⟩]
    ∃ limiter reports,
      start dialect config = .ok limiter ∧
        step dialect 1700000003000 (.query "alice" [])
          (after (step dialect) limiter moments) =
          (.query (.ok { group? := some "customers", reports := reports }),
            after (step dialect) limiter moments) ∧
        reports.map Report.definition = [limit] ∧
        ∀ report ∈ reports, report.definition = limit →
          Foretells dialect (after (step dialect) limiter moments) 1700000003000
            "alice" "customers" limit report := by
  intro dialect limit config moments
  have evaluated :
      (start dialect config).toOption.map (fun limiter =>
        ((after (step dialect) limiter moments).rules.groupFor? []).map
          fun group => (group.id, group.rules.map Rule.definition)) =
        some (some ("customers", [limit])) := by
    decide +kernel
  have inOrder : InOrder moments ∧
      (∀ moment ∈ moments, moment.now ≤ (1700000003000 : Int64)) ∧
      ∀ moment ∈ moments, HasCalendarMargin moment.now := by
    simp only [moments, List.forall_mem_cons]
    exact ⟨by decide, by decide, by decide, by decide, by decide, nofun⟩
  have kept : ∀ inForce ∈ accepted dialect config moments, ∀ other,
      inForce.Has "customers" other → other.id = limit.id →
        other.unit = limit.unit ∧ other.value = limit.value := by
    intro inForce member other has _
    have same : inForce = config := by
      rcases List.mem_cons.1 member with first | offered
      · exact first
      · exact List.mem_singleton.1 (List.mem_filter.1 offered).1
    rw [same, Config.Has, if_neg (by decide)] at has
    rcases has with ⟨own, held, _, isLimit⟩
    rw [List.mem_singleton.1 held] at isLimit
    rw [List.mem_singleton.1 isLimit]
    exact ⟨rfl, rfl⟩
  cases started : start dialect config with
  | error fault =>
      rw [started] at evaluated
      cases evaluated
  | ok limiter =>
      rw [started] at evaluated
      rcases Option.map_eq_some_iff.1 (Option.some.inj evaluated) with
        ⟨group, applies, same⟩
      rcases Prod.mk.inj same with ⟨name, only⟩
      have foretold := query_foretells_hits dialect config limiter moments
        1700000003000 "alice" [] group limit started inOrder.1 inOrder.2.1
        inOrder.2.2 (by decide) (by decide) applies
        (only ▸ List.mem_cons_self) (by decide) (name ▸ kept)
      rw [name, only] at foretold
      rcases foretold with ⟨reports, told⟩
      exact ⟨limiter, reports, rfl, told⟩

end Limiter

end QuotaRing.Limit
