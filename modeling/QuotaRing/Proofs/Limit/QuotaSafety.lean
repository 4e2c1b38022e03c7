import QuotaRing.Proofs.Limit.Limiter

/-!
# No window takes in more than a limit allows

Main statement: in every run of a limiter, also through sweeps and changes of
the configuration, the requests that were allowed and counted against a limit
are in no window length more than the limit allows, as long as the limit itself
is not changed.  Limits of groups bound the requests of each subject; shared
limits bound those of all subjects together.
-/

namespace QuotaRing.Limit

open QuotaRing.Run (InOrder Spans after history)
open QuotaRing.Store (Key Table)

namespace Limiter

/-- A request that has been answered. -/
abbrev Answered : Type := Record Limiter Event Answer

/--
Whether a request of the callers of some groups is counted by rules against a
limit of the group that applies to them.
-/
def countsOwn
    (rules : Rules)
    (callers : List String)
    (uri method group limit : String) :
    Bool :=
  match rules.groupFor? callers, Method.read method with
  | some applied, .ok read =>
      applied.id == group && applied.rules.any fun rule =>
        rule.definition.id == limit && rule.counts uri read
  | _, _ => false

/-- Whether a request is counted by rules against a shared limit. -/
def countsShared (rules : Rules) (uri method limit : String) : Bool :=
  match Method.read method with
  | .ok read => rules.shared.any fun rule =>
      rule.definition.id == limit && rule.counts uri read
  | .error _ => false

/-- Whether a request of a subject was allowed and counted against a limit. -/
def allowedOwn (subject group limit : String) (record : Answered) : Bool :=
  match record.moment.event, record.answer with
  | .track tracked callers uri method, .track (.ok .allowed) =>
      tracked == subject &&
        countsOwn record.before.rules callers uri method group limit
  | _, _ => false

/-- Whether a request of anyone was allowed and counted against a shared limit. -/
def allowedShared (limit : String) (record : Answered) : Bool :=
  match record.moment.event, record.answer with
  | .track _ _ uri method, .track (.ok .allowed) =>
      countsShared record.before.rules uri method limit
  | _, _ => false

/-- The stamps of the records of some kind. -/
def stampsOf (kind : Answered → Bool) (records : List Answered) : List Int64 :=
  (records.filter kind).map (·.moment.now)

theorem stampsOf_cons
    (kind : Answered → Bool)
    (record : Answered)
    (records : List Answered) :
    stampsOf kind (record :: records) =
      (if kind record then [record.moment.now] else []) ++
        stampsOf kind records := by
  rw [stampsOf, List.filter_cons]
  split
  · rfl
  · rfl

/-! ## Requests that touch a counter -/

/-- Whether a record is that of an allowed request with a charge of some kind. -/
def Charges (kind : Charge → Prop) (record : Answered) : Prop :=
  record.answer = .track (.ok .allowed) ∧
    ∃ subject callers uri method read,
      record.moment.event = .track subject callers uri method ∧
        Method.read method = .ok read ∧
        ∃ charge ∈ charges record.before.rules subject callers uri read,
          kind charge

/-- Whether all charges by rules to the counter under a key have one quota. -/
def Keeps (rules : Rules) (key : Key) (quota : Quota) : Prop :=
  ∀ subject callers uri method,
    ∀ charge ∈ charges rules subject callers uri method,
      charge.IsTo key → charge.definition.quota = quota

variable
    {dialect : Dialect}
    {config : Config}
    {key : Key}
    {quota : Quota}
    {stamps : List Int64}

/-- An event that is not answered as an allowed request need leave no stamp. -/
theorem leaves_none
    {now : Int64}
    {table : Table}
    (accounts : Accounts key quota stamps now table)
    {kind : Charge → Prop}
    {record : Answered}
    (other : record.answer ≠ .track (.ok .allowed)) :
    ∃ added : List Int64,
      (∀ stamp ∈ added, stamp = now) ∧
        Accounts key quota (stamps ++ added) now table ∧
        (Charges kind record → added ≠ []) := by
  refine ⟨[], ?_, ?_, fun charges => absurd charges.1 other⟩
  · intro stamp member
    cases member
  · rw [List.append_nil]
    exact accounts

/--
One event keeps the account of a counter, and an allowed request that touches
the counter has left a stamp.
-/
theorem accounts_step
    (dialect : Dialect)
    {moment : Moment Event}
    {limiter : Limiter}
    (accounts : Accounts key quota stamps moment.now limiter.table)
    (margin : HasMargin moment.now)
    (keeps : Keeps limiter.rules key quota) :
    ∃ added : List Int64,
      (∀ stamp ∈ added, stamp = moment.now) ∧
        Accounts key quota (stamps ++ added) moment.now
          (step dialect moment.now moment.event limiter).2.table ∧
        (Charges (·.IsTo key)
            { before := limiter
              moment := moment
              answer := (step dialect moment.now moment.event limiter).1 } →
          added ≠ []) := by
  rcases moment with ⟨now, event⟩
  cases event with
  | track subject callers uri method =>
      simp only [step, track_eq]
      cases checked : checkSubject subject with
      | error error => exact leaves_none accounts (by simp)
      | ok _ =>
          cases spelled : Method.read method with
          | error message => exact leaves_none accounts (by simp)
          | ok read =>
              rcases accounts.chargeAll margin read
                  (keeps subject callers uri read) with ⟨added, charged⟩
              refine ⟨added, charged.fresh, charged.accounts, ?_⟩
              rintro ⟨allowed, _, _, _, _, _, isTrack, readAgain, touched⟩
              cases isTrack
              rw [spelled] at readAgain
              cases readAgain
              exact charged.left (Answer.track.inj allowed) touched
  | query subject callers =>
      apply leaves_none
      · rw [step, Prod.map_snd, query_ofTable]
        exact accounts
      · simp [step]
  | sweep =>
      apply leaves_none
      · exact accounts.sweep
      · simp [step]
  | update offered =>
      simp only [step]
      cases limiter.rules.update dialect offered with
      | error fault => exact leaves_none accounts (by simp)
      | ok rules => exact leaves_none accounts (by simp)

/--
A run keeps the account of a counter, and in no window length more allowed
requests touch the counter than stamps have joined its log.
-/
theorem accounts_after
    {limiter : Limiter}
    {moments : List (Moment Event)}
    {start last : Int64}
    {kind : Answered → Bool}
    (accounts : Accounts key quota stamps start limiter.table)
    (keeps : ∀ record ∈ history (step dialect) limiter moments,
      Keeps record.before.rules key quota)
    (touches : ∀ record ∈ history (step dialect) limiter moments,
      kind record = true → Charges (·.IsTo key) record)
    (margins : ∀ moment ∈ moments, HasMargin moment.now)
    (spans : Spans start last moments) :
    ∃ added : List Int64,
      Accounts key quota (stamps ++ added) last
          (after (step dialect) limiter moments).table ∧
        ∀ unit instant,
          (within unit
            (stampsOf kind (history (step dialect) limiter moments))
            instant).length ≤ (within unit added instant).length := by
  induction moments generalizing stamps start limiter with
  | nil =>
      refine ⟨[], ?_, fun unit instant => Nat.le_refl _⟩
      rw [List.append_nil]
      exact accounts.mono spans
  | cons moment rest ih =>
      rcases accounts_step dialect
          (accounts.mono spans.1)
          (margins moment List.mem_cons_self)
          (keeps _ List.mem_cons_self) with
        ⟨now, fresh, next, left⟩
      rcases ih next
          (fun record member => keeps record (List.mem_cons_of_mem _ member))
          (fun record member => touches record (List.mem_cons_of_mem _ member))
          (fun later member => margins later (List.mem_cons_of_mem _ member))
          spans.2 with
        ⟨added, kept, fewer⟩
      refine ⟨now ++ added, ?_, ?_⟩
      · rw [← List.append_assoc]
        exact kept
      · intro unit instant
        rw [history, stampsOf_cons, within_append, within_append,
          List.length_append, List.length_append]
        apply Nat.add_le_add _ (fewer unit instant)
        split
        · next counted =>
            -- the stamp of this request is among those that it has left
            have nonempty := left (touches _ List.mem_cons_self counted)
            rcases List.exists_mem_of_ne_nil now nonempty with ⟨stamp, member⟩
            rw [fresh stamp member] at member
            exact ((List.singleton_sublist.2 member).filter _).length_le
        · exact Nat.zero_le _

/-! ## The bound -/

/-- A charge to the counter of given names. -/
def IsFor (subject group limit : String) (charge : Charge) : Prop :=
  charge.subject = subject ∧ charge.group = group ∧
    charge.definition.id = limit

theorem Charges.imp
    {kind other : Charge → Prop}
    {record : Answered}
    (charges : Charges kind record)
    (imply : ∀ charge, kind charge → other charge) :
    Charges other record := by
  rcases charges with
    ⟨allowed, subject, callers, uri, method, read, isTrack, spelled, charge,
      charged, its⟩
  exact ⟨allowed, subject, callers, uri, method, read, isTrack, spelled, charge,
    charged, imply charge its⟩

section Named

variable
    {limiter : Limiter}
    {moments : List (Moment Event)}
    {subject group limit : String}
    (started : start dialect config = .ok limiter)

include started

/-- A limiter starts with an account of no hits for every counter. -/
theorem accounts_of_start (key : Key) (quota : Quota) :
    Accounts key quota [] Int64.minValue limiter.table := by
  rw [(isOf_of_start started).2]
  exact .start fun entry found => by cases found

/-- A limit that a request has been charged to has a key. -/
theorem exists_key_of_charges
    {record : Answered}
    (member : record ∈ history (step dialect) limiter moments)
    (charged : Charges (IsFor subject group limit) record) :
    ∃ key, counterKey subject group limit = .ok key := by
  rcases charged with ⟨_, _, _, _, _, _, _, _, charge, charges, rfl, rfl, rfl⟩
  rcases (isOf_accepted started moments).2 record member with
    ⟨inForce, _, ruled⟩
  have plain := (ruled.has_of_mem_charges charges).isPlain ruled.accepted
  exact plain.1.named plain.2 charge.subject

/-- Configurations that agree on a limit keep the quota of its counters. -/
theorem keeps_of_same
    {unit : TimeUnit}
    {value : UInt32}
    (same : ∀ inForce ∈ accepted dialect config moments, ∀ definition,
      inForce.Has group definition → definition.id = limit →
        definition.unit = unit ∧ definition.value = value)
    (named : counterKey subject group limit = .ok key) :
    ∀ record ∈ history (step dialect) limiter moments,
      Keeps record.before.rules key
        { id := limit, unit := unit, value := value } := by
  intro record member tracked callers uri method charge charges isTo
  rcases (isOf_accepted started moments).2 record member with
    ⟨inForce, listed, ruled⟩
  have has := ruled.has_of_mem_charges charges
  have plain := has.isPlain ruled.accepted
  rcases counterKey_inj plain.1.colonFree plain.2.colonFree isTo named with
    ⟨rfl, rfl, _⟩
  rcases same inForce listed charge.definition has rfl with ⟨rfl, rfl⟩
  rfl

end Named

/--
Requests that are charged to the counter of given names are bounded, if all
accepted configurations that have the limit agree on its unit and value.
-/
theorem length_within_le
    {limiter : Limiter}
    {moments : List (Moment Event)}
    (subject group limit : String)
    {unit : TimeUnit}
    {value : UInt32}
    {kind : Answered → Bool}
    (started : start dialect config = .ok limiter)
    (ordered : InOrder moments)
    (margins : ∀ moment ∈ moments, HasMargin moment.now)
    (same : ∀ inForce ∈ accepted dialect config moments, ∀ definition,
      inForce.Has group definition → definition.id = limit →
        definition.unit = unit ∧ definition.value = value)
    (charged : ∀ record, kind record = true →
      Charges (IsFor subject group limit) record)
    (instant : Int) :
    (within unit (stampsOf kind (history (step dialect) limiter moments))
      instant).length ≤ value.toNat := by
  cases named : counterKey subject group limit with
  | error error =>
      have none : (history (step dialect) limiter moments).filter kind = [] := by
        apply List.filter_eq_nil_iff.2
        intro record member counted
        rcases exists_key_of_charges started member (charged record counted) with
          ⟨key, keyed⟩
        rw [keyed] at named
        cases named
      rw [stampsOf, none]
      exact Nat.zero_le _
  | ok key =>
      have touches : ∀ record ∈ history (step dialect) limiter moments,
          kind record = true → Charges (·.IsTo key) record := by
        intro record _ counted
        apply (charged record counted).imp
        rintro charge ⟨rfl, rfl, rfl⟩
        exact named
      have accounts := accounts_of_start started key
        { id := limit, unit := unit, value := value }
      rcases accounts_after accounts (keeps_of_same started same named) touches
          margins
          (Run.spans_of_le ordered
            fun moment _ => Int64.le_maxValue moment.now) with
        ⟨added, kept, fewer⟩
      exact Nat.le_trans (fewer unit instant) (kept.bounded instant)

theorem charges_of_allowedOwn
    {subject group limit : String}
    {record : Answered}
    (allowed : allowedOwn subject group limit record = true) :
    Charges (IsFor subject group limit) record ∧
      ∃ callers applied,
        record.before.rules.groupFor? callers = some applied ∧
          applied.id = group := by
  rcases record with ⟨before, ⟨now, event⟩, answer⟩
  rw [allowedOwn] at allowed
  split at allowed
  · next tracked callers uri method isTrack answered =>
      dsimp only at isTrack answered
      subst isTrack answered
      rw [Bool.and_eq_true, beq_iff_eq] at allowed
      rcases allowed with ⟨rfl, counted⟩
      rw [countsOwn] at counted
      split at counted
      · next applied read applies spelled =>
          rw [Bool.and_eq_true, beq_iff_eq, List.any_eq_true] at counted
          rcases counted with ⟨rfl, rule, member, counts⟩
          rw [Bool.and_eq_true, beq_iff_eq] at counts
          rcases counts with ⟨rfl, counts⟩
          refine ⟨⟨rfl, tracked, callers, uri, method, read, rfl, spelled,
            { subject := tracked
              group := applied.id
              definition := rule.definition }, ?_, rfl, rfl, rfl⟩,
            callers, applied, applies, rfl⟩
          apply List.mem_append_left
          rw [applies]
          exact List.mem_map.2
            ⟨rule, List.mem_filter.2 ⟨member, counts⟩, rfl⟩
      · cases counted
  · cases allowed

theorem charges_of_allowedShared
    {limit : String}
    {record : Answered}
    (allowed : allowedShared limit record = true) :
    Charges (IsFor sharedSubject sharedGroup limit) record := by
  rcases record with ⟨before, ⟨now, event⟩, answer⟩
  rw [allowedShared] at allowed
  split at allowed
  · next tracked callers uri method isTrack answered =>
      dsimp only at isTrack answered
      subst isTrack answered
      rw [countsShared] at allowed
      split at allowed
      · next read spelled =>
          rw [List.any_eq_true] at allowed
          rcases allowed with ⟨rule, member, counts⟩
          rw [Bool.and_eq_true, beq_iff_eq] at counts
          rcases counts with ⟨rfl, counts⟩
          refine ⟨rfl, tracked, callers, uri, method, read, rfl, spelled,
            { subject := sharedSubject
              group := sharedGroup
              definition := rule.definition }, ?_, rfl, rfl, rfl⟩
          apply List.mem_append_right
          exact List.mem_map.2
            ⟨rule, List.mem_filter.2 ⟨member, counts⟩, rfl⟩
      · cases allowed
  · cases allowed

/--
In every run of a limiter, no window length takes in more allowed requests of a
subject than a limit of a group allows, and none takes in more allowed requests
of all subjects than a shared limit allows, if the unit and the value of the
limit are the same in all accepted configurations that have it.
-/
theorem quota_safety
    (dialect : Dialect)
    (config : Config)
    (limiter : Limiter)
    (moments : List (Moment Event))
    (limit : String)
    (unit : TimeUnit)
    (value : UInt32)
    (started : start dialect config = .ok limiter)
    (ordered : InOrder moments)
    (margins : ∀ moment ∈ moments, HasMargin moment.now) :
    (∀ group,
      (∀ inForce ∈ accepted dialect config moments,
        ∀ own ∈ inForce.groups, own.id = group →
          ∀ definition ∈ own.limits, definition.id = limit →
            definition.unit = unit ∧ definition.value = value) →
      ∀ (subject : String) (instant : Int),
        (within unit
          (stampsOf (allowedOwn subject group limit)
            (history (step dialect) limiter moments))
          instant).length ≤ value.toNat) ∧
    ((∀ inForce ∈ accepted dialect config moments,
        ∀ definition ∈ inForce.shared, definition.id = limit →
          definition.unit = unit ∧ definition.value = value) →
      ∀ instant : Int,
        (within unit
          (stampsOf (allowedShared limit)
            (history (step dialect) limiter moments))
          instant).length ≤ value.toNat) := by
  constructor
  · intro group same subject instant
    by_cases isShared : group = sharedGroup
    · -- no group that applies has the name of the shared limits
      have none : (history (step dialect) limiter moments).filter
          (allowedOwn subject group limit) = [] := by
        apply List.filter_eq_nil_iff.2
        intro record member allowed
        rcases (charges_of_allowedOwn allowed).2 with
          ⟨callers, applied, applies, named⟩
        rcases (isOf_accepted started moments).2 record member with
          ⟨inForce, _, ruled⟩
        exact ruled.id_ne_sharedGroup_of_groupFor applies (named.trans isShared)
      rw [stampsOf, none]
      exact Nat.zero_le _
    · apply length_within_le subject group limit started ordered margins _
        (fun record allowed => (charges_of_allowedOwn allowed).1)
      intro inForce listed definition has named
      rw [Config.Has, if_neg isShared] at has
      rcases has with ⟨own, held, isGroup, member⟩
      exact same inForce listed own held isGroup definition member named
  · intro same instant
    apply length_within_le sharedSubject sharedGroup limit started ordered
      margins _ (fun record allowed => charges_of_allowedShared allowed)
    intro inForce listed definition has named
    rw [Config.Has, if_pos rfl] at has
    exact same inForce listed definition has named

/-- A limit of one hit in an hour is hit again after a reload and a sweep. -/
theorem quota_safety_hourly :
    let dialect : Dialect := fun _ => some fun _ => true
    let hourly : Definition :=
      { id := "hourly", uri := "*", pattern := ".*", methods := [.any]
        unit := .hour, value := 1 }
    let config : Config :=
      { groups := [
          { id := "customers", isDefault := true, callers := []
            limits := [hourly] }]
        shared? := some [hourly] }
    let moments : List (Moment Event) :=
      [⟨1700000000000, .track "alice" [] "/orders" "GET"⟩,
        ⟨1700000001000, .update config⟩,
        ⟨1700000002000, .sweep⟩,
        ⟨1700000003000, .track "alice" [] "/orders" "POST"⟩]
    ∃ limiter, start dialect config = .ok limiter ∧
      (∀ subject (instant : Int),
        (within .hour
          (stampsOf (allowedOwn subject "customers" "hourly")
            (history (step dialect) limiter moments)) instant).length ≤ 1) ∧
      ∀ instant : Int,
        (within .hour
          (stampsOf (allowedShared "hourly")
            (history (step dialect) limiter moments)) instant).length ≤ 1 := by
  intro dialect hourly config moments
  have starts : (start dialect config).isOk = true := by decide +kernel
  cases started : start dialect config with
  | error fault =>
      rw [started] at starts
      cases starts
  | ok limiter =>
      have offered : ∀ inForce ∈ accepted dialect config moments,
          inForce = config := by
        intro inForce listed
        rcases List.mem_cons.1 listed with rfl | later
        · rfl
        · have held := (List.mem_filter.1 later).1
          simpa [moments, Event.offered?] using held
      have margins : ∀ moment ∈ moments, HasMargin moment.now := by
        intro moment listed
        simp only [moments, List.mem_cons, List.not_mem_nil, or_false] at listed
        rcases listed with rfl | rfl | rfl | rfl
        all_goals decide
      have safe := quota_safety dialect config limiter moments "hourly" .hour 1
        started (by decide) margins
      refine ⟨limiter, rfl, safe.1 "customers" ?_, safe.2 ?_⟩
      · rintro inForce listed own held _ definition member _
        cases offered inForce listed
        simp only [config, List.mem_singleton] at held
        subst held
        simp only [List.mem_singleton] at member
        subst member
        exact ⟨rfl, rfl⟩
      · rintro inForce listed definition member _
        cases offered inForce listed
        simp only [config, Config.shared, Option.getD_some,
          List.mem_singleton] at member
        subst member
        exact ⟨rfl, rfl⟩

end Limiter

end QuotaRing.Limit
