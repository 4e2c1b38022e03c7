import QuotaRing.Proofs.Limit.Tidy

/-!
# Reports and the configuration in force

A report prints a definition in force, but what it says is left is computed from
the quota that is stored with the hits, which is the one that was in force when
the counter was last hit.  Main statements: after any run, a report agrees with
the definition it prints exactly if the stored quota leaves as much as that
definition does; and a limit whose value was raised after a hit is reported as
used up although its next hit is allowed.
-/

namespace QuotaRing.Limit

open QuotaRing.Checks (mapM_eq_ok)
open QuotaRing.Run (InOrder after)
open QuotaRing.Store (Key Table readable?)

/--
The hits in the window length of a unit that ends at `now`; its start stops at
the least reading of a clock.
-/
def Window.hitsIn (window : Window) (unit : TimeUnit) (now : Int64) : List Int64 :=
  window.hits.filter fun hit => Saturating.sub now unit.millis < hit ∧ hit ≤ now

/-- What a quota leaves at `now` for hits that are stored with any quota. -/
def Quota.leaves (quota : Quota) (window : Window) (now : Int64) : Nat :=
  quota.value.toNat - (window.hitsIn quota.unit now).length

/-- The window that lives in a table for a counter. -/
def liveWindow
    (table : Table)
    (now : Int64)
    (subject group limit : String) :
    Option Window :=
  match counterKey subject group limit with
  | .ok key => readable? (table.get? now key)
  | .error _ => none

/-- Whether a report says what the definition it prints makes of the stored hits. -/
structure Report.Follows
    (report : Report)
    (table : Table)
    (now : Int64)
    (subject group : String) :
    Prop where
  remaining_eq :
    report.remaining.toNat =
      report.definition.quota.leaves
        ((liveWindow table now subject group report.definition.id).getD
          (Window.fresh report.definition.quota)) now
  remaining_le : report.remaining ≤ report.definition.value
  allowed_iff : ∀ method,
    0 < report.remaining ↔
      ∃ verdict : Verdict,
        (hit (Datastore.ofTable now) now method subject group report.definition
            table).1 = .ok verdict ∧
          verdict.allowed = true

variable
    {table : Table}
    {now : Int64}
    {subject group : String}
    {definition : Definition}
    {key : Key}

namespace Window

theorem remaining_viewAt
    {window : Window}
    (tidy : window.Tidy now) :
    (window.viewAt now).remaining = window.quota.leaves window now := by
  have same : (window.viewAt now).hits = window.hitsIn window.quota.unit now := by
    rw [viewAt_hits tidy.sorted]
    apply List.filter_congr
    intro hit member
    simp only [tidy.past hit member, and_true]
    rfl
  rw [remaining, same]
  rfl

/-- A hit is allowed if the quota it carries leaves a place among the stored hits. -/
theorem allowed_countHit
    {stored? : Option Window}
    {quota : Quota}
    (short : Store.IsShort quota)
    (tidy : ∀ window, stored? = some window → window.Tidy now)
    (method : Method) :
    (countHit { quota := quota, method := method, stamp := now }
        stored?).2.allowed = true ↔
      0 < quota.leaves (stored?.getD (fresh quota)) now := by
  have adopted : ({ stored?.getD (fresh quota) with quota := quota } :
      Window).Tidy now := by
    cases stored? with
    | none => exact .fresh short
    | some window => exact (tidy window rfl).adopt short
  have left : _ = quota.leaves (stored?.getD (fresh quota)) now :=
    remaining_viewAt adopted
  rw [← left]
  simp only [countHit, track]
  split
  · next room => exact iff_of_true rfl room
  · next full => exact iff_of_false Bool.false_ne_true full

end Window

theorem liveWindow_of_named
    (named : counterKey subject group definition.id = .ok key) :
    liveWindow table now subject group definition.id =
      readable? (table.get? now key) := by
  rw [liveWindow, named]

/-- A hit is allowed if its definition leaves a place among the stored hits. -/
theorem hit_allowed_iff
    (counts : Counts table now)
    (named : counterKey subject group definition.id = .ok key)
    (method : Method) :
    (∃ verdict : Verdict,
        (hit (Datastore.ofTable now) now method subject group definition
            table).1 = .ok verdict ∧
          verdict.allowed = true) ↔
      0 < definition.quota.leaves
        ((liveWindow table now subject group definition.id).getD
          (Window.fresh definition.quota)) now := by
  rw [hit_ofTable table named, liveWindow_of_named named,
    ← Window.allowed_countHit (isShort_of_named named)
      (fun window found => counts.live found) method]
  constructor
  · rintro ⟨verdict, told, allowed⟩
    cases told
    exact allowed
  · intro allowed
    exact ⟨_, rfl, allowed⟩

/--
A report follows the definition it prints exactly if the stored quota leaves as
much as that definition does.
-/
theorem reportBy_follows_iff
    (counts : Counts table now)
    (named : counterKey subject group definition.id = .ok key) :
    (reportBy definition now
        ((liveWindow table now subject group definition.id).map
          (Window.viewAt · now))).Follows table now subject group ↔
      ∀ window, liveWindow table now subject group definition.id = some window →
        window.quota.leaves window now =
          definition.quota.leaves window now := by
  have allowed := hit_allowed_iff counts named
  have bounded : ∀ window : Window,
      definition.quota.leaves window now ≤ definition.value.toNat :=
    fun window => Nat.sub_le _ _
  have live : ∀ window,
      liveWindow table now subject group definition.id = some window →
        window.Tidy now := by
    intro window found
    rw [liveWindow_of_named named] at found
    exact counts.live found
  cases found : liveWindow table now subject group definition.id with
  | none =>
      rw [found] at allowed
      refine iff_of_true ⟨?_, UInt32.le_refl _, ?_⟩ (fun window held => by cases held)
      · show definition.value.toNat = definition.quota.leaves
          ((liveWindow table now subject group definition.id).getD _) now
        rw [found]
        rfl
      · intro method
        exact UInt32.lt_iff_toNat_lt.trans (allowed method).symm
  | some window =>
      have told : (reportBy definition now
            (some (window.viewAt now))).remaining.toNat =
          window.quota.leaves window now := by
        rw [← Window.remaining_viewAt (live window found)]
        exact Window.toNat_verdict_remaining _ true now
      rw [found] at allowed
      constructor
      · rintro follows other ⟨⟩
        have same : _ = definition.quota.leaves
            ((liveWindow table now subject group definition.id).getD _) now :=
          follows.remaining_eq
        rw [found] at same
        exact told.symm.trans same
      · intro agree
        have same := told.trans (agree window rfl)
        refine ⟨?_, ?_, ?_⟩
        · show _ = definition.quota.leaves
            ((liveWindow table now subject group definition.id).getD _) now
          rw [found]
          exact same
        · rw [UInt32.le_iff_toNat_le]
          exact same ▸ bounded window
        · intro method
          rw [UInt32.lt_iff_toNat_lt]
          refine Iff.trans ?_ (allowed method).symm
          exact same ▸ Iff.rfl

/-! ## Reports of a limiter -/

/-- The report on a limit from the window that lives for it. -/
def reportOf
    (table : Table)
    (now : Int64)
    (subject group : String)
    (definition : Definition) :
    Report :=
  reportBy definition now
    ((liveWindow table now subject group definition.id).map
      (Window.viewAt · now))

theorem reported_of_named
    (named : counterKey subject group definition.id = .ok key) :
    reported table now subject group definition =
      .ok (reportOf table now subject group definition) := by
  rw [reported, reportOf, liveWindow_of_named named, named]
  rfl

namespace Limiter

variable
    {dialect : Dialect}
    {config : Config}
    {limiter : Limiter}
    {moments : List (Moment Event)}

/-- Every limit of the group that applies has a key for every subject. -/
theorem named_of_groupFor
    (started : start dialect config = .ok limiter)
    {callers : List String}
    {group : RuleGroup}
    (applies : (after (step dialect) limiter moments).rules.groupFor? callers =
      some group)
    {rule : Rule}
    (member : rule ∈ group.rules)
    (subject : String) :
    ∃ key, counterKey subject group.id rule.definition.id = .ok key := by
  rcases (isOf_accepted started moments).1 with ⟨inForce, _, ruled⟩
  have plain := (ruled.has_of_groupFor applies member).isPlain ruled.accepted
  exact plain.1.named plain.2 subject

/-- A query is answered with a report on every limit of the group that applies. -/
theorem query_after
    (started : start dialect config = .ok limiter)
    (now : Int64)
    {subject : String}
    (nonblank : Text.isBlankText subject = false)
    {callers : List String}
    {group : RuleGroup}
    (applies : (after (step dialect) limiter moments).rules.groupFor? callers =
      some group) :
    (query (Datastore.ofTable now)
        (after (step dialect) limiter moments).rules now subject callers
        (after (step dialect) limiter moments).table).1 =
      .ok
        { group? := some group.id
          reports := group.rules.map fun rule =>
            reportOf (after (step dialect) limiter moments).table now subject
              group.id rule.definition } := by
  have reports : group.rules.mapM (fun rule =>
        reported (after (step dialect) limiter moments).table now subject
          group.id rule.definition) = .ok _ :=
    mapM_eq_ok fun rule member =>
      let ⟨_, named⟩ := named_of_groupFor started applies member subject
      reported_of_named named
  rw [query_ofTable, queried, checkSubject, if_neg (by simp [nonblank]), applies]
  simp only [bind, Except.bind, reports]

/--
After any run of a limiter a query is answered, and each report follows the
definition it prints exactly if the quota stored with the hits leaves as much
as that definition does.
-/
theorem reports_follow_iff
    (dialect : Dialect)
    (config : Config)
    (limiter : Limiter)
    (moments : List (Moment Event))
    (now : Int64)
    (subject : String)
    (callers : List String)
    (group : RuleGroup)
    (started : start dialect config = .ok limiter)
    (ordered : InOrder moments)
    (past : ∀ moment ∈ moments, moment.now ≤ now)
    (nonblank : Text.isBlankText subject = false)
    (applies : (after (step dialect) limiter moments).rules.groupFor? callers =
      some group) :
    ∃ reports : List Report,
      (query (Datastore.ofTable now)
          (after (step dialect) limiter moments).rules now subject callers
          (after (step dialect) limiter moments).table).1 =
          .ok { group? := some group.id, reports := reports } ∧
        reports.map Report.definition = group.rules.map Rule.definition ∧
        ∀ report ∈ reports,
          report.Follows (after (step dialect) limiter moments).table now subject
              group.id ↔
            ∀ window,
              liveWindow (after (step dialect) limiter moments).table now subject
                  group.id report.definition.id = some window →
                window.quota.leaves window now =
                  report.definition.quota.leaves window now := by
  have printed : ∀ table definition,
      (reportOf table now subject group.id definition).definition =
        definition := by
    intro table definition
    rw [reportOf]
    cases (liveWindow table now subject group.id definition.id).map
        (Window.viewAt · now) with
    | none => rfl
    | some window => rfl
  refine ⟨_, query_after started now nonblank applies, ?_, ?_⟩
  · rw [List.map_map]
    exact List.map_congr_left fun rule _ => printed _ rule.definition
  · intro report member
    rcases List.mem_map.1 member with ⟨rule, held, rfl⟩
    rcases named_of_groupFor started applies held subject with ⟨key, named⟩
    have counts : Counts (after (step dialect) limiter moments).table now := by
      have empty := (isOf_of_start started).2
      have begins : Counts limiter.table Int64.minValue := empty ▸ .empty
      exact counts_after begins (Run.spans_of_le ordered past)
    rw [printed]
    exact reportBy_follows_iff counts named

/-- The reports after a limit that has been hit is raised from one to three. -/
theorem reports_follow_iff_raised :
    let dialect : Dialect := fun _ => some fun _ => true
    let config (value : UInt32) : Config :=
      { groups := [
          { id := "customers", isDefault := true, callers := []
            limits := [
              { id := "hourly", uri := "*", pattern := ".*", methods := [.any]
                unit := .hour, value := value }] }]
        shared? := none }
    let now : Int64 := 1700000000000
    let moments : List (Moment Event) :=
      [⟨now, .track "alice" [] "/orders" "GET"⟩, ⟨now, .update (config 3)⟩]
    ∃ limiter group reports,
      start dialect (config 1) = .ok limiter ∧
        (after (step dialect) limiter moments).rules.groupFor? [] = some group ∧
        (query (Datastore.ofTable now)
            (after (step dialect) limiter moments).rules now "alice" []
            (after (step dialect) limiter moments).table).1 =
            .ok { group? := some group.id, reports := reports } ∧
        ∀ report ∈ reports,
          report.Follows (after (step dialect) limiter moments).table now "alice"
              group.id ↔
            ∀ window,
              liveWindow (after (step dialect) limiter moments).table now "alice"
                  group.id report.definition.id = some window →
                window.quota.leaves window now =
                  report.definition.quota.leaves window now := by
  intro dialect config now moments
  have evaluated :
      (start dialect (config 1)).toOption.map (fun limiter =>
        ((after (step dialect) limiter moments).rules.groupFor? []).isSome) =
        some true := by
    decide +kernel
  cases started : start dialect (config 1) with
  | error fault =>
      rw [started] at evaluated
      cases evaluated
  | ok limiter =>
      rw [started] at evaluated
      rcases Option.isSome_iff_exists.1 (Option.some.inj evaluated) with
        ⟨group, applies⟩
      rcases reports_follow_iff dialect (config 1) limiter moments now "alice" []
          group started (by decide)
          (by
            intro moment member
            simp only [moments, List.mem_cons, List.not_mem_nil, or_false]
              at member
            rcases member with rfl | rfl
            · exact Int64.le_refl now
            · exact Int64.le_refl now)
          (by decide) applies with
        ⟨reports, told, _, follow⟩
      exact ⟨limiter, group, reports, rfl, applies, told, follow⟩

/-- What a query of a limiter prints of the definitions and of what is left. -/
def printed
    (limiter : Limiter)
    (now : Int64)
    (subject : String)
    (callers : List String) :
    Option (List (Definition × UInt32)) :=
  (query (Datastore.ofTable now) limiter.rules now subject callers
    limiter.table).1.toOption.map fun reports =>
      reports.reports.map fun report => (report.definition, report.remaining)

/-- Whether the next hit of a subject is allowed. -/
def nextIsAllowed
    (limiter : Limiter)
    (now : Int64)
    (subject group : String)
    (definition : Definition) :
    Bool :=
  match (hit (Datastore.ofTable now) now .get subject group definition
    limiter.table).1 with
  | .ok verdict => verdict.allowed
  | .error _ => false

/--
A limit of one hit in an hour is hit and then raised to three: the report prints
three as the value and nothing as left, although the next hit is allowed.
-/
theorem report_after_raise :
    let limit (value : UInt32) : Definition :=
      { id := "hourly", uri := "*", pattern := ".*", methods := [.any]
        unit := .hour, value := value }
    let config (value : UInt32) : Config :=
      { groups := [
          { id := "customers", isDefault := true, callers := []
            limits := [limit value] }]
        shared? := none }
    let now : Int64 := 1700000000000
    let moments : List (Moment Event) :=
      [⟨now, .track "alice" [] "/orders" "GET"⟩, ⟨now, .update (config 3)⟩]
    ∃ limiter, start regexDialect (config 1) = .ok limiter ∧
      ∃ reports report,
        (query (Datastore.ofTable now)
            (after (step regexDialect) limiter moments).rules now "alice" []
            (after (step regexDialect) limiter moments).table).1 =
            .ok reports ∧
          report ∈ reports.reports ∧
          report.definition = limit 3 ∧
          report.remaining = 0 ∧
          ¬ report.Follows (after (step regexDialect) limiter moments).table now
            "alice" "customers" := by
  intro limit config now moments
  have evaluated :
      (start regexDialect (config 1)).toOption.map (fun limiter =>
        let state := after (step regexDialect) limiter moments
        (printed state now "alice" [],
          nextIsAllowed state now "alice" "customers" (limit 3))) =
        some (some [(limit 3, 0)], true) := by
    decide +kernel
  cases started : start regexDialect (config 1) with
  | error fault =>
      rw [started] at evaluated
      cases evaluated
  | ok limiter =>
      rw [started] at evaluated
      rcases Prod.mk.inj (Option.some.inj evaluated) with ⟨prints, allows⟩
      refine ⟨limiter, rfl, ?_⟩
      generalize after (step regexDialect) limiter moments = state at prints allows
      rw [printed] at prints
      cases told : (query (Datastore.ofTable now) state.rules now "alice" []
          state.table).1 with
      | error error =>
          rw [told] at prints
          cases prints
      | ok reports =>
          rw [told] at prints
          have pairs := Option.some.inj prints
          rcases List.map_eq_singleton_iff.1 pairs with ⟨report, only, pair⟩
          rcases Prod.mk.inj pair with ⟨definition, remaining⟩
          refine ⟨reports, report, rfl, ?_, definition, remaining, ?_⟩
          · rw [only]
            exact List.mem_cons_self
          · intro follows
            rw [nextIsAllowed] at allows
            split at allows
            · next verdict answered =>
                have room := (follows.allowed_iff .get).2
                  ⟨verdict, by rw [definition]; exact answered, allows⟩
                rw [remaining] at room
                cases room
            · cases allows

end Limiter

end QuotaRing.Limit
