import QuotaRing.Proofs.Limit.Accepted
import QuotaRing.Proofs.Limit.Charging
import QuotaRing.Proofs.Run

/-!
# A limiter over one table

A limiter decides on requests by the rules in force and keeps its counters in
one table.  Requests, queries, sweeps and new configurations reach it one after
another at readings of one clock.  The rules in force are always those of its
first configuration or of one it has accepted.
-/

namespace QuotaRing.Limit

open QuotaRing.Run (InOrder after history)
open QuotaRing.Store (Key Table)

/-- The rules in force and the table of the counters. -/
structure Limiter where
  rules : Rules
  table : Table

namespace Limiter

/-- The limiter of a configuration, without any hits. -/
def start (dialect : Dialect) (config : Config) : Except ConfigFault Limiter :=
  (Rules.compile dialect config 0).map fun rules =>
    { rules := rules, table := .empty }

/-- What can happen to a limiter. -/
inductive Event where
  | track (subject : String) (callers : List String) (uri method : String)
  | query (subject : String) (callers : List String)
  | sweep
  | update (config : Config)

/-- How it is answered. -/
inductive Answer where
  | track (result : Except Error Decision)
  | query (result : Except Error Reports)
  | sweep (count : Nat)
  | update (result : Except ConfigFault UInt64)

variable (dialect : Dialect)

/-- What happens to a limiter at `now`. -/
def step (now : Int64) : Event → StateM Limiter Answer
  | .track subject callers uri method => fun limiter =>
      (Limit.track (Datastore.ofTable now) limiter.rules now subject callers uri
        method limiter.table).map .track fun table => { limiter with table }
  | .query subject callers => fun limiter =>
      (Limit.query (Datastore.ofTable now) limiter.rules now subject callers
        limiter.table).map .query fun table => { limiter with table }
  | .sweep => fun limiter =>
      (limiter.table.sweep now).map .sweep fun table => { limiter with table }
  | .update config => fun limiter =>
      match limiter.rules.update dialect config with
      | .ok rules => (.update (.ok rules.version), { limiter with rules })
      | .error fault => (.update (.error fault), limiter)

/-- The configuration that an event offers. -/
def Event.offered? : Event → Option Config
  | .update config => some config
  | _ => none

/-- Whether a configuration is accepted. -/
def accepts (config : Config) : Bool :=
  (Rules.compile dialect config 0).isOk

/-- The first configuration and those that are accepted in a run. -/
def accepted (config : Config) (moments : List (Moment Event)) : List Config :=
  config :: (moments.filterMap (·.event.offered?)).filter (accepts dialect)

variable
    {dialect : Dialect}
    {config : Config}

theorem accepts_of_compile
    {version : UInt64}
    {rules : Rules}
    (compiled : Rules.compile dialect config version = .ok rules) :
    accepts dialect config = true := by
  rw [accepts]
  unfold Rules.compile at compiled ⊢
  rcases Checks.bind_eq_ok compiled with ⟨_, validated, compiled⟩
  rcases Checks.bind_eq_ok compiled with ⟨groups, groupsMade, compiled⟩
  rcases Checks.bind_eq_ok compiled with ⟨shared, sharedMade, _⟩
  rw [validated, groupsMade, sharedMade]
  rfl

theorem isOf_of_start
    {limiter : Limiter}
    (started : start dialect config = .ok limiter) :
    limiter.rules.IsOf config ∧ limiter.table = .empty := by
  rw [start] at started
  cases compiled : Rules.compile dialect config 0 with
  | error fault =>
      rw [compiled] at started
      cases started
  | ok rules =>
      rw [compiled] at started
      cases started
      exact ⟨Rules.isOf_of_compile compiled, rfl⟩

/--
The rules in force at every event of a run, and after it, are those of an
accepted configuration.
-/
theorem isOf_accepted
    {limiter : Limiter}
    (started : start dialect config = .ok limiter)
    (moments : List (Moment Event)) :
    (∃ inForce ∈ accepted dialect config moments,
        (after (step dialect) limiter moments).rules.IsOf inForce) ∧
      ∀ record ∈ history (step dialect) limiter moments,
        ∃ inForce ∈ accepted dialect config moments,
          record.before.rules.IsOf inForce := by
  refine Run.keeps (step dialect)
    (fun limiter => ∃ inForce ∈ accepted dialect config moments,
      limiter.rules.IsOf inForce) ?_ limiter
    ⟨config, List.mem_cons_self, (isOf_of_start started).1⟩
  rintro ⟨now, event⟩ member state isOf
  cases event with
  | track subject callers uri method => exact isOf
  | query subject callers => exact isOf
  | sweep => exact isOf
  | update offered =>
      simp only [step]
      cases compiled : state.rules.update dialect offered with
      | error fault => exact isOf
      | ok rules =>
          refine ⟨offered, ?_, Rules.isOf_of_compile compiled⟩
          apply List.mem_cons_of_mem
          exact List.mem_filter.2
            ⟨List.mem_filterMap.2 ⟨_, member, rfl⟩, accepts_of_compile compiled⟩

end Limiter

end QuotaRing.Limit
