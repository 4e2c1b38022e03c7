import QuotaRing.Proofs.Limit.Actions
import QuotaRing.Proofs.Store.Forms
import QuotaRing.Proofs.Store.Lookup

/-!
# Counters in one table

What counting a hit and viewing a counter do when the counters are kept in one
table.  A counter without a key leaves the table as it is.
-/

namespace QuotaRing.Limit

open QuotaRing.Store (Key Table readable?)
open QuotaRing.Wire (encode)

/-- The window that a hit leaves and the verdict that it is told. -/
def counted
    (table : Table)
    (now : Int64)
    (method : Method)
    (key : Key)
    (quota : Quota) :
    Window × Verdict :=
  Window.countHit { quota := quota, method := method, stamp := now }
    (readable? (table.get? now key))

variable
    {now : Int64}
    {method : Method}
    {subject group : String}
    {definition : Definition}
    {key : Key}
    (table : Table)

theorem hit_ofTable
    (named : counterKey subject group definition.id = .ok key) :
    hit (Datastore.ofTable now) now method subject group definition table =
      (.ok (counted table now method key definition.quota).2,
        table.put now key
          (encode (counted table now method key definition.quota).1)
          definition.unit.span) := by
  have told : hit (Datastore.ofTable now) now method subject group definition
        table =
      (decoded (encode (counted table now method key definition.quota).2),
        table.put now key
          (encode (counted table now method key definition.quota).1)
          definition.unit.span) := by
    rw [hit, named]
    rfl
  rw [told, decoded, (Store.reads_verdict _).decode]

theorem hit_ofTable_of_error
    {error : Error}
    (unnamed : counterKey subject group definition.id = .error error) :
    hit (Datastore.ofTable now) now method subject group definition table =
      (.error error, table) := by
  rw [hit, unnamed]
  rfl

/-- A hit leaves what is under the keys of other counters. -/
theorem find?_hit_of_ne
    (apart : counterKey subject group definition.id ≠ .ok key) :
    (hit (Datastore.ofTable now) now method subject group definition
        table).2.find? key = table.find? key := by
  cases named : counterKey subject group definition.id with
  | error error => rw [hit_ofTable_of_error table named]
  | ok other =>
      rw [hit_ofTable table named]
      apply Table.find?_put_of_ne
      rintro rfl
      exact apart named

/-- A counter is viewed as its live window stands, without any change. -/
theorem current_ofTable
    (named : counterKey subject group definition.id = .ok key) :
    current (Datastore.ofTable now) now subject group definition table =
      (.ok ((readable? (table.get? now key)).map (Window.viewAt · now)),
        table) := by
  have keyed : (liftM (counterKey subject group definition.id) :
      Action Table Key) table = (.ok key, table) := by
    rw [named]
    rfl
  have found : (Datastore.ofTable now).get key table =
      (.ok (table.get? now key), table) := rfl
  rw [current, Action.bind_of_ok keyed, Action.bind_of_ok found]
  cases table.get? now key with
  | none => rfl
  | some bytes =>
      simp only [readable?, Option.bind_some]
      cases (Wire.decode bytes : Except _ Window) <;> rfl

theorem current_ofTable_of_error
    {error : Error}
    (unnamed : counterKey subject group definition.id = .error error) :
    current (Datastore.ofTable now) now subject group definition table =
      (.error error, table) := by
  rw [current, unnamed]
  rfl

/-- Viewing a counter changes nothing. -/
theorem current_unchanged :
    (current (Datastore.ofTable now) now subject group definition table).2 =
      table := by
  cases named : counterKey subject group definition.id with
  | error error => rw [current_ofTable_of_error table named]
  | ok key => rw [current_ofTable table named]

/-! ## Reports -/

/-- The report on a limit by a window as it stands, or by none. -/
def reportBy (definition : Definition) (now : Int64) : Option Window → Report
  | some window =>
      { definition := definition
        remaining := UInt32.ofNat window.remaining
        nextAvailable := Instant.ofMillis (window.nextAvailable now) }
  | none =>
      { definition := definition
        remaining := definition.value
        nextAvailable := Instant.ofMillis now }

/-- The report on a limit from what is stored for it. -/
def reported
    (table : Table)
    (now : Int64)
    (subject group : String)
    (definition : Definition) :
    Except Error Report :=
  (counterKey subject group definition.id).map fun key =>
    reportBy definition now
      ((readable? (table.get? now key)).map (Window.viewAt · now))

theorem report_ofTable
    (table : Table)
    (now : Int64)
    (subject group : String)
    (definition : Definition) :
    report (Datastore.ofTable now) now subject group definition table =
      (reported table now subject group definition, table) := by
  rw [report, reported]
  cases named : counterKey subject group definition.id with
  | error error =>
      rw [Action.bind_of_error (current_ofTable_of_error table named)]
      rfl
  | ok key =>
      rw [Action.bind_of_ok (current_ofTable table named)]
      simp only [Except.map]
      cases (readable? (table.get? now key)).map (Window.viewAt · now) with
      | none => rfl
      | some window => rfl

/-- The reports of a query from what is stored. -/
def queried
    (table : Table)
    (rules : Rules)
    (now : Int64)
    (subject : String)
    (callers : List String) :
    Except Error Reports := do
  checkSubject subject
  match rules.groupFor? callers with
  | none => .ok { group? := none, reports := [] }
  | some group => do
      let reports ← group.rules.mapM fun rule =>
        reported table now subject group.id rule.definition
      .ok { group? := some group.id, reports := reports }

/-- A query changes nothing. -/
theorem query_ofTable
    (rules : Rules)
    (callers : List String) :
    query (Datastore.ofTable now) rules now subject callers table =
      (queried table rules now subject callers, table) := by
  rw [query, queried]
  cases checkSubject subject with
  | error error => rfl
  | ok _ =>
      cases rules.groupFor? callers with
      | none => rfl
      | some group =>
          have read := Action.mapM_of_reads group.rules fun rule =>
            report_ofTable table now subject group.id rule.definition
          show (group.rules.mapM (fun rule =>
                report (Datastore.ofTable now) now subject group.id
                  rule.definition) >>=
              fun reports => (pure { group? := some group.id, reports } :
                Action Table Reports)) table =
            (group.rules.mapM (fun rule =>
                reported table now subject group.id rule.definition) >>=
              fun reports => .ok { group? := some group.id, reports }, table)
          cases told : group.rules.mapM (fun rule =>
              reported table now subject group.id rule.definition) with
          | error error =>
              rw [told] at read
              rw [Action.bind_of_error read]
              rfl
          | ok reports =>
              rw [told] at read
              rw [Action.bind_of_ok read]
              rfl

end QuotaRing.Limit
