import QuotaRing.Peer.Site
import QuotaRing.Proofs.Limit.Actions
import QuotaRing.Proofs.Store.Lookup

/-!
# Operations on a store

A command asks a store for one operation, and the outcome is what the store
reports.  The store of one node reports what the command comes to on its table,
and so does the store of a cluster once the command has been carried out
somewhere.  A command comes to the same on tables that have the same under its
key, and touches nothing under the others.
-/

namespace QuotaRing.Peer

open QuotaRing.Limit (Action Datastore)
open QuotaRing.Store (Key Table)

namespace Command

variable
    {σ : Type}
    {state next : σ}

/-- Ask a store for the operation of a command. -/
def operate (command : Command) (store : Datastore σ) : Action σ Outcome :=
  match command with
  | .get key => do
      let value? ← store.get key
      pure (.value value?)
  | .put key value lifetime => do
      store.put key value lifetime
      pure .stored
  | .patch key change lifetime => do
      let result ← store.patch key change lifetime
      pure (.patched result)
  | .delete key => do
      store.remove key
      pure .removed

/-- The store of one node never fails. -/
theorem operate_ofTable
    (command : Command)
    (now : Int64)
    (table : Table) :
    command.operate (Datastore.ofTable now) table =
      (.ok (command.run now table).1, (command.run now table).2) := by
  cases command with
  | get key => rfl
  | put key value lifetime => rfl
  | patch key change lifetime => rfl
  | delete key => rfl

/-- The store of a cluster reports what a dispatched command comes to. -/
theorem operate_of_dispatch
    {network : Network σ}
    {now reading : Int64}
    {trace : String}
    {command : Command}
    {table : Table}
    {site site' : Site}
    (dispatched : Site.dispatch network now trace command (site, state) =
      (.ok (command.run reading table).1, (site', next))) :
    command.operate (Site.datastore network now trace) (site, state) =
      (.ok (command.run reading table).1, (site', next)) := by
  cases command with
  | get key =>
      have read : Site.get network now trace key (site, state) =
          (.ok (table.get? reading key), (site', next)) := by
        rw [Site.get, dispatched]
        rfl
      exact Action.bind_of_ok read _
  | put key value lifetime =>
      have stored : (Site.datastore network now trace).put key value lifetime
          (site, state) = (.ok (), (site', next)) :=
        Action.bind_of_ok dispatched _
      exact Action.bind_of_ok stored _
  | patch key change lifetime =>
      have patched : (Site.datastore network now trace).patch key change lifetime
          (site, state) =
          (.ok (table.patch reading key change lifetime).1, (site', next)) :=
        Action.bind_of_ok dispatched _
      exact Action.bind_of_ok patched _
  | delete key =>
      have removed : (Site.datastore network now trace).remove key
          (site, state) = (.ok (), (site', next)) :=
        Action.bind_of_ok dispatched _
      exact Action.bind_of_ok removed _

/-- Whether a command may change what is stored. -/
def writes : Command → Bool
  | .get _ => false
  | _ => true

section Failed

variable
    {network : Network σ}
    {now : Int64}
    {trace : String}
    {command : Command}
    {error : Error}
    {site site' : Site}

/-- An error is reported as it is, unless it is that nobody could be read. -/
theorem operate_of_error
    (certain : command.writes = true ∨ error.isTransport = false)
    (failed : Site.dispatch network now trace command (site, state) =
      (.error error, (site', next))) :
    command.operate (Site.datastore network now trace) (site, state) =
      (.error error, (site', next)) := by
  cases command with
  | get key =>
      have reached := certain.resolve_left Bool.false_ne_true
      have read : Site.get network now trace key (site, state) =
          (.error error, (site', next)) := by
        rw [Site.get, failed]
        cases error <;> first | rfl | cases reached
      exact Action.bind_of_error read _
  | put key value lifetime =>
      exact Action.bind_of_error (Action.bind_of_error failed _) _
  | patch key change lifetime =>
      exact Action.bind_of_error (Action.bind_of_error failed _) _
  | delete key =>
      exact Action.bind_of_error (Action.bind_of_error failed _) _

/-- A read of owners of whom nobody could be reached finds nothing. -/
theorem operate_of_unreached
    {key : Key}
    (unreached : error.isTransport = true)
    (failed : Site.dispatch network now trace (.get key) (site, state) =
      (.error error, (site', next))) :
    (Command.get key).operate (Site.datastore network now trace) (site, state) =
      (.ok (.value none), (site', next)) := by
  have read : Site.get network now trace key (site, state) =
      (.ok none, (site', next)) := by
    rw [Site.get, failed]
    cases error <;> first | rfl | cases unreached
  exact Action.bind_of_ok read _

end Failed

variable
    (command : Command)
    (now : Int64)
    {left right : Table}

/-- What a command comes to depends on what is under its key alone. -/
theorem run_congr (same : left.find? command.key = right.find? command.key) :
    (command.run now left).1 = (command.run now right).1 ∧
      (command.run now left).2.find? command.key =
        (command.run now right).2.find? command.key := by
  have lives : left.get? now command.key = right.get? now command.key :=
    Table.get?_congr same now
  cases command with
  | get key => exact ⟨congrArg Outcome.value lives, same⟩
  | put key value lifetime =>
      constructor
      · rfl
      · simp only [run, Command.key, Table.find?_put_self]
  | patch key change lifetime =>
      simp only [Command.key] at lives
      constructor
      · simp only [run, Table.patch, lives]
      · simp only [run, Command.key, Table.patch, Table.find?_put_self, lives]
  | delete key =>
      constructor
      · rfl
      · simp only [run, Command.key, Table.remove, Table.find?_erase_self]

/-- A command leaves alone what is under other keys. -/
theorem find?_run_of_ne
    (table : Table)
    {other : Key}
    (different : other ≠ command.key) :
    (command.run now table).2.find? other = table.find? other := by
  cases command with
  | get key => rfl
  | put key value lifetime => exact table.find?_put_of_ne now _ _ different
  | patch key change lifetime => exact table.find?_put_of_ne now _ _ different
  | delete key => exact table.find?_erase_of_ne different

end Command

end QuotaRing.Peer
