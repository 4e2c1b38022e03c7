import QuotaRing.Proofs.Store.History

/-!
# Sweeps that no one sees

Two tables in which the same entries live cannot be told apart by any request
but a sweep, which tells how many others there were.  Every request leaves them
so, and a sweep of one of them does too.  Main statement: in a run in which the
clock does not go back, all other requests are answered as if there had been no
sweeps; and a sweep takes out exactly the entries that no longer live.
-/

namespace QuotaRing.Store

open QuotaRing.Run (Hides InOrder seen)

deriving instance DecidableEq for Reply, Response

def Request.isSweep : Request → Bool
  | .direct .sweep => true
  | _ => false

/-- Whether the same entries live in two tables at a reading. -/
def LiveAlike (now : Int64) (left right : Table) : Prop :=
  ∀ key, (left.find? key).filter (·.isLive now) =
    (right.find? key).filter (·.isLive now)

variable
    {now later : Int64}
    {left right : Table}

namespace LiveAlike

theorem get?_eq (alike : LiveAlike now left right) (key : Key) :
    left.get? now key = right.get? now key := by
  rw [Table.get?, Table.get?, alike key]

theorem mono
    (alike : LiveAlike now left right)
    (ordered : now ≤ later) :
    LiveAlike later left right := by
  intro key
  rw [← filter_isLive_of_later (left.find? key) ordered, alike key,
    filter_isLive_of_later _ ordered]

/-- A sweep of one table alone. -/
theorem sweep_left (alike : LiveAlike now left right) :
    LiveAlike now (left.sweep now).2 right := by
  intro key
  rw [Table.find?_sweep, filter_isLive_of_later _ (Int64.le_refl now), alike key]

theorem put
    (alike : LiveAlike now left right)
    (key : Key)
    (value : List UInt8)
    (lifetime : Span) :
    LiveAlike now (left.put now key value lifetime)
      (right.put now key value lifetime) := by
  intro other
  rw [Table.find?_put, Table.find?_put]
  split
  · rfl
  · exact alike other

theorem erase (alike : LiveAlike now left right) (key : Key) :
    LiveAlike now (left.erase key) (right.erase key) := by
  intro other
  rw [Table.find?_erase, Table.find?_erase]
  split
  · rfl
  · exact alike other

/-- Whatever is done with both tables, the same entries live in them afterwards. -/
theorem use (alike : LiveAlike now left right) (use : Use) :
    LiveAlike now (left.use now use).2 (right.use now use).2 := by
  cases use with
  | get key => exact alike
  | put key value lifetime => exact alike.put key value lifetime
  | patch key change lifetime =>
      have patched := alike.put key (change.apply (left.get? now key)).value lifetime
      have same : right.put now key (change.apply (left.get? now key)).value
          lifetime = (right.patch now key change lifetime).2 := by
        rw [alike.get?_eq key]
        rfl
      rw [same] at patched
      exact patched
  | remove key => exact alike.erase key
  | sweep =>
      intro key
      have swept := alike.sweep_left key
      rw [← filter_isLive_of_later (right.find? key) (Int64.le_refl now),
        ← Table.find?_sweep right] at swept
      exact swept

/-- No request but a sweep is answered differently by the two tables. -/
theorem serve_fst
    (alike : LiveAlike now left right)
    {request : Request}
    (noSweep : request.isSweep = false) :
    (Table.serve now request left).1 = (Table.serve now request right).1 := by
  have same := alike.get?_eq
  cases request with
  | direct use =>
      cases use with
      | get key => simp only [Table.serve, Table.use, Prod.map_fst, same key]
      | put key value lifetime => rfl
      | patch key change lifetime =>
          simp only [Table.serve, Table.use, Table.patch, Prod.map_fst, same key]
      | remove key =>
          simp only [Table.serve, Table.use, Table.remove, Prod.map_fst, same key]
      | sweep => cases noSweep
  | command command =>
      cases command with
      | get key => simp only [Table.serve, Peer.Command.run, Prod.map_fst, same key]
      | put key value lifetime => rfl
      | patch key change lifetime =>
          simp only [Table.serve, Peer.Command.run, Table.patch, Prod.map_fst,
            same key]
      | delete key => rfl

end LiveAlike

/-! ## What a sweep takes out -/

/-- The number of entries that live at a reading. -/
def Table.countLive (table : Table) (now : Int64) : Nat :=
  table.entries.countP fun entry => entry.2.isLive now

/-- The number of entries that have ceased to live by a reading. -/
def Table.countExpired (table : Table) (now : Int64) : Nat :=
  table.entries.countP fun entry => entry.2.expiresAt ≤ now

theorem Table.size_eq_countLive_add_countExpired (table : Table) (now : Int64) :
    table.size = table.countLive now + table.countExpired now := by
  rw [size, List.length_eq_countP_add_countP fun entry => entry.2.isLive now,
    countLive, countExpired]
  congr 1
  apply List.countP_congr
  intro entry _
  simp only [Entry.isLive, decide_eq_true_eq, Int64.not_lt]

theorem Table.size_sweep (table : Table) (now : Int64) :
    (table.sweep now).2.size = table.countLive now :=
  List.countP_eq_length_filter.symm

/-- A sweep takes out the entries that no longer live and leaves all others. -/
structure Table.Sweeps (table swept : Table) (now : Int64) (count : Nat) : Prop where
  count_eq : count = table.countExpired now
  find?_iff : ∀ key entry, swept.find? key = some entry ↔
    table.find? key = some entry ∧ now < entry.expiresAt
  size_eq : swept.size = table.countLive now

theorem Table.sweeps_sweep (table : Table) (now : Int64) :
    table.Sweeps (table.sweep now).2 now (table.sweep now).1 where
  count_eq := by
    have told : (table.sweep now).1 = table.size - (table.sweep now).2.size := rfl
    rw [told, size_sweep, table.size_eq_countLive_add_countExpired now,
      Nat.add_sub_cancel_left]
  find?_iff key entry := by
    rw [find?_sweep, Option.filter_eq_some_iff, Entry.isLive, decide_eq_true_iff]
  size_eq := table.size_sweep now

/-! ## Whole runs -/

/--
In every run in order, all requests but the sweeps are answered as they are
without the sweeps, wherever these are; and every sweep tells the number of the
entries that have ceased to live and leaves exactly the others.
-/
theorem sweeps_go_unseen
    (table : Table)
    (moments : List (Moment Request))
    (ordered : InOrder moments) :
    seen Table.serve (!·.isSweep) table moments =
        seen Table.serve (!·.isSweep) table
          (moments.filter (!·.event.isSweep)) ∧
      ∀ (now : Int64) (stored : Table), ∃ (count : Nat) (swept : Table),
        Table.serve now (.direct .sweep) stored =
            (.reply (.swept count), swept) ∧
          stored.Sweeps swept now count := by
  constructor
  · have hides : Hides Table.serve (!·.isSweep) (!·.isSweep) LiveAlike moments :=
      { seesKept := fun _ sees => sees
        waits := ordered.imp fun before _ _ alike => alike.mono before
        leftOut := by
          intro moment _ swept whole part alike
          rw [Table.serve_snd]
          rcases moment with ⟨now, event⟩
          cases event with
          | command command => cases swept
          | direct use =>
              cases use with
              | sweep => exact alike.sweep_left
              | _ => cases swept
        kept := by
          intro moment _ _ whole part alike
          rw [Table.serve_snd, Table.serve_snd]
          refine ⟨alike.use moment.event.made, fun noSweep => ?_⟩
          rw [Bool.not_eq_true'] at noSweep
          exact alike.serve_fst noSweep }
    exact hides.seen_filter fun _ _ _ => rfl
  · intro now stored
    exact ⟨_, _, rfl, stored.sweeps_sweep now⟩

/-- A patch and a removal of a key whose entry has expired, with a sweep between. -/
theorem sweeps_go_unseen_expired :
    let key : Key := ⟨"visits", by decide⟩
    let moments : List (Moment Request) :=
      [⟨1000000, .direct (.patch key (.increment 5) (.ofSeconds 1))⟩,
        ⟨1001000, .direct .sweep⟩,
        ⟨1001000, .command (.patch key (.increment 2) (.ofSeconds 1))⟩,
        ⟨1002000, .direct .sweep⟩,
        ⟨1002000, .direct (.remove key)⟩]
    InOrder moments ∧
      (seen Table.serve (!·.isSweep) .empty moments).map Prod.snd =
        [.reply (.patched [10]), .outcome (.patched [4]),
          .reply (.removed false)] := by
  intro key moments
  have ordered : InOrder moments := by decide
  refine ⟨ordered, ?_⟩
  rw [(sweeps_go_unseen .empty moments ordered).1]
  decide +kernel

end QuotaRing.Store
