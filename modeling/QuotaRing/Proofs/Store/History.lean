import Mathlib.Data.List.Induction
import QuotaRing.Peer.Command
import QuotaRing.Proofs.Store.Uses

/-!
# A table and its history

A table is used by its owner and by the commands that it carries out for peers.
Entries that have ceased to live stay in it until they are swept, removed or
written over, and every reader has to look past them.  Main statement: in every
run what lives under a key is what was last written there, not removed since,
for as long as the span it was written with lasts; and that is what reads,
patches and removals go by.
-/

namespace QuotaRing.Store

open QuotaRing.Peer (Command Outcome)
open QuotaRing.Run (after after_append)
open QuotaRing.Saturating (highest)

/-- What reaches a table: a use of it or a command that is carried out on it. -/
inductive Request where
  | direct (use : Use)
  | command (command : Command)

/-- How it is answered. -/
inductive Response where
  | reply (reply : Reply)
  | outcome (outcome : Outcome)

/-- What happens to a table whose clock reads `now`. -/
def Table.serve (now : Int64) : Request → StateM Table Response
  | .direct use => fun table => (table.use now use).map .reply id
  | .command command => fun table => (command.run now table).map .outcome id

namespace Request

/-- The use that a request makes of a table. -/
def made : Request → Use
  | .direct use => use
  | .command (.get key) => .get key
  | .command (.put key value lifetime) => .put key value lifetime
  | .command (.patch key change lifetime) => .patch key change lifetime
  | .command (.delete key) => .remove key

end Request

namespace Use

/-- The key that a use is about; a sweep is about none. -/
def key? : Use → Option Key
  | .get key => some key
  | .put key _ _ => some key
  | .patch key _ _ => some key
  | .remove key => some key
  | .sweep => none

/--
The value that a use writes under a key and the span for which it does, if
`live?` is what lives there.
-/
def writing?
    (use : Use)
    (key : Key)
    (live? : Option (List UInt8)) :
    Option (List UInt8 × Span) :=
  match use with
  | .put written value lifetime =>
      if written = key then some (value, lifetime) else none
  | .patch written change lifetime =>
      if written = key then some ((change.apply live?).value, lifetime) else none
  | _ => none

end Use

/--
Whether a run of the empty table has last written a value under a key at some
reading and for some span, and has not removed the key since.
-/
def LastWrote
    (moments : List (Moment Request))
    (key : Key)
    (value : List UInt8)
    (written : Int64)
    (lifetime : Span) :
    Prop :=
  ∃ earlier request later,
    moments = earlier ++ ⟨written, request⟩ :: later ∧
      request.made.writing? key
          ((after Table.serve .empty earlier).get? written key) =
        some (value, lifetime) ∧
      ∀ moment ∈ later, moment.event.made.written? ≠ some key

/-- Whether what is written at a reading and for a span is to be seen at `now`. -/
def Lasts (written : Int64) (lifetime : Span) (now : Int64) : Prop :=
  now.toInt <
    min (written.toInt + min (lifetime.exactMillis : Int) highest) highest

instance (written : Int64) (lifetime : Span) (now : Int64) :
    Decidable (Lasts written lifetime now) :=
  inferInstanceAs (Decidable (_ < _))

/-- What is told of a key at `now`, if `live?` is what lives there. -/
structure Table.Tells
    (table : Table)
    (now : Int64)
    (key : Key)
    (live? : Option (List UInt8)) :
    Prop where
  read :
    Table.serve now (.direct (.get key)) table = (.reply (.value live?), table)
  fetched :
    Table.serve now (.command (.get key)) table =
      (.outcome (.value live?), table)
  patched : ∀ change lifetime,
    Table.serve now (.direct (.patch key change lifetime)) table =
      (.reply (.patched (change.apply live?).result),
        table.put now key (change.apply live?).value lifetime)
  altered : ∀ change lifetime,
    Table.serve now (.command (.patch key change lifetime)) table =
      (.outcome (.patched (change.apply live?).result),
        table.put now key (change.apply live?).value lifetime)
  removed :
    (Table.serve now (.direct (.remove key)) table).1 =
      .reply (.removed live?.isSome)

variable
    {table : Table}
    {key : Key}
    {now later : Int64}

/-! ## One request -/

/-- A request changes a table as the use does that it makes of it. -/
theorem Table.serve_snd (now : Int64) (request : Request) (table : Table) :
    (Table.serve now request table).2 = (table.use now request.made).2 := by
  cases request with
  | direct use => rfl
  | command command => cases command <;> rfl

theorem Table.tells_get? (table : Table) (now : Int64) (key : Key) :
    table.Tells now key (table.get? now key) where
  read := rfl
  fetched := rfl
  patched _ _ := rfl
  altered _ _ := rfl
  removed := rfl

theorem Table.find?_use_of_writing
    {use : Use}
    {value : List UInt8}
    {lifetime : Span}
    (writes : use.writing? key (table.get? now key) = some (value, lifetime)) :
    (table.use now use).2.find? key =
      some (Entry.written value now lifetime) := by
  cases use with
  | put written own span =>
      rw [Use.writing?, Option.ite_none_right_eq_some] at writes
      rcases writes with ⟨rfl, ⟨⟩⟩
      exact table.find?_put_self now written value lifetime
  | patch written change span =>
      rw [Use.writing?, Option.ite_none_right_eq_some] at writes
      rcases writes with ⟨rfl, ⟨⟩⟩
      exact table.find?_put_self now written _ lifetime
  | get read => cases writes
  | remove removed => cases writes
  | sweep => cases writes

/-- A use that may write under a key, and does not, removes it. -/
theorem Table.find?_use_of_removing
    {use : Use}
    (touched : use.written? = some key)
    (unwritten : use.writing? key (table.get? now key) = none) :
    (table.use now use).2.find? key = none := by
  cases use with
  | put written own span =>
      cases touched
      rw [Use.writing?, if_pos rfl] at unwritten
      cases unwritten
  | patch written change span =>
      cases touched
      rw [Use.writing?, if_pos rfl] at unwritten
      cases unwritten
  | remove removed =>
      cases touched
      exact table.find?_erase_self key
  | get read => cases touched
  | sweep => cases touched

/-- A use that is about one key leaves the entries under all others. -/
theorem Table.find?_use_of_key
    {use : Use}
    {other : Key}
    (about : use.key? = some key)
    (different : other ≠ key)
    (table : Table) :
    (table.use now use).2.find? other = table.find? other := by
  cases use with
  | get read => rfl
  | put written value lifetime =>
      cases about
      exact table.find?_put_of_ne now value lifetime different
  | patch written change lifetime =>
      cases about
      exact table.find?_put_of_ne now _ lifetime different
  | remove removed =>
      cases about
      exact table.find?_erase_of_ne different
  | sweep => cases about

/-- An entry that lives has lived before. -/
theorem Entry.isLive_of_later
    {entry : Entry}
    (ordered : now ≤ later)
    (live : entry.isLive later = true) :
    entry.isLive now = true := by
  rw [Entry.isLive, decide_eq_true_iff] at live ⊢
  exact Int64.lt_of_le_of_lt ordered live

/-- What a sweep leaves of an entry makes no difference to a later reader. -/
theorem filter_isLive_of_later (stored? : Option Entry) (ordered : now ≤ later) :
    (stored?.filter (·.isLive now)).filter (·.isLive later) =
      stored?.filter (·.isLive later) := by
  apply Option.ext
  intro entry
  simp only [Option.filter_eq_some_iff]
  constructor
  · rintro ⟨⟨found, _⟩, live⟩
    exact ⟨found, live⟩
  · rintro ⟨found, live⟩
    exact ⟨⟨found, Entry.isLive_of_later ordered live⟩, live⟩

/-- What lives under a key is not changed by a use that does not write there. -/
theorem Table.get?_use
    {use : Use}
    (elsewhere : use.written? ≠ some key)
    (ordered : now ≤ later)
    (table : Table) :
    (table.use now use).2.get? later key = table.get? later key := by
  rcases table.find?_use now elsewhere with same | swept
  · exact get?_congr same later
  · rw [get?, swept, filter_isLive_of_later _ ordered, get?]

/-- What is written ceases to live after its span, within the range of the clock. -/
theorem Entry.toInt_expiresAt_written
    (value : List UInt8)
    (written : Int64)
    (lifetime : Span) :
    (Entry.written value written lifetime).expiresAt.toInt =
      min (written.toInt + min (lifetime.exactMillis : Int) highest) highest := by
  have least := written.le_toInt
  rw [Entry.written, Saturating.toInt_add, Span.millis, Saturating.toInt_saturate]
  simp only [Saturating.lowest, Saturating.highest]
  omega

theorem Entry.isLive_written_iff
    (value : List UInt8)
    (written : Int64)
    (lifetime : Span)
    (now : Int64) :
    (Entry.written value written lifetime).isLive now = true ↔
      Lasts written lifetime now := by
  rw [Entry.isLive, decide_eq_true_iff, Int64.lt_iff_toInt_lt,
    Entry.toInt_expiresAt_written, Lasts]

theorem Table.get?_eq_some_iff_of_written
    {value : List UInt8}
    {written : Int64}
    {lifetime : Span}
    (found : table.find? key = some (Entry.written value written lifetime))
    (told : List UInt8) :
    table.get? now key = some told ↔
      value = told ∧ Lasts written lifetime now := by
  rw [get?, found, Option.map_eq_some_iff]
  simp only [Option.filter_eq_some_iff, Option.some.injEq]
  constructor
  · rintro ⟨entry, ⟨rfl, live⟩, rfl⟩
    exact ⟨rfl, (Entry.isLive_written_iff _ _ _ _).1 live⟩
  · rintro ⟨rfl, lasts⟩
    exact ⟨_, ⟨rfl, (Entry.isLive_written_iff _ _ _ _).2 lasts⟩, rfl⟩

/-! ## A whole run -/

/-- What lives under a key is not changed by a run that does not write there. -/
theorem Table.get?_after
    {moments : List (Moment Request)}
    (elsewhere : ∀ moment ∈ moments, moment.event.made.written? ≠ some key)
    (past : ∀ moment ∈ moments, moment.now ≤ now)
    (table : Table) :
    (after Table.serve table moments).get? now key = table.get? now key := by
  induction moments generalizing table with
  | nil => rfl
  | cons moment rest ih =>
      have others := ih
        (fun other member => elsewhere other (List.mem_cons_of_mem moment member))
        (fun other member => past other (List.mem_cons_of_mem moment member))
        (Table.serve moment.now moment.event table).2
      rw [Table.serve_snd,
        table.get?_use (elsewhere moment List.mem_cons_self)
          (past moment List.mem_cons_self)] at others
      rw [after, Table.serve_snd]
      exact others

/-- What lives under a key is what was last written there, while it lasts. -/
theorem Table.get?_after_eq_some_iff
    {moments : List (Moment Request)}
    (past : ∀ moment ∈ moments, moment.now ≤ now)
    (value : List UInt8) :
    (after Table.serve .empty moments).get? now key = some value ↔
      ∃ written lifetime,
        LastWrote moments key value written lifetime ∧
          Lasts written lifetime now := by
  constructor
  · intro lives
    induction moments using List.reverseRecOn with
    | nil => cases lives
    | append_singleton moments moment ih =>
        rw [after_append, after, after, Table.serve_snd] at lives
        by_cases touched : moment.event.made.written? = some key
        · cases writes : moment.event.made.writing? key
              ((after Table.serve .empty moments).get? moment.now key) with
          | none =>
              rw [get?, find?_use_of_removing touched writes] at lives
              cases lives
          | some writing =>
              rcases (get?_eq_some_iff_of_written
                (find?_use_of_writing writes) value).1 lives with ⟨rfl, lasts⟩
              exact ⟨moment.now, writing.2,
                ⟨moments, moment.event, [], rfl, writes, by simp⟩, lasts⟩
        · rw [get?_use touched (past moment (by simp))] at lives
          rcases ih (fun other member =>
              past other (List.mem_append_left _ member)) lives with
            ⟨written, lifetime, ⟨earlier, request, rest, rfl, writes, untouched⟩,
              lasts⟩
          refine ⟨written, lifetime,
            ⟨earlier, request, rest ++ [moment], by simp, writes, ?_⟩, lasts⟩
          intro other member
          rcases List.mem_append.1 member with old | new
          · exact untouched other old
          · rw [List.mem_singleton.1 new]
            exact touched
  · rintro ⟨written, lifetime, ⟨earlier, request, rest, rfl, writes, untouched⟩,
      lasts⟩
    rw [after_append, after, get?_after untouched fun moment member =>
      past moment (List.mem_append_right _ (List.mem_cons_of_mem _ member)),
      Table.serve_snd]
    exact (get?_eq_some_iff_of_written (find?_use_of_writing writes) value).2
      ⟨rfl, lasts⟩

/--
In every run of the empty table, what is told of a key is what was last written
there and not removed since, as long as it lasts, and nothing otherwise; and a
request that is about one key leaves the entries under all others.
-/
theorem tells_what_was_last_written
    (moments : List (Moment Request))
    (now : Int64)
    (key : Key)
    (past : ∀ moment ∈ moments, moment.now ≤ now) :
    (∃ live? : Option (List UInt8),
      (after Table.serve .empty moments).Tells now key live? ∧
        ∀ value, live? = some value ↔
          ∃ written lifetime,
            LastWrote moments key value written lifetime ∧
              Lasts written lifetime now) ∧
      ∀ (request : Request) (other : Key),
        request.made.key? = some key → other ≠ key →
          (Table.serve now request
              (after Table.serve .empty moments)).2.find? other =
            (after Table.serve .empty moments).find? other := by
  refine ⟨⟨_, Table.tells_get? _ now key, Table.get?_after_eq_some_iff past⟩, ?_⟩
  intro request other about different
  rw [Table.serve_snd]
  exact Table.find?_use_of_key about different _

/-- A value that was written for a minute is told in its last millisecond. -/
theorem tells_what_was_last_written_minute :
    let key : Key := ⟨"visits", by decide⟩
    let other : Key := ⟨"visitors", by decide⟩
    let moments : List (Moment Request) :=
      [⟨1000000, .direct (.put key [7] (.ofSeconds 60))⟩,
        ⟨1059999, .direct .sweep⟩]
    (∀ moment ∈ moments, moment.now ≤ 1059999) ∧
      (after Table.serve .empty moments).Tells 1059999 key (some [7]) ∧
      (Table.serve 1059999 (.command (.delete other))
          (after Table.serve .empty moments)).2.find? key =
        (after Table.serve .empty moments).find? key := by
  intro key other moments
  have past : ∀ moment ∈ moments, moment.now ≤ 1059999 := by
    intro moment member
    simp only [moments, List.mem_cons, List.not_mem_nil, or_false] at member
    rcases member with rfl | rfl
    · decide
    · decide
  have written : LastWrote moments key [7] 1000000 (.ofSeconds 60) :=
    ⟨[], .direct (.put key [7] (.ofSeconds 60)), [⟨1059999, .direct .sweep⟩],
      rfl, by simp [Request.made, Use.writing?],
      by simp [Request.made, Use.written?]⟩
  rcases tells_what_was_last_written moments 1059999 key past with
    ⟨⟨live?, tells, same⟩, _⟩
  have lives := (same [7]).2 ⟨1000000, .ofSeconds 60, written, by decide⟩
  refine ⟨past, lives ▸ tells, ?_⟩
  exact (tells_what_was_last_written moments 1059999 other past).2
    (.command (.delete other)) key rfl (by decide)

end QuotaRing.Store
