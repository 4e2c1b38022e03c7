import Mathlib.Algebra.BigOperators.Group.List.Basic
import Mathlib.Algebra.Ring.Int.Defs
import QuotaRing.Proofs.Store.Forms
import QuotaRing.Proofs.Store.History

/-!
# Counters that lose nothing

A counter is kept as bytes under a key and raised by patches, while other keys are
used and the table is swept.  Main statement: as long as no increment has expired
when the next one arrives, each tells the sum of all increments so far, stopped at
the ends of the range, and readers find what it told; and if the range is never
left, in whatever order the increments come, the last sum is the exact one.
-/

namespace QuotaRing.Store

open QuotaRing.Run (after)

/-! ## Increments in a run -/

namespace Request

/-- What a request adds to the counter under a key, and for how long. -/
def increment? (key : Key) (request : Request) : Option (Int64 × Span) :=
  match request.made with
  | .patch written (.increment delta) lifetime =>
      if written = key then some (delta, lifetime) else none
  | _ => none

def isIncrement (key : Key) (request : Request) : Bool :=
  (request.increment? key).isSome

/-- Whether a request writes nothing but increments under a key. -/
def Counts (key : Key) (request : Request) : Prop :=
  request.isIncrement key = true ∨ request.made.written? ≠ some key

instance (key : Key) (request : Request) : Decidable (request.Counts key) :=
  inferInstanceAs (Decidable (_ ∨ _))

end Request

/-- What is added to the counter under a key in a run, in order. -/
def deltas (key : Key) (moments : List (Moment Request)) : List Int64 :=
  moments.filterMap fun moment => (moment.event.increment? key).map Prod.fst

/--
Whether what is written at a reading lasts until the next increment of a key
arrives, if one does.
-/
def LastsToNext
    (key : Key)
    (written : Int64)
    (lifetime : Span)
    (later : List (Moment Request)) :
    Prop :=
  ∀ next ∈ later.find? (·.event.isIncrement key),
    ∀ moment ∈ later.takeWhile (!·.event.isIncrement key) ++ [next],
      Lasts written lifetime moment.now

/-- Whether no increment of a key has expired when the next one arrives. -/
def Uninterrupted (key : Key) : List (Moment Request) → Prop
  | [] => True
  | moment :: later =>
      (∀ added ∈ moment.event.increment? key,
        LastsToNext key moment.now added.2 later) ∧
      Uninterrupted key later

instance
    (key : Key)
    (written : Int64)
    (lifetime : Span)
    (later : List (Moment Request)) :
    Decidable (LastsToNext key written lifetime later) :=
  inferInstanceAs (Decidable (∀ next ∈ later.find? _, _))

instance decidableUninterrupted (key : Key) :
    (moments : List (Moment Request)) → Decidable (Uninterrupted key moments)
  | [] => inferInstanceAs (Decidable True)
  | _ :: later =>
      have := decidableUninterrupted key later
      inferInstanceAs (Decidable (_ ∧ _))

/-- The counter that the bytes under a key hold, which starts from zero. -/
def counterOf (live? : Option (List UInt8)) : Int64 :=
  (readable? live?).getD 0

/-- The counter that the first increment of a key meets in a run. -/
def initialCounter (key : Key) (table : Table) : List (Moment Request) → Int64
  | [] => 0
  | moment :: rest =>
      if moment.event.isIncrement key then
        counterOf (table.get? moment.now key)
      else
        initialCounter key (Table.serve moment.now moment.event table).2 rest

/-- The sum of increments, stopped at the ends of the range at every step. -/
def runningSum (start : Int64) (added : List Int64) : Int64 :=
  added.foldl Saturating.add start

/-- Whether a sum never leaves the range, in whatever order it is formed. -/
def StaysInRange (start : Int64) (added : List Int64) : Prop :=
  ∀ order : List Int64, order.Perm added → ∀ part, part <+: order →
    Saturating.lowest ≤ start.toInt + (part.map Int64.toInt).sum ∧
      start.toInt + (part.map Int64.toInt).sum ≤ Saturating.highest

/-- The bytes that a patch tells. -/
def Response.told? : Response → Option (List UInt8)
  | .reply (.patched result) => some result
  | .outcome (.patched result) => some result
  | _ => none

/--
Whether a request of a run tells a sum, and reading the key gives just what was
told until that has expired or the key is written again.
-/
structure TellsSum
    (table : Table)
    (key : Key)
    (earlier : List (Moment Request))
    (moment : Moment Request)
    (later : List (Moment Request))
    (lifetime : Span)
    (sum : Int64) :
    Prop where
  decodes : Wire.decode (Wire.encode sum) = .ok sum
  told :
    (Table.serve moment.now moment.event
      (after Table.serve table earlier)).1.told? = some (Wire.encode sum)
  kept : ∀ still rest now, later = still ++ rest →
    (∀ other ∈ still, other.event.made.written? ≠ some key ∧
      Lasts moment.now lifetime other.now) →
    Lasts moment.now lifetime now →
      (after Table.serve table (earlier ++ moment :: still)).get? now key =
        some (Wire.encode sum)

variable
    {table : Table}
    {key : Key}
    {now written : Int64}
    {delta : Int64}
    {lifetime : Span}
    {request : Request}
    {moment : Moment Request}
    {moments later : List (Moment Request)}

/-! ## One request -/

theorem Request.increment?_eq_some_iff :
    request.increment? key = some (delta, lifetime) ↔
      request.made = .patch key (.increment delta) lifetime := by
  rw [increment?]
  split
  · next own change span made =>
      rw [made, Option.ite_none_right_eq_some, Option.some.injEq, Prod.mk.injEq,
        Use.patch.injEq, Patch.increment.injEq]
  · next other =>
      constructor
      · intro none
        cases none
      · intro made
        exact absurd made (other key delta lifetime)

theorem Request.isIncrement_iff :
    request.isIncrement key = true ↔
      ∃ delta lifetime, request.increment? key = some (delta, lifetime) := by
  rw [isIncrement, Option.isSome_iff_exists, Prod.exists]

/-- An increment tells the counter that it leaves. -/
theorem Table.serve_increment
    (adds : request.increment? key = some (delta, lifetime))
    (now : Int64)
    (table : Table) :
    let sum := Saturating.add (counterOf (table.get? now key)) delta
    (Table.serve now request table).1.told? = some (Wire.encode sum) ∧
      (Table.serve now request table).2.find? key =
        some (Entry.written (Wire.encode sum) now lifetime) := by
  have made := Request.increment?_eq_some_iff.1 adds
  have stored := table.find?_put_self now key
    (Wire.encode (Saturating.add (counterOf (table.get? now key)) delta)) lifetime
  cases request with
  | direct use =>
      cases made
      exact ⟨rfl, stored⟩
  | command command =>
      cases command with
      | patch other change span =>
          cases made
          exact ⟨rfl, stored⟩
      | get read => cases made
      | put other value span => cases made
      | delete other => cases made

/-- What has not expired is left by a request that does not write it. -/
theorem Table.find?_serve_of_isLive
    {entry : Entry}
    (found : table.find? key = some entry)
    (elsewhere : request.made.written? ≠ some key)
    (live : entry.isLive now = true) :
    (Table.serve now request table).2.find? key = some entry := by
  rw [Table.serve_snd]
  rcases table.find?_use now elsewhere with same | swept
  · rw [same, found]
  · rw [swept, found, Option.filter_some, if_pos live]

/-! ## Between two increments -/

/-- What has not expired is left by a run that does not write it. -/
theorem Table.find?_after_of_isLive
    {entry : Entry}
    (found : table.find? key = some entry)
    (spared : ∀ moment ∈ moments, moment.event.made.written? ≠ some key ∧
      entry.isLive moment.now = true) :
    (after Table.serve table moments).find? key = some entry := by
  induction moments generalizing table with
  | nil => exact found
  | cons moment rest ih =>
      rcases List.forall_mem_cons.1 spared with ⟨⟨elsewhere, live⟩, others⟩
      exact ih (find?_serve_of_isLive found elsewhere live) others

theorem LastsToNext.lasts_head
    (lasts : LastsToNext key written lifetime (moment :: later))
    (arrives : moment.event.isIncrement key = true ∨
      ∃ next ∈ later, next.event.isIncrement key = true) :
    Lasts written lifetime moment.now := by
  cases adds : moment.event.isIncrement key with
  | true =>
      have first : (moment :: later).find? (·.event.isIncrement key) =
          some moment := List.find?_cons_of_pos adds
      exact lasts moment first moment (List.mem_append_right _ List.mem_cons_self)
  | false =>
      rcases arrives with now | ⟨next, member, increments⟩
      · exact absurd now (by rw [adds]; exact Bool.false_ne_true)
      · have some_ : (later.find? (·.event.isIncrement key)).isSome = true :=
          List.find?_isSome.2 ⟨next, member, increments⟩
        rcases Option.isSome_iff_exists.1 some_ with ⟨first, found⟩
        have skipped : (moment :: later).find? (·.event.isIncrement key) =
            some first := by
          rw [List.find?_cons_of_neg (by rw [adds]; exact Bool.false_ne_true),
            found]
        have among : moment ∈
            (moment :: later).takeWhile (!·.event.isIncrement key) := by
          rw [List.takeWhile_cons_of_pos (by rw [adds]; rfl)]
          exact List.mem_cons_self
        exact lasts first skipped moment (List.mem_append_left _ among)

theorem LastsToNext.tail
    (lasts : LastsToNext key written lifetime (moment :: later))
    (other : moment.event.isIncrement key = false) :
    LastsToNext key written lifetime later := by
  intro next found waiting member
  have skipped : (moment :: later).find? (·.event.isIncrement key) =
      some next := by
    rw [List.find?_cons_of_neg (by rw [other]; exact Bool.false_ne_true)]
    exact found
  apply lasts next skipped waiting
  rw [List.takeWhile_cons_of_pos (by rw [other]; rfl)]
  exact List.mem_cons_of_mem moment member

/-- The next increment meets the counter that the last one has left. -/
theorem initialCounter_of_lasting
    {counter : Int64}
    (found : table.find? key =
      some (Entry.written (Wire.encode counter) written lifetime))
    (counts : ∀ moment ∈ later, moment.event.Counts key)
    (lasts : LastsToNext key written lifetime later)
    (arrives : ∃ next ∈ later, next.event.isIncrement key = true) :
    initialCounter key table later = counter := by
  induction later generalizing table with
  | nil =>
      rcases arrives with ⟨next, member, _⟩
      cases member
  | cons moment rest ih =>
      rcases List.forall_mem_cons.1 counts with ⟨own, others⟩
      rcases arrives with ⟨next, member, increments⟩
      rw [initialCounter]
      cases adds : moment.event.isIncrement key with
      | true =>
          have live := (Table.get?_eq_some_iff_of_written found _).2
            ⟨rfl, lasts.lasts_head (.inl adds)⟩
          rw [if_pos rfl, live, counterOf,
            readable?_encode (Wire.reads_int64 counter), Option.getD_some]
      | false =>
          have elsewhere := own.resolve_left (by rw [adds]; exact Bool.false_ne_true)
          have waits : ∃ next ∈ rest, next.event.isIncrement key = true := by
            rcases List.mem_cons.1 member with rfl | later
            · rw [adds] at increments
              cases increments
            · exact ⟨next, later, increments⟩
          have live := (Entry.isLive_written_iff (Wire.encode counter) _ _ _).2
            (lasts.lasts_head (.inr waits))
          rw [if_neg Bool.false_ne_true]
          exact ih (Table.find?_serve_of_isLive found elsewhere live) others
            (lasts.tail adds) waits

/-- A clock that has not gone back shows the first increment what lived at first. -/
theorem initialCounter_of_spared
    {earlier : List (Moment Request)}
    (counts : ∀ moment ∈ earlier, moment.event.Counts key)
    (spared : ∀ other ∈ earlier,
      other.event.isIncrement key = false ∧ other.now ≤ moment.now)
    (increments : moment.event.isIncrement key = true) :
    initialCounter key table (earlier ++ moment :: later) =
      counterOf (table.get? moment.now key) := by
  induction earlier generalizing table with
  | nil =>
      rw [List.nil_append, initialCounter, if_pos increments]
  | cons other rest ih =>
      rcases List.forall_mem_cons.1 spared with ⟨⟨different, past⟩, others⟩
      rcases List.forall_mem_cons.1 counts with ⟨own, further⟩
      have elsewhere := own.resolve_left
        (by rw [different]; exact Bool.false_ne_true)
      rw [List.cons_append, initialCounter, different,
        if_neg Bool.false_ne_true, ih further others, Table.serve_snd,
        table.get?_use elsewhere past]

/-! ## Sums -/

theorem runningSum_cons (start first : Int64) (rest : List Int64) :
    runningSum start (first :: rest) =
      runningSum (Saturating.add start first) rest :=
  rfl

theorem deltas_append (earlier later : List (Moment Request)) :
    deltas key (earlier ++ later) = deltas key earlier ++ deltas key later :=
  List.filterMap_append

theorem deltas_cons_of_increment
    (adds : moment.event.increment? key = some (delta, lifetime)) :
    deltas key (moment :: later) = delta :: deltas key later := by
  rw [deltas, List.filterMap_cons, adds]
  rfl

theorem deltas_cons_of_other (other : moment.event.isIncrement key = false) :
    deltas key (moment :: later) = deltas key later := by
  have none := Option.isSome_eq_false_iff.1 other
  rw [deltas, List.filterMap_cons, Option.isNone_iff_eq_none.1 none]
  rfl

theorem deltas_eq_nil
    (others : ∀ other ∈ later, other.event.isIncrement key = false) :
    deltas key later = [] := by
  induction later with
  | nil => rfl
  | cons moment rest ih =>
      rcases List.forall_mem_cons.1 others with ⟨other, further⟩
      rw [deltas_cons_of_other other, ih further]

/-- A sum that stays in the range at every step is the exact one. -/
theorem toInt_runningSum
    {start : Int64}
    {added : List Int64}
    (inRange : ∀ part, part <+: added →
      Saturating.lowest ≤ start.toInt + (part.map Int64.toInt).sum ∧
        start.toInt + (part.map Int64.toInt).sum ≤ Saturating.highest) :
    (runningSum start added).toInt =
      start.toInt + (added.map Int64.toInt).sum := by
  induction added generalizing start with
  | nil => simp [runningSum]
  | cons first rest ih =>
      have step : (Saturating.add start first).toInt =
          start.toInt + first.toInt := by
        have one := inRange [first] (by simp)
        rw [List.map_singleton, List.sum_singleton] at one
        exact Saturating.toInt_saturate_of_mem one.1 one.2
      have later : ∀ part, part <+: rest →
          Saturating.lowest ≤
              (Saturating.add start first).toInt + (part.map Int64.toInt).sum ∧
            (Saturating.add start first).toInt + (part.map Int64.toInt).sum ≤
              Saturating.highest := by
        intro part begins
        have whole := inRange (first :: part)
          (List.cons_prefix_cons.2 ⟨rfl, begins⟩)
        rw [List.map_cons, List.sum_cons, ← Int.add_assoc, ← step] at whole
        exact whole
      have sum := ih later
      rw [step] at sum
      rw [runningSum_cons, List.map_cons, List.sum_cons, ← Int.add_assoc]
      exact sum

/-- Sums that stay in the range are the same in every order. -/
theorem StaysInRange.toInt_runningSum
    {start : Int64}
    {added order : List Int64}
    (stays : StaysInRange start added)
    (reordered : order.Perm added) :
    (runningSum start order).toInt =
      start.toInt + (added.map Int64.toInt).sum := by
  rw [Store.toInt_runningSum (stays order reordered),
    (reordered.map Int64.toInt).sum_eq]

/-- A sum that leaves the range depends on the order. -/
example : runningSum Int64.maxValue [1, -1] ≠ runningSum Int64.maxValue [-1, 1] := by
  decide +kernel

/-! ## Whole runs -/

/-- An increment that arrives tells the sum, and it stays until it has expired. -/
theorem tellsSum_of_increment
    (adds : moment.event.increment? key = some (delta, lifetime))
    (table : Table)
    (later : List (Moment Request)) :
    TellsSum table key [] moment later lifetime
      (Saturating.add (counterOf (table.get? moment.now key)) delta) := by
  rcases Table.serve_increment adds moment.now table with ⟨told, stored⟩
  refine ⟨(Wire.reads_int64 _).decode, told, ?_⟩
  intro still rest now _ spared lasts
  have found := Table.find?_after_of_isLive stored fun other member =>
    ⟨(spared other member).1,
      (Entry.isLive_written_iff _ _ _ _).2 (spared other member).2⟩
  exact (Table.get?_eq_some_iff_of_written found _).2 ⟨rfl, lasts⟩

theorem TellsSum.cons
    {first : Moment Request}
    {earlier : List (Moment Request)}
    {sum : Int64}
    (tells : TellsSum (Table.serve first.now first.event table).2 key earlier
      moment later lifetime sum) :
    TellsSum table key (first :: earlier) moment later lifetime sum where
  decodes := tells.decodes
  told := by
    rw [after]
    exact tells.told
  kept still rest now split spared lasts := by
    rw [List.cons_append, after]
    exact tells.kept still rest now split spared lasts

/-- Every increment of a run tells the sum up to it. -/
theorem tellsSum_of_uninterrupted
    (table : Table)
    (counts : ∀ moment ∈ moments, moment.event.Counts key)
    (lasting : Uninterrupted key moments)
    {earlier : List (Moment Request)}
    (split : moments = earlier ++ moment :: later)
    (adds : moment.event.increment? key = some (delta, lifetime)) :
    TellsSum table key earlier moment later lifetime
      (runningSum (initialCounter key table moments)
        (deltas key earlier ++ [delta])) := by
  induction earlier generalizing table moments with
  | nil =>
      subst split
      have increments := Request.isIncrement_iff.2 ⟨_, _, adds⟩
      rw [List.nil_append, initialCounter, if_pos increments]
      exact tellsSum_of_increment adds table later
  | cons first rest ih =>
      subst split
      rw [List.cons_append] at counts lasting ⊢
      rcases List.forall_mem_cons.1 counts with ⟨own, others⟩
      have increments := Request.isIncrement_iff.2 ⟨_, _, adds⟩
      have arrives : ∃ next ∈ rest ++ moment :: later,
          next.event.isIncrement key = true :=
        ⟨moment, List.mem_append_right _ List.mem_cons_self, increments⟩
      have told := ih (Table.serve first.now first.event table).2 others
        lasting.2 rfl
      have same : runningSum
            (initialCounter key (Table.serve first.now first.event table).2
              (rest ++ moment :: later))
            (deltas key rest ++ [delta]) =
          runningSum (initialCounter key table (first :: (rest ++ moment :: later)))
            (deltas key (first :: rest) ++ [delta]) := by
        rw [initialCounter]
        cases does : first.event.isIncrement key with
        | true =>
            rcases Request.isIncrement_iff.1 does with ⟨more, span, gives⟩
            have stored := (Table.serve_increment gives first.now table).2
            have lasts : LastsToNext key first.now span (rest ++ moment :: later) :=
              lasting.1 (more, span) gives
            rw [initialCounter_of_lasting stored others lasts arrives, if_pos rfl,
              deltas_cons_of_increment gives, List.cons_append, runningSum_cons]
        | false =>
            rw [if_neg Bool.false_ne_true, deltas_cons_of_other does]
      rw [← same]
      exact told.cons

/--
In every run in which no increment of a key has expired when the next one arrives,
each tells the sum of the increments so far, on top of the counter that lived at
first, and is read until it has expired; and if the sum stays in the range in every
order, then in every order the last increment leaves the exact sum.
-/
theorem increments_add_up
    (table : Table)
    (key : Key)
    (moments : List (Moment Request))
    (counts : ∀ moment ∈ moments, moment.event.Counts key)
    (lasting : Uninterrupted key moments) :
    (∀ earlier moment later delta lifetime,
      moments = earlier ++ moment :: later →
      moment.event.increment? key = some (delta, lifetime) →
        TellsSum table key earlier moment later lifetime
          (runningSum (initialCounter key table moments)
            (deltas key earlier ++ [delta])) ∧
        ((∀ other ∈ earlier,
            other.event.isIncrement key = false ∧ other.now ≤ moment.now) →
          initialCounter key table moments =
            counterOf (table.get? moment.now key))) ∧
    (StaysInRange (initialCounter key table moments) (deltas key moments) →
      ∀ (other : Table) (reordered : List (Moment Request)),
        (∀ moment ∈ reordered, moment.event.Counts key) →
        Uninterrupted key reordered →
        initialCounter key other reordered = initialCounter key table moments →
        (deltas key reordered).Perm (deltas key moments) →
        ∀ earlier last later delta lifetime,
          reordered = earlier ++ last :: later →
          last.event.increment? key = some (delta, lifetime) →
          (∀ moment ∈ later, moment.event.isIncrement key = false) →
            ∃ sum : Int64,
              sum.toInt = (initialCounter key table moments).toInt +
                ((deltas key moments).map Int64.toInt).sum ∧
              TellsSum other key earlier last later lifetime sum) := by
  refine ⟨?each, ?last⟩
  case each =>
    intro earlier moment later delta lifetime split adds
    refine ⟨tellsSum_of_uninterrupted table counts lasting split adds, ?_⟩
    intro spared
    subst split
    exact initialCounter_of_spared
      (fun other member => counts other (List.mem_append_left _ member)) spared
      (Request.isIncrement_iff.2 ⟨_, _, adds⟩)
  case last =>
    intro stays other reordered counted lasts same perm earlier last later delta
      lifetime split adds final
    have tells := tellsSum_of_uninterrupted other counted lasts split adds
    have all : deltas key earlier ++ [delta] = deltas key reordered := by
      rw [split, deltas_append, deltas_cons_of_increment adds,
        deltas_eq_nil final]
    rw [same, all] at tells
    exact ⟨_, stays.toInt_runningSum perm, tells⟩

/--
A counter that is raised and lowered in the last millisecond of its increment is
read to the last millisecond of the next, with another key written between and a
sweep.
-/
theorem increments_add_up_refreshed :
    let key : Key := ⟨"visits", by decide⟩
    let other : Key := ⟨"visitors", by decide⟩
    let table := Table.empty.put 0 key (Wire.encode (40 : Int64)) (.ofSeconds 10)
    let moments : List (Moment Request) :=
      [⟨1000, .direct (.patch key (.increment 2) (.ofSeconds 1))⟩,
        ⟨1900, .direct (.put other [1] (.ofSeconds 1))⟩,
        ⟨1950, .direct .sweep⟩,
        ⟨1999, .command (.patch key (.increment (-5)) (.ofSeconds 1))⟩,
        ⟨2998, .command (.get key)⟩]
    (∀ moment ∈ moments, moment.event.Counts key) ∧ Uninterrupted key moments ∧
      (after Table.serve table moments).get? 2998 key =
        some (Wire.encode (37 : Int64)) := by
  intro key other table moments
  have counts : ∀ moment ∈ moments, moment.event.Counts key := by
    decide +kernel
  have lasting : Uninterrupted key moments := by decide +kernel
  refine ⟨counts, lasting, ?_⟩
  have tells := ((increments_add_up table key moments counts lasting).1
    (moments.take 3) ⟨1999, .command (.patch key (.increment (-5)) (.ofSeconds 1))⟩
    [⟨2998, .command (.get key)⟩] (-5) (.ofSeconds 1) rfl rfl).1
  have sum : runningSum (initialCounter key table moments)
      (deltas key (moments.take 3) ++ [-5]) = 37 := by
    decide +kernel
  rw [sum] at tells
  refine tells.kept _ [] 2998 (List.append_nil _).symm ?_ (by decide +kernel)
  intro moment member
  rw [List.mem_singleton.1 member]
  exact ⟨nofun, by decide +kernel⟩

end QuotaRing.Store
