import QuotaRing.Proofs.Limit.Chosen
import QuotaRing.Proofs.Limit.Recording
import QuotaRing.Proofs.Limit.Reports

/-!
# What a request leaves in the counters

A request is charged in the order of its charges, up to the first counter that
has no room.  Main statement: in any table, a request is allowed exactly if all
its counters have room in that table, and then it leaves one hit more in each;
else it is refused for the first that has none, and leaves one hit more in each
counter before it and no hit in any other.  What is under other keys stays as it
was.
-/

namespace QuotaRing.Limit

open QuotaRing.Store (Entry Key Table)
open QuotaRing.Wire (encode)

variable
    {charge : Charge}
    {key : Key}
    {now : Int64}
    {table : Table}

namespace Charge

/-- The window that a charge finds, under the quota that is in force. -/
def found (charge : Charge) (table : Table) (now : Int64) : Window :=
  { (liveWindow table now charge.subject charge.group charge.definition.id).getD
      (Window.fresh charge.definition.quota) with
    quota := charge.definition.quota }

/-- The hits that a charge meets: those it finds that are not too old. -/
def meets (charge : Charge) (table : Table) (now : Int64) : Window :=
  (charge.found table now).viewAt now

/-- Whether there is room for one hit more in the counter of a charge. -/
def HasRoom (charge : Charge) (table : Table) (now : Int64) : Prop :=
  (charge.meets table now).hits.length < charge.definition.value.toNat

/--
Whether a charge has left its counter with the hits that it met and the given
stamps: nothing else is in it, and it lives for one window length from now.
-/
def Records
    (charge : Charge)
    (stamps : List Int64)
    (now : Int64)
    (before after : Table) :
    Prop :=
  ∃ (key : Key) (hits : List Int64),
    charge.IsTo key ∧
      hits.Perm (stamps ++ (charge.meets before now).hits) ∧
      after.find? key =
        some (Entry.written
          (encode ({ quota := charge.definition.quota, hits } : Window)) now
          charge.definition.unit.span)

/-- The refusal of a request for the want of room in a counter. -/
def refusal (charge : Charge) (table : Table) (now : Int64) : Decision :=
  let told := (charge.meets table now).verdict false now
  .overLimit charge.definition.id (Instant.ofMillis told.nextAvailable)
    (told.retryAfter now)

end Charge

/-- Whether two tables have the same under all keys but those charged to. -/
def Untouched (charges : List Charge) (before after : Table) : Prop :=
  ∀ key, (∀ charge ∈ charges, ¬ charge.IsTo key) →
    after.find? key = before.find? key

/-- What comes of a request that is charged in order, by the table it meets. -/
inductive Spends
    (now : Int64)
    (table : Table)
    (charges : List Charge) :
    Except Error Decision × Table → Prop where
  /-- All counters have room and get one hit each. -/
  | allowed
      (next : Table)
      (room : ∀ charge ∈ charges, charge.HasRoom table now)
      (recorded : ∀ charge ∈ charges, charge.Records [now] now table next)
      (others : Untouched charges table next) :
      Spends now table charges (.ok .allowed, next)
  /-- The first counter without room gets no hit, and those before it one each. -/
  | refused
      (spent : List Charge)
      (full : Charge)
      (rest : List Charge)
      (next : Table)
      (parts : charges = spent ++ full :: rest)
      (room : ∀ charge ∈ spent, charge.HasRoom table now)
      (noRoom : ¬ full.HasRoom table now)
      (recorded : ∀ charge ∈ spent, charge.Records [now] now table next)
      (unrecorded : full.Records [] now table next)
      (skipped : ∀ charge ∈ rest, ∀ key, charge.IsTo key →
        next.find? key = table.find? key)
      (others : Untouched (spent ++ [full]) table next) :
      Spends now table charges (.ok (full.refusal table now), next)

/-! ## One charge -/

namespace Charge

/-- What a charge meets depends on the entry of its counter alone. -/
theorem meets_congr
    {other : Table}
    (isTo : charge.IsTo key)
    (same : other.find? key = table.find? key)
    (now : Int64) :
    charge.meets other now = charge.meets table now := by
  rw [meets, meets, found, found, liveWindow_of_named isTo,
    liveWindow_of_named isTo, Table.get?_congr same]

theorem hit_eq
    (isTo : charge.IsTo key)
    (now : Int64)
    (method : Method)
    (table : Table) :
    hit (Datastore.ofTable now) now method charge.subject charge.group
        charge.definition table =
      (.ok ((charge.found table now).track now).2,
        table.put now key (encode ((charge.found table now).track now).1)
          charge.definition.unit.span) := by
  rw [hit_ofTable table isTo, found, liveWindow_of_named isTo]
  rfl

/-- The table in which a charge has put a window with the hits that it met. -/
theorem records_put
    {stamps hits : List Int64}
    (isTo : charge.IsTo key)
    (held : hits.Perm (stamps ++ (charge.meets table now).hits)) :
    charge.Records stamps now table
        (table.put now key
          (encode ({ quota := charge.definition.quota, hits } : Window))
          charge.definition.unit.span) ∧
      Untouched [charge] table
        (table.put now key
          (encode ({ quota := charge.definition.quota, hits } : Window))
          charge.definition.unit.span) := by
  refine ⟨⟨key, hits, isTo, held, Table.find?_put_self ..⟩, ?_⟩
  intro other apart
  apply Table.find?_put_of_ne
  rintro rfl
  exact apart charge List.mem_cons_self isTo

theorem hit_of_room
    (isTo : charge.IsTo key)
    (room : charge.HasRoom table now)
    (method : Method) :
    ∃ (verdict : Verdict) (next : Table),
      hit (Datastore.ofTable now) now method charge.subject charge.group
          charge.definition table = (.ok verdict, next) ∧
        verdict.allowed = true ∧
        charge.Records [now] now table next ∧
        Untouched [charge] table next := by
  have left : 0 < (charge.meets table now).remaining :=
    Nat.sub_pos_of_lt room
  have tracked : (charge.found table now).track now =
      ((charge.meets table now).record now,
        ((charge.meets table now).record now).verdict true now) :=
    if_pos left
  have told := hit_eq isTo now method table
  rw [tracked] at told
  exact ⟨_, _, told, rfl, records_put isTo (Window.record_perm _ now)⟩

theorem hit_of_full
    (isTo : charge.IsTo key)
    (noRoom : ¬ charge.HasRoom table now)
    (method : Method) :
    ∃ next : Table,
      hit (Datastore.ofTable now) now method charge.subject charge.group
          charge.definition table =
          (.ok ((charge.meets table now).verdict false now), next) ∧
        charge.Records [] now table next ∧
        Untouched [charge] table next := by
  have none : ¬ 0 < (charge.meets table now).remaining :=
    fun left => noRoom (Nat.lt_of_sub_pos left)
  have tracked : (charge.found table now).track now =
      (charge.meets table now, (charge.meets table now).verdict false now) :=
    if_neg none
  have told := hit_eq isTo now method table
  rw [tracked] at told
  exact ⟨_, told, records_put isTo (.refl _)⟩

end Charge

/-! ## Charges in order -/

/-- A charge leaves the counter of another as it is. -/
theorem Untouched.find?_eq
    {other : Charge}
    {next : Table}
    (untouched : Untouched [charge] table next)
    (apart : ∀ key, charge.IsTo key → ¬ other.IsTo key)
    (isTo : other.IsTo key) :
    next.find? key = table.find? key := by
  apply untouched
  intro only isCharge toKey
  rw [List.mem_singleton.1 isCharge] at toKey
  exact apart key toKey isTo

theorem Untouched.cons
    {rest : List Charge}
    {next last : Table}
    (first : Untouched [charge] table next)
    (others : Untouched rest next last) :
    Untouched (charge :: rest) table last := by
  intro key apart
  have same := others key fun other member =>
    apart other (List.mem_cons_of_mem charge member)
  rw [same]
  apply first
  intro other member
  rw [List.mem_singleton.1 member]
  exact apart charge List.mem_cons_self

/-- What is recorded stays while other counters are charged to. -/
theorem Charge.Records.kept
    {stamps : List Int64}
    {others : List Charge}
    {next last : Table}
    (records : charge.Records stamps now table next)
    (untouched : Untouched others next last)
    (apart : ∀ other ∈ others, ∀ key, charge.IsTo key → ¬ other.IsTo key) :
    charge.Records stamps now table last := by
  rcases records with ⟨key, hits, isTo, held, stored⟩
  refine ⟨key, hits, isTo, held, ?_⟩
  rw [untouched key fun other member => apart other member key isTo]
  exact stored

/-- A charge that finds room goes before what comes of the charges behind it. -/
theorem Spends.cons
    {rest : List Charge}
    {next : Table}
    {outcome : Except Error Decision × Table}
    (named : ∀ other ∈ rest, ∃ key, other.IsTo key)
    (apart : ∀ other ∈ rest, ∀ key, charge.IsTo key → ¬ other.IsTo key)
    (room : charge.HasRoom table now)
    (recorded : charge.Records [now] now table next)
    (untouched : Untouched [charge] table next)
    (spends : Spends now next rest outcome) :
    Spends now table (charge :: rest) outcome := by
  -- the counters of the others stand as before the charge
  have same : ∀ other ∈ rest, ∀ key, other.IsTo key →
      next.find? key = table.find? key :=
    fun other member _ => untouched.find?_eq (apart other member)
  have meets : ∀ other ∈ rest, other.meets next now = other.meets table now := by
    intro other member
    rcases named other member with ⟨key, isTo⟩
    exact Charge.meets_congr isTo (same other member key isTo) now
  have hasRoom : ∀ other ∈ rest,
      (other.HasRoom next now ↔ other.HasRoom table now) := by
    intro other member
    rw [Charge.HasRoom, Charge.HasRoom, meets other member]
  have records : ∀ other ∈ rest, ∀ stamps last,
      other.Records stamps now next last → other.Records stamps now table last := by
    intro other member stamps last
    rw [Charge.Records, Charge.Records, meets other member]
    exact id
  cases spends with
  | allowed last roomy all others =>
      refine .allowed last ?_ ?_ (untouched.cons others)
      · exact List.forall_mem_cons.2
          ⟨room, fun other member => (hasRoom other member).1 (roomy other member)⟩
      · exact List.forall_mem_cons.2
          ⟨recorded.kept others apart,
            fun other member => records other member _ _ (all other member)⟩
  | refused spent full rest last parts roomy noRoom all unrecorded skipped others =>
      subst parts
      have isSpent : ∀ other ∈ spent, other ∈ spent ++ full :: rest :=
        fun other member => List.mem_append_left _ member
      have isFull : full ∈ spent ++ full :: rest :=
        List.mem_append_right spent List.mem_cons_self
      have isRest : ∀ other ∈ rest, other ∈ spent ++ full :: rest :=
        fun other member =>
          List.mem_append_right spent (List.mem_cons_of_mem full member)
      have touched : ∀ other ∈ spent ++ [full], other ∈ spent ++ full :: rest := by
        intro other member
        rw [List.append_cons]
        exact List.mem_append_left rest member
      rw [Charge.refusal, meets full isFull]
      refine .refused (charge :: spent) full rest last rfl ?_
        (fun roomy => noRoom ((hasRoom full isFull).2 roomy)) ?_
        (records full isFull _ _ unrecorded) ?_ (untouched.cons others)
      · exact List.forall_mem_cons.2
          ⟨room, fun other member =>
            (hasRoom other (isSpent other member)).1 (roomy other member)⟩
      · exact List.forall_mem_cons.2
          ⟨recorded.kept others fun other member =>
              apart other (touched other member),
            fun other member =>
              records other (isSpent other member) _ _ (all other member)⟩
      · intro other member key isTo
        rw [skipped other member key isTo]
        exact same other (isRest other member) key isTo

/-- Charges to counters of their own are made in order, up to the first refusal. -/
theorem chargeAll_spends
    {charges : List Charge}
    (named : ∀ charge ∈ charges, ∃ key, charge.IsTo key)
    (apart : Apart charges)
    (now : Int64)
    (method : Method)
    (table : Table) :
    Spends now table charges
      (chargeAll (Datastore.ofTable now) now method charges table) := by
  induction charges generalizing table with
  | nil => exact .allowed table (by simp) (by simp) fun key _ => rfl
  | cons charge rest ih =>
      rcases List.forall_mem_cons.1 named with ⟨⟨key, isTo⟩, named⟩
      rcases List.pairwise_cons.1 apart with ⟨first, apart⟩
      rw [chargeAll_cons]
      by_cases room : charge.HasRoom table now
      · rcases Charge.hit_of_room isTo room method with
          ⟨verdict, next, told, allowed, recorded, untouched⟩
        rw [told]
        dsimp only
        rw [if_pos allowed]
        exact .cons named first room recorded untouched (ih named apart next)
      · rcases Charge.hit_of_full isTo room method with
          ⟨next, told, unrecorded, untouched⟩
        rw [told]
        exact .refused [] charge rest next rfl (by simp) room (by simp) unrecorded
          (fun other member _ => untouched.find?_eq (first other member)) untouched

/--
A request is charged to the counters of the limits that count it, all of which
are different, in the order of the configuration and up to the first that has no
room.
-/
theorem track_spends
    (dialect : Dialect)
    (config : Config)
    (version : UInt64)
    (rules : Rules)
    (table : Table)
    (now : Int64)
    (subject : String)
    (callers : List String)
    (uri spelled : String)
    (method : Method)
    (compiled : Rules.compile dialect config version = .ok rules)
    (nonblank : Text.isBlankText subject = false)
    (read : Method.read spelled = .ok method) :
    Spends now table (config.charges dialect subject callers uri method)
        (track (Datastore.ofTable now) rules now subject callers uri spelled
          table) ∧
      Apart (config.charges dialect subject callers uri method) ∧
      ∀ charge ∈ config.charges dialect subject callers uri method,
        ∃ key, charge.IsTo key ∧
          ∀ other group limit, counterKey other group limit = .ok key →
            group = charge.group ∧ limit = charge.definition.id ∧
              digest other = digest charge.subject := by
  have named : ∀ charge ∈ config.charges dialect subject callers uri method,
      ∃ key, charge.IsTo key :=
    fun _ => named_of_mem_charges compiled subject callers uri method
  have apart := apart_charges compiled subject callers uri method
  refine ⟨?_, apart, ?_⟩
  · have spends := chargeAll_spends named apart now method table
    rw [← charges_of_compile compiled] at spends ⊢
    rw [track_eq, checkSubject, if_neg (by simp [nonblank]), read]
    exact spends
  · intro charge member
    rcases named charge member with ⟨key, isTo⟩
    have plain := isPlain_of_mem_charges compiled subject callers uri method member
    exact ⟨key, isTo, fun other group limit otherNamed =>
      counterKey_inj plain.1.colonFree plain.2.colonFree isTo otherNamed⟩

/-- The second request of a subject to whom a first one has left no room. -/
theorem track_spends_second :
    let dialect : Dialect := fun _ => some fun _ => true
    let limit (id : String) (value : UInt32) : Definition :=
      { id, uri := "*", pattern := ".*", methods := [.any], unit := .hour, value }
    let config : Config :=
      { groups := [
          { id := "customers", isDefault := true, callers := []
            limits := [limit "many" 5, limit "one" 1, limit "few" 3] }]
        shared? := some [limit "all" 9] }
    let now : Int64 := 1700000000000
    ∃ rules, Rules.compile dialect config 0 = .ok rules ∧
      let table := (track (Datastore.ofTable now) rules now "alice" [] "/orders"
        "GET" .empty).2
      let charges := config.charges dialect "alice" [] "/orders" .get
      Spends now table charges
          (track (Datastore.ofTable now) rules now "alice" [] "/orders" "GET"
            table) ∧
        Apart charges ∧
        ∀ charge ∈ charges,
          ∃ key, charge.IsTo key ∧
            ∀ other group limit, counterKey other group limit = .ok key →
              group = charge.group ∧ limit = charge.definition.id ∧
                digest other = digest charge.subject := by
  intro dialect limit config now
  have evaluated : (Rules.compile dialect config 0).isOk = true := by
    decide +kernel
  cases compiled : Rules.compile dialect config 0 with
  | error fault =>
      rw [compiled] at evaluated
      cases evaluated
  | ok rules =>
      exact ⟨rules, rfl, track_spends dialect config 0 rules _ now "alice" []
        "/orders" "GET" .get compiled (by decide) rfl⟩

end QuotaRing.Limit
