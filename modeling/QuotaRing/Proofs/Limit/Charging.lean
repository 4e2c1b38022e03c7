import QuotaRing.Proofs.Limit.CounterKey
import QuotaRing.Proofs.Limit.Ledger
import QuotaRing.Proofs.Limit.OneTable

/-!
# Charging and the account of one counter

What hits and charges do to the account of one counter: a hit on it is answered
as its log dictates and joins the log if it is allowed, and hits on others leave
the account as it is.  A request that is allowed has left a stamp in the log of
every counter it was charged to.
-/

namespace QuotaRing.Limit

open QuotaRing.Store (Key Table)

variable
    {key : Key}
    {quota : Quota}
    {stamps : List Int64}
    {now : Int64}
    {table : Table}

namespace Accounts

theorem hit_named
    (accounts : Accounts key quota stamps now table)
    (margin : HasMargin now)
    {subject group : String}
    {definition : Definition}
    (named : counterKey subject group definition.id = .ok key)
    (same : definition.quota = quota)
    (method : Method) :
    ∃ (verdict : Verdict) (next : Table),
      Limit.hit (Datastore.ofTable now) now method subject group definition
          table = (.ok verdict, next) ∧
        verdict.Follows quota.unit quota.value stamps now ∧
        Accounts key quota (verdict.logged stamps now) now next := by
  subst same
  rcases accounts.hit (isShort_of_named named) margin method with
    ⟨verdict, window, follows, tracked, kept⟩
  have told : Limit.hit (Datastore.ofTable now) now method subject group
      definition table = _ := hit_ofTable table named
  have same : counted table now method key definition.quota =
      (window, verdict) := tracked
  rw [same] at told
  exact ⟨verdict, _, told, follows, kept⟩

/-- Hits on other counters write under other keys. -/
theorem hit_other
    (accounts : Accounts key quota stamps now table)
    {subject group : String}
    {definition : Definition}
    (apart : counterKey subject group definition.id ≠ .ok key)
    (method : Method) :
    Accounts key quota stamps now
      (Limit.hit (Datastore.ofTable now) now method subject group definition
        table).2 :=
  accounts.congr (find?_hit_of_ne table apart)

end Accounts

/--
What a decision leaves of a log: the stamps that it adds are of now, and there is
one at least if the request is allowed and touches the counter.
-/
structure Charged
    (key : Key)
    (quota : Quota)
    (stamps : List Int64)
    (now : Int64)
    (touched : Prop)
    (outcome : Except Error Decision × Table)
    (added : List Int64) :
    Prop where
  fresh : ∀ stamp ∈ added, stamp = now
  accounts : Accounts key quota (stamps ++ added) now outcome.2
  left : outcome.1 = .ok .allowed → touched → added ≠ []

/-- A request that is not allowed need not have added anything. -/
theorem Charged.of_refused
    {touched : Prop}
    {outcome : Except Error Decision × Table}
    (accounts : Accounts key quota stamps now outcome.2)
    (refused : outcome.1 ≠ .ok .allowed) :
    Charged key quota stamps now touched outcome [] where
  fresh stamp member := by cases member
  accounts := by
    rw [List.append_nil]
    exact accounts
  left answered := absurd answered refused

theorem Charged.cons
    {touched other : Prop}
    {outcome : Except Error Decision × Table}
    {added : List Int64}
    (charged : Charged key quota (stamps ++ [now]) now touched outcome added) :
    Charged key quota stamps now other outcome (now :: added) where
  fresh := by
    intro stamp member
    rcases List.mem_cons.1 member with rfl | later
    · rfl
    · exact charged.fresh stamp later
  accounts := by
    have accounted := charged.accounts
    rw [List.append_assoc, List.singleton_append] at accounted
    exact accounted
  left _ _ := List.cons_ne_nil now added

theorem Charged.imp
    {touched other : Prop}
    {outcome : Except Error Decision × Table}
    {added : List Int64}
    (charged : Charged key quota stamps now touched outcome added)
    (implies : other → touched) :
    Charged key quota stamps now other outcome added where
  fresh := charged.fresh
  accounts := charged.accounts
  left answered its := charged.left answered (implies its)

/-- Whether a charge is to the counter under a key. -/
def Charge.IsTo (charge : Charge) (key : Key) : Prop :=
  counterKey charge.subject charge.group charge.definition.id = .ok key

/-- Charges in order add to the log of a counter if all to it have its quota. -/
theorem Accounts.chargeAll
    (accounts : Accounts key quota stamps now table)
    (margin : HasMargin now)
    (method : Method)
    {charges : List Charge}
    (same : ∀ charge ∈ charges, charge.IsTo key →
      charge.definition.quota = quota) :
    ∃ added : List Int64,
      Charged key quota stamps now (∃ charge ∈ charges, charge.IsTo key)
        (Limit.chargeAll (Datastore.ofTable now) now method charges table)
        added := by
  induction charges generalizing stamps table with
  | nil =>
      refine ⟨[], ⟨by simp, ?_, by simp⟩⟩
      rw [List.append_nil]
      exact accounts
  | cons charge rest ih =>
      have others : ∀ other ∈ rest, other.IsTo key →
          other.definition.quota = quota :=
        fun other member => same other (List.mem_cons_of_mem charge member)
      rw [chargeAll_cons]
      by_cases named : charge.IsTo key
      · rcases accounts.hit_named margin named
            (same charge List.mem_cons_self named) method with
          ⟨verdict, next, told, _, kept⟩
        rw [told]
        dsimp only
        by_cases allowed : verdict.allowed = true
        · rw [if_pos allowed]
          rw [Verdict.logged, if_pos allowed] at kept
          rcases ih kept others with ⟨added, charged⟩
          exact ⟨now :: added, charged.cons⟩
        · rw [if_neg allowed]
          rw [Verdict.logged, if_neg allowed, List.append_nil] at kept
          exact ⟨[], .of_refused kept (by simp)⟩
      · have kept := accounts.hit_other named method
        cases told : Limit.hit (Datastore.ofTable now) now method charge.subject
            charge.group charge.definition table with
        | mk result next =>
            rw [told] at kept
            cases result with
            | error error => exact ⟨[], .of_refused kept (by simp)⟩
            | ok verdict =>
                dsimp only
                by_cases allowed : verdict.allowed = true
                · rw [if_pos allowed]
                  rcases ih kept others with ⟨added, charged⟩
                  refine ⟨added, charged.imp ?_⟩
                  rintro ⟨touched, member, toKey⟩
                  rcases List.mem_cons.1 member with rfl | later
                  · exact absurd toKey named
                  · exact ⟨touched, later, toKey⟩
                · rw [if_neg allowed]
                  exact ⟨[], .of_refused kept (by simp)⟩

end QuotaRing.Limit
