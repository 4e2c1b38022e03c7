import QuotaRing.Proofs.Limit.Accepted
import QuotaRing.Proofs.Limit.Actions

/-!
# Limits with counters of their own

A limit of an accepted configuration is counted under the name of its group, or
of the shared group, and under its own name.  Main statement: every subject has
a key for each limit, two keys are the same exactly if both names and the 128
bits of the subject are, and so no two limits of the configuration have a key
in common, whoever the subjects are.
-/

namespace QuotaRing.Limit

open QuotaRing.Checks (bind_eq_ok)
open QuotaRing.Store (Key readable?)

/-- All limits of a configuration, each with the name of the group it is counted in. -/
def Config.limits (config : Config) : List (String × Definition) :=
  (config.groups.flatMap fun own =>
      own.limits.map fun definition => (own.id, definition)) ++
    config.shared.map fun definition => (sharedGroup, definition)

/--
Whether the hits of a subject on a limit and the views of its counter get as far
as the entry under a key, in every store.
-/
structure IsCountedUnder
    (subject group : String)
    (definition : Definition)
    (key : Key) :
    Prop where
  named : counterKey subject group definition.id = .ok key
  hit_eq : ∀ (σ : Type) (store : Datastore σ) (now : Int64) (method : Method),
    hit store now method subject group definition = (do
      let result ← store.patch key
        (.trackHit
          { quota := definition.quota
            method := method
            stamp := now })
        definition.unit.span
      decoded (α := Verdict) result)
  current_eq : ∀ (σ : Type) (store : Datastore σ) (now : Int64),
    current store now subject group definition = (do
      let stored? ← store.get key
      pure ((readable? stored?).map fun window : Window => window.viewAt now))

variable
    {config : Config}
    {subject group : String}
    {definition : Definition}
    {key : Key}

theorem isCountedUnder
    (named : counterKey subject group definition.id = .ok key) :
    IsCountedUnder subject group definition key where
  named := named
  hit_eq σ store now method := by
    rw [hit, named]
    rfl
  current_eq σ store now := by
    rw [current, named]
    refine (pure_bind key _).trans ?_
    refine congrArg (store.get key >>= ·) (funext fun stored? => ?_)
    cases stored? with
    | none => rfl
    | some bytes =>
        simp only [readable?, Option.bind_some]
        cases (Wire.decode bytes : Except _ Window) <;> rfl

/-! ## The limits of a configuration -/

theorem Config.has_of_mem_limits
    (accepted : config.validate = .ok ())
    {limit : String × Definition}
    (member : limit ∈ config.limits) :
    config.Has limit.1 limit.2 := by
  rcases List.mem_append.1 member with own | shared
  · rcases List.mem_flatMap.1 own with ⟨group, held, listed⟩
    rcases List.mem_map.1 listed with ⟨definition, holds, rfl⟩
    rw [Config.Has, if_neg (Config.id_ne_sharedGroup accepted held)]
    exact ⟨group, held, rfl, holds⟩
  · rcases List.mem_map.1 shared with ⟨definition, holds, rfl⟩
    rw [Config.Has, if_pos rfl]
    exact holds

/-- No two limits of an accepted configuration have both names in common. -/
theorem Config.pairwise_limits
    (accepted : config.validate = .ok ()) :
    config.limits.Pairwise fun left right =>
      ¬ (left.1 = right.1 ∧ left.2.id = right.2.id) := by
  have ids := Config.nodup_ids accepted
  have groups : (config.groups.map Group.id).Nodup := by
    rw [Config.validate] at accepted
    rcases bind_eq_ok accepted with ⟨_, checked, _⟩
    exact (nodup_of_checkGroups checked).1
  rw [Config.limits, List.pairwise_append, List.pairwise_flatMap]
  refine ⟨⟨?_, ?_⟩, ?_, ?_⟩
  · intro own held
    rw [List.pairwise_map]
    exact (List.pairwise_map.1 (ids.2 own held)).imp
      fun different same => different same.2
  · refine (List.pairwise_map.1 groups).imp ?_
    intro own other different left ofOwn right ofOther same
    rcases List.mem_map.1 ofOwn with ⟨_, _, rfl⟩
    rcases List.mem_map.1 ofOther with ⟨_, _, rfl⟩
    exact different same.1
  · rw [List.pairwise_map]
    exact (List.pairwise_map.1 ids.1).imp fun different same => different same.2
  · -- no group has the name under which the shared limits are counted
    intro left ofGroup right isShared same
    rcases List.mem_flatMap.1 ofGroup with ⟨own, held, listed⟩
    rcases List.mem_map.1 listed with ⟨_, _, rfl⟩
    rcases List.mem_map.1 isShared with ⟨_, _, rfl⟩
    exact Config.id_ne_sharedGroup accepted held same.1

/-- Two counters of plain names have one key exactly if they are the same counter. -/
theorem counterKey_eq_iff
    {other otherGroup : String}
    {otherDefinition : Definition}
    {otherKey : Key}
    (plainGroup : IsPlain group)
    (plainLimit : IsPlain definition.id)
    (named : counterKey subject group definition.id = .ok key)
    (otherNamed : counterKey other otherGroup otherDefinition.id = .ok otherKey) :
    key = otherKey ↔
      group = otherGroup ∧ definition.id = otherDefinition.id ∧
        fingerprint subject = fingerprint other := by
  rw [← digest_eq_iff]
  constructor
  · rintro rfl
    rcases counterKey_inj plainGroup.colonFree plainLimit.colonFree named
        otherNamed with
      ⟨groups, limits, digests⟩
    exact ⟨groups.symm, limits.symm, digests.symm⟩
  · intro same
    rcases same with ⟨groups, limits, digests⟩
    rw [← counterKey_congr digests, ← groups, ← limits, named] at otherNamed
    exact Except.ok.inj otherNamed

/--
In an accepted configuration every limit is counted under a key for every
subject; two keys are equal exactly if the groups, the limits and the 128 bits
of the subjects are; and no key of one limit is a key of another one, be it of
the same group, of another one or shared.
-/
theorem limits_have_own_counters
    (config : Config)
    (accepted : config.validate = .ok ()) :
    (∀ limit ∈ config.limits, ∀ subject,
      ∃ key, IsCountedUnder subject limit.1 limit.2 key) ∧
    (∀ left ∈ config.limits, ∀ right ∈ config.limits,
      ∀ subject other key otherKey,
        IsCountedUnder subject left.1 left.2 key →
        IsCountedUnder other right.1 right.2 otherKey →
          (key = otherKey ↔
            left.1 = right.1 ∧ left.2.id = right.2.id ∧
              fingerprint subject = fingerprint other)) ∧
    config.limits.Pairwise fun left right =>
      ∀ subject other key otherKey,
        IsCountedUnder subject left.1 left.2 key →
        IsCountedUnder other right.1 right.2 otherKey →
          key ≠ otherKey := by
  have plain : ∀ limit ∈ config.limits, IsPlain limit.1 ∧ IsPlain limit.2.id :=
    fun limit member => (Config.has_of_mem_limits accepted member).isPlain accepted
  refine ⟨?_, ?_, ?_⟩
  · intro limit member subject
    rcases (plain limit member).1.named (plain limit member).2 subject with
      ⟨key, named⟩
    exact ⟨key, isCountedUnder named⟩
  · intro left isLeft right _ subject other key otherKey counted otherCounted
    exact counterKey_eq_iff (plain left isLeft).1 (plain left isLeft).2
      counted.named otherCounted.named
  · refine (Config.pairwise_limits accepted).imp_of_mem ?_
    intro left right isLeft _ different subject other key otherKey counted
      otherCounted same
    have parts := (counterKey_eq_iff (plain left isLeft).1 (plain left isLeft).2
      counted.named otherCounted.named).1 same
    exact different ⟨parts.1, parts.2.1⟩

/--
A limit with a name of 128 bytes in 64 characters, and a shared one of the same
name: someone who is called like the subject of the shared limits has a counter
of their own.
-/
theorem limits_have_own_counters_namesake :
    let limit : Definition :=
      { id := String.ofList (List.replicate 64 'é'), uri := "*", pattern := ".*"
        methods := [.any], unit := .hour, value := 5 }
    let config : Config :=
      { groups := [
          { id := "customers", isDefault := true, callers := []
            limits := [limit] }]
        shared? := some [limit] }
    limit.id.utf8ByteSize = maxIdBytes ∧ config.validate = .ok () ∧
      ∃ key shared,
        IsCountedUnder sharedSubject "customers" limit key ∧
          IsCountedUnder sharedSubject sharedGroup limit shared ∧
          key ≠ shared := by
  intro limit config
  have passes : config.validate.isOk = true := by decide +kernel
  have accepted : config.validate = .ok () := by
    cases told : config.validate with
    | error fault =>
        rw [told] at passes
        cases passes
    | ok _ => rfl
  rcases limits_have_own_counters config accepted with ⟨exist, _, apart⟩
  rcases exist ("customers", limit) (by simp [Config.limits, config])
      sharedSubject with
    ⟨key, counted⟩
  rcases exist (sharedGroup, limit)
      (by simp [Config.limits, Config.shared, config]) sharedSubject with
    ⟨shared, sharedCounted⟩
  exact ⟨by decide +kernel, accepted, key, shared, counted, sharedCounted,
    (List.pairwise_cons.1 apart).1 (sharedGroup, limit) List.mem_cons_self _ _ _ _
      counted sharedCounted⟩

end QuotaRing.Limit
