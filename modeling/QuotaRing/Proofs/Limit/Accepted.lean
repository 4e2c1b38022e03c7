import QuotaRing.Limit.Service
import QuotaRing.Proofs.Checks
import QuotaRing.Proofs.Limit.CounterKey

/-!
# Accepted configurations

The names in an accepted configuration can stand in the keys of counters, and
the rules in force have the definitions of the configuration they were made
from.  So every charge of a request is to a limit that the configuration has,
and has a key.
-/

namespace QuotaRing.Limit

open QuotaRing.Store (IsKey Key)
open QuotaRing.Checks (bind_eq_ok mem_of_mapM)
open QuotaRing.Text (isControl)
open QuotaRing.Text.Hexadecimal (plain_of_mem_lowerDigits)

/-- A name that can stand in a key. -/
structure IsPlain (id : String) : Prop where
  short : id.utf8ByteSize ≤ maxIdBytes
  colonFree : ':' ∉ id.toList
  printable : ∀ character ∈ id.toList, isControl character = false

/-- Whether a limit is counted under the name of a group in a configuration. -/
def Config.Has (config : Config) (group : String) (definition : Definition) : Prop :=
  if group = sharedGroup then definition ∈ config.shared
  else ∃ own ∈ config.groups, own.id = group ∧ definition ∈ own.limits

/-! ## What is checked -/

theorem isPlain_of_checkId
    {named : Named}
    {id : String}
    (accepted : checkId named id = .ok ()) :
    IsPlain id := by
  rw [checkId] at accepted
  split at accepted
  · cases accepted
  · split at accepted
    · cases accepted
    · next usable =>
        rw [not_or, List.any_eq_true] at usable
        rcases usable with ⟨short, clean⟩
        refine ⟨Nat.not_lt.1 short, ?_, ?_⟩
        · intro member
          exact clean ⟨':', member, rfl⟩
        · intro character member
          cases control : isControl character with
          | false => rfl
          | true =>
              exact absurd ⟨character, member, by rw [control, Bool.or_true]⟩
                clean

/-- Every limit that has been checked has a name of its own that can be used. -/
theorem passed_of_checkLimits
    {group : String}
    {seen : List String}
    {first : Definition}
    {rest : List Definition}
    (accepted : checkLimits group seen (first :: rest) = .ok ()) :
    checkId .limit first.id = .ok () ∧ first.id ∉ seen ∧
      checkLimits group (first.id :: seen) rest = .ok () := by
  rw [checkLimits] at accepted
  rcases bind_eq_ok accepted with ⟨_, checked, accepted⟩
  by_cases repeated : seen.contains first.id = true
  · rw [if_pos repeated] at accepted
    cases accepted
  · rw [if_neg repeated] at accepted
    dsimp only at accepted
    split at accepted
    · cases accepted
    · exact ⟨checked, fun known => repeated (List.contains_iff_mem.2 known),
        accepted⟩

theorem isPlain_of_checkLimits
    {group : String}
    {seen : List String}
    {limits : List Definition}
    (accepted : checkLimits group seen limits = .ok ()) :
    ∀ definition ∈ limits, IsPlain definition.id := by
  induction limits generalizing seen with
  | nil =>
      intro definition member
      cases member
  | cons first rest ih =>
      rcases passed_of_checkLimits accepted with ⟨checked, _, others⟩
      intro definition member
      rcases List.mem_cons.1 member with rfl | later
      · exact isPlain_of_checkId checked
      · exact ih others definition later

/--
Names are distinct if each of them has been checked not to be among those seen
before and is then itself seen.
-/
theorem nodup_of_unseen
    {α : Type}
    {name : α → String}
    (passes : List String → List α → Prop)
    (unseen : ∀ {seen first rest}, passes seen (first :: rest) →
      name first ∉ seen ∧ passes (name first :: seen) rest)
    {seen : List String}
    {items : List α}
    (passed : passes seen items) :
    (items.map name).Nodup ∧ ∀ id ∈ seen, id ∉ items.map name := by
  induction items generalizing seen with
  | nil => simp
  | cons first rest ih =>
      rcases unseen passed with ⟨new, others⟩
      rcases ih others with ⟨distinct, apart⟩
      rw [List.map_cons]
      refine ⟨List.nodup_cons.2 ⟨apart _ List.mem_cons_self, distinct⟩, ?_⟩
      intro id known member
      rcases List.mem_cons.1 member with rfl | later
      · exact new known
      · exact apart id (List.mem_cons_of_mem _ known) later

/-- No two limits of a group have the same name. -/
theorem nodup_of_checkLimits
    {group : String}
    {seen : List String}
    {limits : List Definition}
    (accepted : checkLimits group seen limits = .ok ()) :
    (limits.map Definition.id).Nodup ∧
      ∀ id ∈ seen, id ∉ limits.map Definition.id :=
  nodup_of_unseen (fun seen limits => checkLimits group seen limits = .ok ())
    (fun passed => (passed_of_checkLimits passed).2) accepted

/-- Every group that has been checked has a name of its own that is not reserved. -/
theorem parts_of_checkGroups
    {seen : List String}
    {first : Group}
    {rest : List Group}
    (accepted : checkGroups seen (first :: rest) = .ok ()) :
    checkId .group first.id = .ok () ∧ first.id ≠ sharedGroup ∧
      first.id ∉ seen ∧ checkLimits first.id [] first.limits = .ok () ∧
        checkGroups (first.id :: seen) rest = .ok () := by
  rw [checkGroups] at accepted
  rcases bind_eq_ok accepted with ⟨_, checked, accepted⟩
  by_cases reserved : first.id = sharedGroup
  · rw [if_pos reserved] at accepted
    cases accepted
  · rw [if_neg reserved] at accepted
    dsimp only at accepted
    split at accepted
    · cases accepted
    · next unseen =>
        rcases bind_eq_ok accepted with ⟨_, limits, accepted⟩
        exact ⟨checked, reserved,
          fun known => unseen (List.contains_iff_mem.2 known), limits, accepted⟩

theorem passed_of_checkGroups
    {seen : List String}
    {groups : List Group}
    (accepted : checkGroups seen groups = .ok ()) :
    ∀ group ∈ groups, IsPlain group.id ∧ group.id ≠ sharedGroup ∧
      checkLimits group.id [] group.limits = .ok () := by
  induction groups generalizing seen with
  | nil =>
      intro group member
      cases member
  | cons first rest ih =>
      rcases parts_of_checkGroups accepted with
        ⟨checked, reserved, _, limits, others⟩
      intro group member
      rcases List.mem_cons.1 member with rfl | later
      · exact ⟨isPlain_of_checkId checked, reserved, limits⟩
      · exact ih others group later

/-- No two groups have the same name. -/
theorem nodup_of_checkGroups
    {seen : List String}
    {groups : List Group}
    (accepted : checkGroups seen groups = .ok ()) :
    (groups.map Group.id).Nodup ∧ ∀ id ∈ seen, id ∉ groups.map Group.id := by
  refine nodup_of_unseen (fun seen groups => checkGroups seen groups = .ok ())
    (fun passed => ?_) accepted
  rcases parts_of_checkGroups passed with ⟨_, _, unseen, _, others⟩
  exact ⟨unseen, others⟩

theorem isPlain_sharedGroup : IsPlain sharedGroup where
  short := by decide
  colonFree := by decide
  printable := by
    simp [sharedGroup]
    decide

/-- The names of an accepted configuration are plain. -/
theorem Config.Has.isPlain
    {config : Config}
    {group : String}
    {definition : Definition}
    (has : config.Has group definition)
    (accepted : config.validate = .ok ()) :
    IsPlain group ∧ IsPlain definition.id := by
  rw [Config.validate] at accepted
  rcases bind_eq_ok accepted with ⟨_, groups, shared⟩
  by_cases isShared : group = sharedGroup
  · rw [Config.Has, if_pos isShared] at has
    subst isShared
    exact ⟨isPlain_sharedGroup, isPlain_of_checkLimits shared definition has⟩
  · rw [Config.Has, if_neg isShared] at has
    rcases has with ⟨own, member, rfl, holds⟩
    have passed := passed_of_checkGroups groups own member
    exact ⟨passed.1, isPlain_of_checkLimits passed.2.2 definition holds⟩

/-- No group of an accepted configuration has the name of the shared limits. -/
theorem Config.id_ne_sharedGroup
    {config : Config}
    (accepted : config.validate = .ok ())
    {own : Group}
    (member : own ∈ config.groups) :
    own.id ≠ sharedGroup := by
  rw [Config.validate] at accepted
  rcases bind_eq_ok accepted with ⟨_, groups, _⟩
  exact (passed_of_checkGroups groups own member).2.1

/-- No two limits that are counted under one name of a group have one name. -/
theorem Config.nodup_ids
    {config : Config}
    (accepted : config.validate = .ok ()) :
    (config.shared.map Definition.id).Nodup ∧
      ∀ own ∈ config.groups, (own.limits.map Definition.id).Nodup := by
  rw [Config.validate] at accepted
  rcases bind_eq_ok accepted with ⟨_, groups, shared⟩
  refine ⟨(nodup_of_checkLimits shared).1, fun own member => ?_⟩
  exact (nodup_of_checkLimits (passed_of_checkGroups groups own member).2.2).1

/-- Plain names have a key. -/
theorem IsPlain.named
    {group limit : String}
    (plainGroup : IsPlain group)
    (plainLimit : IsPlain limit)
    (subject : String) :
    ∃ key, counterKey subject group limit = .ok key := by
  have valid : IsKey (counterText subject group limit) := by
    refine ⟨?_, ?_, ?_⟩
    · rw [Bool.eq_false_iff]
      intro empty
      have size := utf8ByteSize_counterText subject group limit
      rw [String.isEmpty_iff.1 empty] at size
      rw [String.utf8ByteSize_empty] at size
      omega
    · have groupShort := plainGroup.short
      have limitShort := plainLimit.short
      rw [utf8ByteSize_counterText]
      simp only [maxIdBytes, Store.maxKeyBytes] at *
      omega
    · rw [List.any_eq_false]
      intro character member
      rw [Bool.not_eq_true]
      rw [toList_counterText] at member
      simp only [List.mem_append, List.mem_cons] at member
      have printable : ∀ character ∈ "ratelimit".toList,
          isControl character = false := by
        simp
        decide
      rcases member with word | rfl | group | rfl | limit | rfl | digit
      · exact printable character word
      · rfl
      · exact plainGroup.printable character group
      · rfl
      · exact plainLimit.printable character limit
      · rfl
      · exact (plain_of_mem_lowerDigits
          (digest_subset subject character digit)).1
  exact ⟨⟨_, valid⟩, counterKey_eq_ok_iff.2 rfl⟩

/-! ## Rules that were made from a configuration -/

/-- Rules that a configuration has been made into. -/
structure Rules.IsOf (rules : Rules) (config : Config) : Prop where
  accepted : config.validate = .ok ()
  groups : ∀ group ∈ rules.groups, ∃ own ∈ config.groups,
    own.id = group.id ∧ ∀ rule ∈ group.rules, rule.definition ∈ own.limits
  shared : ∀ rule ∈ rules.shared, rule.definition ∈ config.shared

theorem definition_of_compile
    {dialect : Dialect}
    {definition : Definition}
    {rule : Rule}
    (compiled : Rule.compile dialect definition = .ok rule) :
    rule.definition = definition := by
  rw [Rule.compile] at compiled
  split at compiled
  · cases compiled
    rfl
  · cases compiled

theorem definitions_of_mapM
    {dialect : Dialect}
    {limits : List Definition}
    {rules : List Rule}
    (compiled : limits.mapM (Rule.compile dialect) = .ok rules) :
    ∀ rule ∈ rules, rule.definition ∈ limits := by
  intro rule member
  rcases mem_of_mapM compiled rule member with ⟨definition, held, same⟩
  rw [definition_of_compile same]
  exact held

theorem Rules.isOf_of_compile
    {dialect : Dialect}
    {config : Config}
    {version : UInt64}
    {rules : Rules}
    (compiled : Rules.compile dialect config version = .ok rules) :
    rules.IsOf config := by
  rw [Rules.compile] at compiled
  rcases bind_eq_ok compiled with ⟨_, accepted, compiled⟩
  rcases bind_eq_ok compiled with ⟨groups, groupsMade, compiled⟩
  rcases bind_eq_ok compiled with ⟨shared, sharedMade, same⟩
  cases same
  refine ⟨accepted, ?_, definitions_of_mapM sharedMade⟩
  intro group member
  rcases mem_of_mapM groupsMade group member with ⟨own, held, made⟩
  rw [RuleGroup.compile] at made
  rcases bind_eq_ok made with ⟨rules, rulesMade, same⟩
  cases same
  exact ⟨own, held, rfl, definitions_of_mapM rulesMade⟩

namespace Rules.IsOf

variable
    {rules : Rules}
    {config : Config}
    {group : RuleGroup}
    {callers : List String}

theorem mem_groups_of_groupFor
    (applies : rules.groupFor? callers = some group) :
    group ∈ rules.groups := by
  rw [groupFor?] at applies
  rcases Option.or_eq_some_iff.1 applies with found | ⟨_, found⟩
  · exact List.mem_of_find?_eq_some found
  · exact List.mem_of_find?_eq_some found

theorem id_ne_sharedGroup_of_groupFor
    (isOf : rules.IsOf config)
    (applies : rules.groupFor? callers = some group) :
    group.id ≠ sharedGroup := by
  rcases isOf.groups group (mem_groups_of_groupFor applies) with
    ⟨own, held, same, _⟩
  rw [← same]
  exact Config.id_ne_sharedGroup isOf.accepted held

/-- The limits of the group that applies are limits of the configuration. -/
theorem has_of_groupFor
    (isOf : rules.IsOf config)
    (applies : rules.groupFor? callers = some group)
    {rule : Rule}
    (member : rule ∈ group.rules) :
    config.Has group.id rule.definition := by
  rcases isOf.groups group (mem_groups_of_groupFor applies) with
    ⟨own, held, same, limits⟩
  rw [Config.Has, if_neg (isOf.id_ne_sharedGroup_of_groupFor applies)]
  exact ⟨own, held, same, limits rule member⟩

/-- Every charge of a request is to a limit of the configuration. -/
theorem has_of_mem_charges
    (isOf : rules.IsOf config)
    {subject uri : String}
    {method : Method}
    {charge : Charge}
    (member : charge ∈ charges rules subject callers uri method) :
    config.Has charge.group charge.definition := by
  rcases List.mem_append.1 member with own | shared
  · cases applies : rules.groupFor? callers with
    | none =>
        rw [applies] at own
        cases own
    | some group =>
        rw [applies] at own
        rcases List.mem_map.1 own with ⟨rule, counted, rfl⟩
        exact isOf.has_of_groupFor applies (List.mem_filter.1 counted).1
  · rcases List.mem_map.1 shared with ⟨rule, counted, rfl⟩
    rw [Config.Has, if_pos rfl]
    exact isOf.shared rule (List.mem_filter.1 counted).1

end Rules.IsOf

end QuotaRing.Limit
