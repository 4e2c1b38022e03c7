import QuotaRing.Proofs.Limit.Accepted
import QuotaRing.Proofs.Limit.Charging

/-!
# What a configuration charges a request to

The charges of a request are read off the configuration that the rules in force
were made from: the limits that count it, first those of the group that applies
and then those that are shared, both in the order of the configuration.  Main
statements: the rules charge what their configuration says, every charge is to a
counter that has a key, and no two are to the same one.
-/

namespace QuotaRing.Limit

open QuotaRing.Checks (bind_eq_ok eq_map_of_mapM)
open QuotaRing.Store (Key)

/-! ## The charges by the configuration -/

/-- Whether a limit counts a request, if patterns mean what a dialect says. -/
def Definition.countsIn
    (dialect : Dialect)
    (uri : String)
    (method : Method)
    (definition : Definition) :
    Bool :=
  definition.appliesTo method && (dialect definition.pattern).any (· uri)

/-- The charges of the given limits that count a request. -/
def chargesTo
    (dialect : Dialect)
    (limits : List Definition)
    (subject group uri : String)
    (method : Method) :
    List Charge :=
  (limits.filter (·.countsIn dialect uri method)).map fun definition =>
    { subject, group, definition }

/--
The group of a configuration that applies to a caller: the first that names a
group of the caller, and else the first default one.
-/
def Config.groupFor? (config : Config) (callers : List String) : Option Group :=
  (config.groups.find? fun group =>
      callers.any fun caller => group.callers.contains caller).or
    (config.groups.find? (·.isDefault))

/-- All charges of a request in order, by a configuration. -/
def Config.charges
    (dialect : Dialect)
    (config : Config)
    (subject : String)
    (callers : List String)
    (uri : String)
    (method : Method) :
    List Charge :=
  ((config.groupFor? callers).elim [] fun group =>
      chargesTo dialect group.limits subject group.id uri method) ++
    chargesTo dialect config.shared sharedSubject sharedGroup uri method

/-! ## The charges by the rules -/

/-- The rule that a limit becomes. -/
def Rule.ofDefinition (dialect : Dialect) (definition : Definition) : Rule where
  definition := definition
  accepts := (dialect definition.pattern).getD fun _ => false

/-- The group of rules that a group becomes. -/
def RuleGroup.ofGroup (dialect : Dialect) (group : Group) : RuleGroup where
  id := group.id
  isDefault := group.isDefault
  callers := group.callers
  rules := group.limits.map (Rule.ofDefinition dialect)

variable
    {dialect : Dialect}
    {config : Config}
    {version : UInt64}
    {rules : Rules}

theorem Rule.eq_ofDefinition
    {definition : Definition}
    {rule : Rule}
    (compiled : Rule.compile dialect definition = .ok rule) :
    rule = Rule.ofDefinition dialect definition := by
  rw [Rule.compile] at compiled
  rw [Rule.ofDefinition]
  cases found : dialect definition.pattern with
  | none =>
      rw [found] at compiled
      cases compiled
  | some accepts =>
      rw [found] at compiled
      cases compiled
      rfl

theorem RuleGroup.eq_ofGroup
    {group : Group}
    {compiled : RuleGroup}
    (passed : RuleGroup.compile dialect group = .ok compiled) :
    compiled = RuleGroup.ofGroup dialect group := by
  rw [RuleGroup.compile] at passed
  rcases bind_eq_ok passed with ⟨rules, made, same⟩
  cases same
  rw [eq_map_of_mapM (fun _ _ => Rule.eq_ofDefinition) made]
  rfl

/-- The rules of a configuration are its limits in the same order. -/
theorem Rules.eq_of_compile
    (compiled : Rules.compile dialect config version = .ok rules) :
    config.validate = .ok () ∧
      rules.groups = config.groups.map (RuleGroup.ofGroup dialect) ∧
      rules.shared = config.shared.map (Rule.ofDefinition dialect) := by
  rw [Rules.compile] at compiled
  rcases bind_eq_ok compiled with ⟨_, accepted, compiled⟩
  rcases bind_eq_ok compiled with ⟨groups, groupsMade, compiled⟩
  rcases bind_eq_ok compiled with ⟨shared, sharedMade, same⟩
  cases same
  exact ⟨accepted, eq_map_of_mapM (fun _ _ => RuleGroup.eq_ofGroup) groupsMade,
    eq_map_of_mapM (fun _ _ => Rule.eq_ofDefinition) sharedMade⟩

theorem Rule.counts_ofDefinition
    (definition : Definition)
    (uri : String)
    (method : Method) :
    (Rule.ofDefinition dialect definition).counts uri method =
      definition.countsIn dialect uri method := by
  rw [Rule.counts, Definition.countsIn, Rule.ofDefinition]
  cases dialect definition.pattern with
  | none => rfl
  | some accepts => rfl

theorem chargesOf_ofDefinition
    (limits : List Definition)
    (subject group uri : String)
    (method : Method) :
    chargesOf (limits.map (Rule.ofDefinition dialect)) subject group uri method =
      chargesTo dialect limits subject group uri method := by
  have counts : ((·.counts uri method) ∘ Rule.ofDefinition dialect) =
      (·.countsIn dialect uri method) :=
    funext fun definition => Rule.counts_ofDefinition definition uri method
  rw [chargesOf, chargesTo, List.filter_map, counts, List.map_map]
  rfl

theorem Rules.groupFor?_of_compile
    (compiled : Rules.compile dialect config version = .ok rules)
    (callers : List String) :
    rules.groupFor? callers =
      (config.groupFor? callers).map (RuleGroup.ofGroup dialect) := by
  rw [Rules.groupFor?, Config.groupFor?, (Rules.eq_of_compile compiled).2.1,
    List.find?_map, List.find?_map, Option.map_or]
  rfl

/-- The rules in force charge what their configuration says. -/
theorem charges_of_compile
    (compiled : Rules.compile dialect config version = .ok rules)
    (subject : String)
    (callers : List String)
    (uri : String)
    (method : Method) :
    charges rules subject callers uri method =
      config.charges dialect subject callers uri method := by
  rw [charges, Config.charges, Rules.groupFor?_of_compile compiled,
    (Rules.eq_of_compile compiled).2.2, chargesOf_ofDefinition]
  cases config.groupFor? callers with
  | none => rfl
  | some group =>
      show chargesOf (group.limits.map _) _ _ _ _ ++ _ = _
      rw [chargesOf_ofDefinition]
      rfl

/-! ## Their counters -/

/-- Whether no counter takes a charge from two of a list of charges. -/
def Apart (charges : List Charge) : Prop :=
  charges.Pairwise fun left right => ∀ key, left.IsTo key → ¬ right.IsTo key

/-- Whether no two charges of a list are to the same limit of the same group. -/
def Differ (charges : List Charge) : Prop :=
  charges.Pairwise fun left right =>
    ¬ (right.group = left.group ∧ right.definition.id = left.definition.id)

/-- Charges under different plain names are to different counters. -/
theorem Differ.apart
    {charges : List Charge}
    (differ : Differ charges)
    (plain : ∀ charge ∈ charges,
      IsPlain charge.group ∧ IsPlain charge.definition.id) :
    Apart charges := by
  refine differ.imp_of_mem ?_
  intro left right member _ different key isTo isToo
  have names := plain left member
  have same := counterKey_inj names.1.colonFree names.2.colonFree isTo isToo
  exact different ⟨same.1, same.2.1⟩

theorem differ_chargesTo
    {limits : List Definition}
    (distinct : (limits.map Definition.id).Nodup)
    (subject group uri : String)
    (method : Method) :
    Differ (chargesTo dialect limits subject group uri method) := by
  rw [Differ, chargesTo, List.pairwise_map]
  have names := (List.pairwise_map.1 distinct).sublist
    (List.filter_sublist (p := (·.countsIn dialect uri method)))
  exact names.imp fun different same => different same.2.symm

theorem group_of_mem_chargesTo
    {limits : List Definition}
    {subject group uri : String}
    {method : Method}
    {charge : Charge}
    (member : charge ∈ chargesTo dialect limits subject group uri method) :
    charge.group = group := by
  rcases List.mem_map.1 member with ⟨definition, _, rfl⟩
  rfl

theorem Config.mem_groups_of_groupFor
    {callers : List String}
    {group : Group}
    (applies : config.groupFor? callers = some group) :
    group ∈ config.groups := by
  rw [Config.groupFor?] at applies
  rcases Option.or_eq_some_iff.1 applies with found | ⟨_, found⟩
  · exact List.mem_of_find?_eq_some found
  · exact List.mem_of_find?_eq_some found

section Accepted

variable
    (compiled : Rules.compile dialect config version = .ok rules)
    (subject : String)
    (callers : List String)
    (uri : String)
    (method : Method)

include compiled

/-- The names that a request is charged under are plain. -/
theorem isPlain_of_mem_charges
    {charge : Charge}
    (member : charge ∈ config.charges dialect subject callers uri method) :
    IsPlain charge.group ∧ IsPlain charge.definition.id := by
  have ruled := Rules.isOf_of_compile compiled
  rw [← charges_of_compile compiled] at member
  exact (ruled.has_of_mem_charges member).isPlain ruled.accepted

/-- Every counter that a request is charged to has a key. -/
theorem named_of_mem_charges
    {charge : Charge}
    (member : charge ∈ config.charges dialect subject callers uri method) :
    ∃ key, charge.IsTo key := by
  have plain := isPlain_of_mem_charges compiled subject callers uri method member
  exact plain.1.named plain.2 charge.subject

/-- No request is charged to one counter twice. -/
theorem apart_charges :
    Apart (config.charges dialect subject callers uri method) := by
  have accepted := (Rules.eq_of_compile compiled).1
  have ids := Config.nodup_ids accepted
  have shared : Differ (chargesTo dialect config.shared _ _ uri method) :=
    differ_chargesTo ids.1 sharedSubject sharedGroup uri method
  apply Differ.apart _ fun _ =>
    isPlain_of_mem_charges compiled subject callers uri method
  rw [Config.charges]
  cases applies : config.groupFor? callers with
  | none => exact shared
  | some group =>
      have held := Config.mem_groups_of_groupFor applies
      refine List.pairwise_append.2
        ⟨differ_chargesTo (ids.2 group held) _ _ _ _, shared, ?_⟩
      -- a group of an accepted configuration has not the name of the shared one
      intro own isOwn other isShared same
      rw [group_of_mem_chargesTo isOwn, group_of_mem_chargesTo isShared] at same
      exact Config.id_ne_sharedGroup accepted held same.1.symm

end Accepted

end QuotaRing.Limit
